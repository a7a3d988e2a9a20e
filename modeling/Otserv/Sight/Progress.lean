import Otserv.Sight.Steps

/-!
# The line of sight comes to an end

If every iteration that the walk can come to forms its distances without overflow (`Fine`), each
moves towards the destination, and so many iterations are enough as there are columns and rows to
go (`sound_of_fine`).
-/

namespace Otserv.Sight

open Foundation Foundation.DigitalLine
open World (Position)

/-- A step towards the destination, of one unit in at least one coordinate. -/
structure Towards (destination pos next : Position) : Prop where
  column : next.getX = pos.getX ∨ (next.getX - pos.getX).natAbs = 1 ∧
    (destination.getX - next.getX).natAbs + 1 = (destination.getX - pos.getX).natAbs
  row : next.getY = pos.getY ∨ (next.getY - pos.getY).natAbs = 1 ∧
    (destination.getY - next.getY).natAbs + 1 = (destination.getY - pos.getY).natAbs
  moves : next.getX ≠ pos.getX ∨ next.getY ≠ pos.getY
  floor : next.z = pos.z

/-- Nothing overflows, each iteration of the walking loop moves towards the destination, and it
ends in its column unless a tile is in the way. -/
structure Sound (getTile : Position → Option SightTile) (start destination : Position) : Prop where
  line : (getLine start destination).isSome
  progress : ∀ line, getLine start destination = some line → ∀ iterations pos,
    walk destination getTile line (mx start destination) (my start destination) iterations start =
        .onTheWay pos →
      ∃ next, line.move pos destination (mx start destination) (my start destination) =
          some next ∧ Towards destination pos next
  ends : ∀ line, getLine start destination = some line →
    walk destination getTile line (mx start destination) (my start destination)
        (columns start destination) start = .blocked ∨
      ∃ pos, walk destination getTile line (mx start destination) (my start destination)
          (columns start destination) start = .arrived pos ∧
        pos.x = destination.x ∧ pos.y = destination.y ∧ pos.z = start.z

variable {start destination : Position}

/-- Every iteration that the walk can come to forms its distances. -/
def Fine (start destination : Position) : Prop :=
  ∀ i k pos, OnWay start destination i k pos → Near start destination i k → ¬(i = 0 ∧ k = 0) →
    AllFormed start destination pos

theorem near_start (apart : ¬(dx start destination = 0 ∧ dy start destination = 0)) :
    Near start destination (dx start destination) (dy start destination) :=
  ⟨fun steep => .start (by omega), fun flat => .start (by omega)⟩

variable {pos : Position}

theorem left_ne_zero {i k : Nat} (onWay : OnWay start destination i k pos)
    (near : Near start destination i k) (onTheWay : ¬(i = 0 ∧ k = 0)) :
    left start destination i k ≠ 0 := by
  have columns := onWay.columns
  intro none
  rw [left] at none
  split at none
  next steep =>
    subst none
    exact onTheWay ⟨(near.steep steep).rest_eq_zero (by omega), rfl⟩
  next flat =>
    subst none
    exact onTheWay ⟨rfl, (near.flat (by omega)).rest_eq_zero (by omega)⟩

theorem OnWay.arrived_iff {i k : Nat} (onWay : OnWay start destination i k pos) :
    pos.x = destination.x ∧ pos.y = destination.y ↔ i = 0 ∧ k = 0 := by
  rw [onWay.x_eq_iff, onWay.y_eq_iff]

theorem Leads.towards {i k i' k' : Nat} {pos next : Position}
    (onWay : OnWay start destination i k pos) (leads : Leads start destination i k next i' k') :
    Towards destination pos next := by
  have ofNow := onWay.x
  have ofNext := leads.onWay.x
  have rowNow := onWay.y
  have rowNext := leads.onWay.y
  refine ⟨?_, ?_, ?_, leads.onWay.z.trans onWay.z.symm⟩
  · rcases leads.column with rfl | rfl
    · omega
    · have columns := onWay.columns
      rcases mx_cases start destination with ⟨is, -⟩ | ⟨-, -, none⟩ | ⟨is, -⟩
      · rw [is] at ofNow ofNext
        omega
      · omega
      · rw [is] at ofNow ofNext
        omega
  · rcases leads.row with rfl | rfl
    · omega
    · have rows := onWay.rows
      rcases my_cases start destination with ⟨is, -⟩ | ⟨-, -, none⟩ | ⟨is, -⟩
      · rw [is] at rowNow rowNext
        omega
      · omega
      · rw [is] at rowNow rowNext
        omega
  · have less := leads.left
    have rows := onWay.rows
    simp only [Sight.left] at less
    split at less
    · right
      rcases my_cases start destination with ⟨is, -⟩ | ⟨-, -, none⟩ | ⟨is, -⟩
      · rw [is] at rowNow rowNext
        omega
      · omega
      · rw [is] at rowNow rowNext
        omega
    · left
      rcases mx_cases start destination with ⟨is, -⟩ | ⟨-, -, none⟩ | ⟨is, -⟩
      · rw [is] at ofNow ofNext
        omega
      · omega
      · rw [is] at ofNow ofNext
        omega

variable {getTile : Position → Option SightTile}

/-- What has come of some iterations, with so many columns and rows left at first. -/
def Walked (start destination : Position) (i k iterations : Nat) : Walk → Prop
  | .overflow => False
  | .blocked => True
  | .arrived pos => pos.x = destination.x ∧ pos.y = destination.y ∧ pos.z = start.z
  | .onTheWay pos => ∃ i' k', OnWay start destination i' k' pos ∧ Near start destination i' k' ∧
      ¬(i' = 0 ∧ k' = 0) ∧
        left start destination i' k' + iterations = left start destination i k

variable {line : Line} {mx' my' : Int}

theorem walk_of_arrived (iterations : Nat)
    (arrived : pos.x = destination.x ∧ pos.y = destination.y) :
    walk destination getTile line mx' my' iterations pos = .arrived pos := by
  rw [walk.eq_def]
  exact if_pos arrived

theorem walk_zero (onTheWay : ¬(pos.x = destination.x ∧ pos.y = destination.y)) :
    walk destination getTile line mx' my' 0 pos = .onTheWay pos := by
  exact if_neg onTheWay

theorem walk_succ {pos next : Position} {iterations : Nat}
    (onTheWay : ¬(pos.x = destination.x ∧ pos.y = destination.y))
    (moves : line.move pos destination mx' my' = some next) :
    walk destination getTile line mx' my' (iterations + 1) pos =
      if blocks getTile next then .blocked
      else walk destination getTile line mx' my' iterations next := by
  rw [walk.eq_def]
  simp only [if_neg onTheWay, moves]

theorem Walked.mono {i k i' k' iterations : Nat} {walk : Walk}
    (less : left start destination i' k' + 1 = left start destination i k)
    (walked : Walked start destination i' k' iterations walk) :
    Walked start destination i k (iterations + 1) walk := by
  cases walk with
  | overflow => exact walked
  | blocked => trivial
  | arrived pos => exact walked
  | onTheWay pos =>
    obtain ⟨i'', k'', onWay, near, onTheWay, isLeft⟩ := walked
    exact ⟨i'', k'', onWay, near, onTheWay, by omega⟩

theorem walked_of_fine (fine : Fine start destination)
    (getTile : Position → Option SightTile) (iterations : Nat) :
    ∀ {i k : Nat} {pos : Position}, OnWay start destination i k pos →
      Near start destination i k → Walked start destination i k iterations
        (walk destination getTile (straight start destination) (mx start destination)
          (my start destination) iterations pos) := by
  induction iterations with
  | zero =>
    intro i k pos onWay near
    by_cases arrived : pos.x = destination.x ∧ pos.y = destination.y
    · rw [walk_of_arrived 0 arrived]
      exact ⟨arrived.1, arrived.2, onWay.z⟩
    · rw [walk_zero arrived]
      exact ⟨i, k, onWay, near, mt onWay.arrived_iff.mpr arrived, rfl⟩
  | succ iterations ih =>
    intro i k pos onWay near
    by_cases arrived : pos.x = destination.x ∧ pos.y = destination.y
    · rw [walk_of_arrived _ arrived]
      exact ⟨arrived.1, arrived.2, onWay.z⟩
    have onTheWay := mt onWay.arrived_iff.mpr arrived
    obtain ⟨next, i', k', moves, leads⟩ :=
      move_spec onWay near onTheWay (fine i k pos onWay near onTheWay)
    rw [walk_succ arrived moves]
    split
    · trivial
    · exact (ih leads.onWay leads.near).mono leads.left

/-- **Progress and an end**, where nothing overflows. -/
theorem sound_of_fine (isLine : getLine start destination = some (straight start destination))
    (fine : Fine start destination) : Sound getTile start destination := by
  by_cases apart : dx start destination = 0 ∧ dy start destination = 0
  · have arrived : start.x = destination.x ∧ start.y = destination.y :=
      onWay_start.arrived_iff.mpr apart
    refine ⟨by rw [isLine]; rfl, fun line _ iterations pos walks => ?_, fun line _ => .inr
      ⟨start, walk_of_arrived _ arrived, arrived.1, arrived.2, rfl⟩⟩
    rw [walk_of_arrived _ arrived] at walks
    cases walks
  refine ⟨by rw [isLine]; rfl, fun line isThis iterations pos walks => ?_, fun line isThis => ?_⟩
  · obtain rfl := Option.some.inj (isLine.symm.trans isThis)
    have walked := walked_of_fine fine getTile iterations onWay_start
      (near_start apart)
    rw [walks] at walked
    obtain ⟨i, k, onWay, near, onTheWay, -⟩ := walked
    obtain ⟨next, i', k', moves, leads⟩ :=
      move_spec onWay near onTheWay (fine i k pos onWay near onTheWay)
    exact ⟨next, moves, leads.towards onWay⟩
  · obtain rfl := Option.some.inj (isLine.symm.trans isThis)
    have walked := walked_of_fine fine getTile (columns start destination) onWay_start
      (near_start apart)
    cases isWalk : walk destination getTile (straight start destination) (mx start destination)
      (my start destination) (columns start destination) start with
    | overflow =>
      rw [isWalk] at walked
      exact walked.elim
    | blocked => exact .inl rfl
    | arrived pos =>
      rw [isWalk] at walked
      exact .inr ⟨pos, rfl, walked⟩
    | onTheWay pos =>
      rw [isWalk] at walked
      obtain ⟨i, k, onWay, near, onTheWay, isLeft⟩ := walked
      have more := left_ne_zero onWay near onTheWay
      have most : left start destination (dx start destination) (dy start destination) ≤
          columns start destination := by
        have isColumns : columns start destination =
            dx start destination + dy start destination := rfl
        rw [left, isColumns]
        split <;> omega
      omega

/-! ## What the walk comes to on an empty map -/

theorem walk_succ_of_walk {iterations : Nat} : ∀ {pos later : Position},
    walk destination (fun _ => none) line mx' my' iterations pos = .onTheWay later →
      walk destination (fun _ => none) line mx' my' (iterations + 1) pos =
        walk destination (fun _ => none) line mx' my' 1 later := by
  induction iterations with
  | zero =>
    intro pos later walks
    by_cases arrived : pos.x = destination.x ∧ pos.y = destination.y
    · rw [walk_of_arrived 0 arrived] at walks
      cases walks
    · rw [walk_zero arrived] at walks
      rw [Walk.onTheWay.inj walks]
  | succ iterations ih =>
    intro pos later walks
    by_cases arrived : pos.x = destination.x ∧ pos.y = destination.y
    · rw [walk_of_arrived _ arrived] at walks
      cases walks
    cases moves : line.move pos destination mx' my' with
    | none =>
      rw [walk.eq_def] at walks
      simp only [if_neg arrived, moves] at walks
      cases walks
    | some next =>
      have free : blocks (fun _ => none) next = false := rfl
      rw [walk_succ arrived moves, free, if_neg Bool.false_ne_true] at walks ⊢
      exact ih walks

theorem allFormed_of_move
    (isSome : ((straight start destination).move pos
    destination (mx start destination) (my start destination)).isSome) :
    AllFormed start destination pos := by
  have bind_isSome {α β : Type} {value : Option α} {next : α → Option β}
      (isSome : (value >>= next).isSome) : value.isSome ∧ ∃ result, (next result).isSome := by
    cases value with
    | none => cases isSome
    | some result => exact ⟨rfl, result, isSome⟩
  obtain ⟨hor, _, isSome⟩ := bind_isSome isSome
  obtain ⟨ver, _, isSome⟩ := bind_isSome isSome
  obtain ⟨cross, -⟩ := bind_isSome isSome
  exact ⟨formed_of_distance hor, formed_of_distance ver, formed_of_distance cross⟩

/-- Each number of steps of the longer kind is left once. -/
theorem exists_visited (sound : Sound (fun _ => none) start destination)
    (isLine : getLine start destination = some (straight start destination)) (iterations : Nat)
    (less : iterations <
      left start destination (dx start destination) (dy start destination)) :
    ∃ pos i k, walk destination (fun _ => none) (straight start destination)
        (mx start destination) (my start destination) iterations start = .onTheWay pos ∧
      OnWay start destination i k pos ∧ Near start destination i k ∧
      left start destination i k + iterations =
        left start destination (dx start destination) (dy start destination) := by
  have apart : ¬(dx start destination = 0 ∧ dy start destination = 0) := by
    rintro ⟨columns, rows⟩
    simp [left, columns, rows] at less
  induction iterations with
  | zero =>
    have onTheWay := mt onWay_start.arrived_iff.mp apart
    exact ⟨start, _, _, walk_zero onTheWay, onWay_start, near_start apart, rfl⟩
  | succ iterations ih =>
    obtain ⟨pos, i, k, walks, onWay, near, isLeft⟩ := ih (by omega)
    have onTheWay : ¬(i = 0 ∧ k = 0) := by
      rintro ⟨rfl, rfl⟩
      simp only [left, ite_self] at isLeft
      rw [left] at less
      omega
    obtain ⟨after, isNext, -⟩ := sound.progress _ isLine _ _ walks
    have formed := allFormed_of_move (by rw [isNext]; rfl)
    obtain ⟨next, i', k', moves, leads⟩ := move_spec onWay near onTheWay formed
    have more : ¬(i' = 0 ∧ k' = 0) := by
      rintro ⟨rfl, rfl⟩
      have none := leads.left
      simp only [left, ite_self] at none isLeft less
      omega
    refine ⟨next, i', k', ?_, leads.onWay, leads.near, by have := leads.left; omega⟩
    have free : blocks (fun _ => none) next = false := rfl
    rw [walk_succ_of_walk walks, walk_succ (mt onWay.arrived_iff.mp onTheWay) moves, free,
      if_neg Bool.false_ne_true, walk_zero (mt leads.onWay.arrived_iff.mp more)]

end Otserv.Sight
