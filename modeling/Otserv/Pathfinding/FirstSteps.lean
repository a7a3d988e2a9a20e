import Otserv.Pathfinding.Straight

/-!
# Diagonal first steps

Where a diagonal neighbor of the start is not guarded, there is a condition whose path begins
with a step to it: no other node comes to be its parent before it is the best node (`Lone`), and
the search stops there.
-/

namespace Otserv.Pathfinding

open Otserv.World

variable {request : Request}

/-! ## The best node is found -/

theorem foldl_better_none (table : AStarNodes) (entries : List Nat) (best : Nat × Option Nat)
    (chosen : (entries.foldl table.better best).2 = none) :
    (entries.foldl table.better best).1 = best.1 := by
  induction entries generalizing best with
  | nil => rfl
  | cons i entries ih =>
    have same : table.better best i = best := by
      by_contra changed
      rw [AStarNodes.better] at changed
      split at changed
      next better =>
        -- what has been chosen stays chosen
        have stays (entries : List Nat) : ∀ best : Nat × Option Nat, best.2.isSome →
            (entries.foldl table.better best).2.isSome := by
          induction entries with
          | nil => exact fun best some_ => some_
          | cons k entries ih =>
            intro best some_
            refine ih (table.better best k) ?_
            rw [AStarNodes.better]
            split
            · rfl
            · exact some_
        have chosenStill := stays entries (table.better best i)
          (by rw [AStarNodes.better, if_pos better]; rfl)
        rw [List.foldl_cons] at chosen
        rw [chosen] at chosenStill
        cases chosenStill
      next => exact changed rfl
    rw [List.foldl_cons, same] at chosen ⊢
    exact ih best chosen

variable {goal : Int × Int} {table : AStarNodes}

theorem getBestNode_isSome {i : Nat} (used : i ∈ table.used)
    (isOpen : table.openNodes i = true) (low : table.f i < 2147483647) :
    ∃ n, table.getBestNode = some n := by
  cases chosen : table.getBestNode with
  | some n => exact ⟨n, rfl⟩
  | none =>
    have least := (foldl_better_le table (List.range table.curNode) (2147483647, none)).2 i
      (List.mem_range.mpr (Finset.mem_range.mp used)) isOpen
    rw [foldl_better_none table _ _ chosen] at least
    omega

theorem extra_le (pos : Position) : request.extra pos ≤ 210 := by
  unfold Request.extra Request.getTileWalkCost
  cases isTile : request.getTile pos with
  | none => exact Nat.zero_le _
  | some tile =>
    simp only [mapNormalWalkCost]
    cases field : tile.fieldItem with
    | none =>
      simp only
      split_ifs <;> omega
    | some combatType =>
      simp only
      split_ifs <;> omega

/-- When something was found, expanding does not fail. -/
theorem expand_isSome {n f : Nat} {node : AStarNode} (offsets : List (Int × Int))
    (table : AStarNodes) : ∃ after, request.expand n f node true offsets table = some after := by
  induction offsets generalizing table with
  | nil => exact ⟨table, rfl⟩
  | cons offset offsets ih =>
    rw [Request.expand]
    simp only
    split
    · exact ih table
    split
    · exact ih table
    split
    · split
      · exact ih table
      · exact ih _
    split
    · exact ih table
    split
    · exact ⟨table, rfl⟩
    · exact ih _

/-! ## A node that comes to another makes the table grow -/

theorem Comes.grown {first table after : AStarNodes} {n newf j : Nat} {pos : Position}
    (comes : Comes request n newf pos table after j) (grown : Grown first table) :
    Grown first after := by
  have whole : after.used = insert j table.used := by
    ext i
    rw [Finset.mem_insert]
    exact comes.used i
  by_cases old : j ∈ table.used
  · rw [Finset.insert_eq_of_mem old] at whole
    have curNode : after.curNode = table.curNode := by simpa using congrArg Finset.card whole
    refine grown.lower curNode ?_
    rw [AStarNodes.total, AStarNodes.total, whole]
    refine Finset.sum_lt_sum (fun i member => ?_) ⟨j, old, ?_⟩
    · by_cases here : i = j
      · rw [here, comes.cost]
        exact (comes.lower old).le
      · rw [AStarNodes.f, comes.others i here]
    · rw [comes.cost]
      exact comes.lower old
  · refine grown.more ?_
    have more : table.used.card < after.used.card := by
      rw [whole, Finset.card_insert_of_notMem old]
      exact Nat.lt_succ_self _
    rwa [Finset.card_range, Finset.card_range] at more

/-! ## A diagonal neighbor that stays alone -/

/-- The search with any condition and distance, without diagonals. -/
def Request.asking (request : Request) (call : Position → Position → Int → Bool × Int)
    (maxSearchDist : Int) : Request :=
  { request with
    pathCondition := { request.pathCondition with call := call }
    fpp := { request.fpp with allowDiagonal := false, maxSearchDist := maxSearchDist } }

/-- The start matches, and another position matches best. -/
def callFor (goal : Position) (start pos : Position) (bestMatch : Int) : Bool × Int :=
  if pos = start then (true, 1) else if pos = goal then (true, 0) else (false, bestMatch)

/-- The search for a neighbor of the start, which looks no farther. -/
def Request.toward (request : Request) (goal : Int × Int) : Request :=
  request.asking (callFor (request.around goal)) 1

/-- A diagonal neighbor of the start that can be walked to but has no free straight one next to
it. -/
structure Bare (request : Request) (goal : Int × Int) : Prop where
  columns : goal.1.natAbs = 1
  rows : goal.2.natAbs = 1
  opens : request.Opens goal
  skew : Skew request.startPos (request.around goal)
  bareColumn : ¬request.Free (goal.1, 0)
  bareRow : ¬request.Free (0, goal.2)

/-- The diagonal neighbor is open and hangs on the first node. -/
structure Lone (request : Request) (goal : Int × Int) (d : Nat) (table : AStarNodes) :
    Prop where
  begun : Begun request table
  used : d ∈ table.used
  place : (table.nodes d).pos request = request.around goal
  isOpen : table.openNodes d = true
  parent : table.parent d = some 0
  cost : table.f d = mapDiagonalWalkCost + request.extra (request.around goal)
  near : ∀ i ∈ table.used, NearStart request 1 ((table.nodes i).pos request)

theorem Lone.comes (bare : Bare request goal) {d n : Nat}
    {table after : AStarNodes} (lone : Lone request goal d table) (present : n ∈ table.used)
    (notRoot : n ≠ 0) {offset : Int × Int} (member : offset ∈ allNeighbors)
    (straight : offset.1 = 0 ∨ offset.2 = 0) {j : Nat}
    (near : NearStart request 1 (request.neighborPos (table.nodes n) offset))
    (comes : Comes request n (request.newCost table n offset)
      (request.neighborPos (table.nodes n) offset) table after j) :
    Lone request goal d after := by
  have begun := lone.begun
  have high := begun.newCost_high present notRoot offset
  have differs : d ≠ j := by
    rintro rfl
    have here := comes.same lone.used
    have lower := comes.lower lone.used
    rw [lone.place] at here
    rw [lone.cost, Request.newCost, ← here] at lower
    have low : table.f n < 2 * mapNormalWalkCost := by
      simp only [mapNormalWalkCost, mapDiagonalWalkCost] at lower ⊢
      rcases walkCost_cases (table.nodes n) (request.around goal) with step | step
      · rw [step, mapNormalWalkCost] at lower
        omega
      · rw [step, mapDiagonalWalkCost] at lower
        omega
    obtain ⟨away, isNeighbor, there, free⟩ := begun.first n present notRoot low
    obtain ⟨columns, rows⟩ := near_of_mem isNeighbor
    obtain ⟨moreColumns, moreRows⟩ := near_of_mem member
    have isColumn := bare.columns
    have isRow := bare.rows
    rw [neighborPos_around there] at here
    have sum := around_inj (by simp only; omega) (by simp only; omega) here
    have sumX : goal.1 = away.1 + offset.1 := congrArg Prod.fst sum
    have sumY : goal.2 = away.2 + offset.2 := congrArg Prod.snd sum
    obtain ⟨-, -, -, -, notStay⟩ := small_of_mem member
    rcases straight with zero | zero
    · have some_ : offset.2 ≠ 0 := fun none_ => notStay (Prod.ext zero none_)
      have isCorner : away = (goal.1, 0) := Prod.ext (by simp only; omega) (by simp only; omega)
      exact bare.bareColumn (isCorner ▸ free)
    · have some_ : offset.1 ≠ 0 := fun none_ => notStay (Prod.ext none_ zero)
      have isCorner : away = (0, goal.2) := Prod.ext (by simp only; omega) (by simp only; omega)
      exact bare.bareRow (isCorner ▸ free)
  have same := comes.others d differs
  refine ⟨begun.comes present (not_skew_of_straight straight) high comes,
    (comes.used d).mpr (.inr lone.used), ?_, ?_, ?_, ?_, fun i member => ?_⟩
  · rw [same]
    exact lone.place
  · rw [comes.opens d differs]
    exact lone.isOpen
  · rw [AStarNodes.parent, same]
    exact lone.parent
  · rw [AStarNodes.f, same]
    exact lone.cost
  · by_cases here : i = j
    · rw [here, comes.place]
      exact near
    · rw [comes.others i here]
      exact lone.near i (((comes.used i).mp member).resolve_left here)

theorem Lone.close {d n : Nat} (lone : Lone request goal d table) (differs : d ≠ n) :
    Lone request goal d (table.closeNode n) where
  begun := lone.begun.close n
  used := lone.used
  place := lone.place
  isOpen := (Function.update_of_ne differs _ _).trans lone.isOpen
  parent := lone.parent
  cost := lone.cost
  near := lone.near

/-- A search that looks no farther than one step opens only neighbors of the start. -/
theorem near_of_admits (short : request.fpp.maxSearchDist = 1) {pos : Position}
    (level : pos.z = request.startPos.z) (admits : request.Admits pos) :
    NearStart request 1 pos := by
  have within := admits.1
  rw [short, not_and, not_or] at within
  obtain ⟨columns, rows⟩ := within (by decide)
  simp only [Position.getDistanceX, Position.getDistanceY, Position.getOffsetX,
    Position.getOffsetY, Position.getX, Position.getY, not_lt, abs_le] at columns rows
  refine ⟨((pos.x.toNat : Int) - request.startPos.x.toNat,
    (pos.y.toNat : Int) - request.startPos.y.toNat), by simp only; omega, by simp only; omega, ?_⟩
  have back (value start : UInt16) :
      value = coordinate (start.toNat + ((value.toNat : Int) - start.toNat)) := by
    rw [← coordinate_zero value]
    congr 1
    rw [coordinate_zero]
    omega
  rw [Request.around, ← back pos.x, ← back pos.y, ← level]

/-- A node other than the first is being expanded. -/
structure Passing (request : Request) (goal : Int × Int) (d n : Nat) (first : AStarNodes)
    (offsets : List (Int × Int)) (table : AStarNodes) : Prop where
  lone : Lone request goal d table
  straight : ∀ offset ∈ offsets, offset ∈ allNeighbors ∧ (offset.1 = 0 ∨ offset.2 = 0)
  present : n ∈ table.used
  grown : Grown first table

theorem Passing.step (bare : Bare request goal)
    (short : request.fpp.maxSearchDist = 1) {d n : Nat} (notRoot : n ≠ 0)
    {first : AStarNodes} {offset : Int × Int} {offsets : List (Int × Int)}
    {table after : AStarNodes} (passing : Passing request goal d n first (offset :: offsets) table)
    (tries : request.Tries n (table.f n) (table.nodes n) offset table after) :
    Passing request goal d n first offsets after ∧ after.nodes n = table.nodes n := by
  have straight : ∀ offset ∈ offsets, offset ∈ allNeighbors ∧ (offset.1 = 0 ∨ offset.2 = 0) :=
    fun other member => passing.straight other (List.mem_cons_of_mem _ member)
  obtain ⟨neighbor, isStraight⟩ := passing.straight offset List.mem_cons_self
  rcases tries.cases passing.lone.begun.rooted passing.present with
    ⟨rfl, -⟩ | ⟨admits, j, comes, -⟩
  · exact ⟨{ passing with straight := straight }, rfl⟩
  · exact ⟨⟨passing.lone.comes bare passing.present notRoot neighbor isStraight
      (near_of_admits short rfl admits) comes, straight,
      (comes.used n).mpr (.inr passing.present), comes.grown passing.grown⟩,
      comes.others n comes.differs.symm⟩

theorem Lone.room {d : Nat} (lone : Lone request goal d table) : table.curNode < maxNodes :=
  lone.begun.rooted.room_of_near fun i member => (lone.near i member).mono (by decide)

/-- **One turn of the search** toward the diagonal neighbor. Either it is visited, and the search
stops there, or it stays alone and the search comes nearer to its end. -/
theorem turn_lone (bare : Bare request goal) {d : Nat}
    {state : Request.Search} (lone : Lone (request.toward goal) goal d state.table)
    (found : state.found.isSome) :
    (∃ last, (request.toward goal).turn state = .stop last ∧ last.table = state.table ∧
        last.found = some (d, request.around goal)) ∨
      ∃ after, (request.toward goal).turn state = .next after ∧
        Lone (request.toward goal) goal d after.table ∧ after.found.isSome ∧
        Nearer after.table state.table := by
  have begun := lone.begun
  have low : state.table.f d < 2147483647 := by
    have bound := @extra_le (request.toward goal) ((request.toward goal).around goal)
    rw [lone.cost, mapDiagonalWalkCost]
    omega
  obtain ⟨n, chosen⟩ := getBestNode_isSome lone.used lone.isOpen low
  obtain ⟨used, isOpen, notRoot⟩ := begun.best chosen
  have goes : (request.toward goal).fpp.maxSearchDist ≠ 0 ∨ state.table.closedNodes < 100 :=
    .inl (by decide : (1 : Int) ≠ 0)
  have notStart : (state.table.nodes n).pos (request.toward goal) ≠
      (request.toward goal).startPos := by
    rw [← begun.rooted.first_pos]
    exact fun same => notRoot (begun.rooted.pos_inj used begun.rooted.started same)
  have answer : (request.toward goal).pathCondition.call (request.toward goal).startPos
      ((state.table.nodes n).pos (request.toward goal)) state.bestMatch =
        if (state.table.nodes n).pos (request.toward goal) = request.around goal then (true, 0)
        else (false, state.bestMatch) := if_neg notStart
  rw [Request.turn, if_pos goes, chosen]
  simp only
  rw [AStarNode.pos] at answer
  by_cases here : n = d
  · subst here
    have there : (⟨(state.table.nodes n).x, (state.table.nodes n).y,
        (request.toward goal).startPos.z⟩ : Position) = request.around goal := lone.place
    rw [if_pos there] at answer
    left
    rw [Request.visit]
    simp only [answer]
    exact ⟨_, rfl, rfl, by rw [there]; rfl⟩
  · have elsewhere : (⟨(state.table.nodes n).x, (state.table.nodes n).y,
        (request.toward goal).startPos.z⟩ : Position) ≠ request.around goal := by
      intro same
      exact here (begun.rooted.pos_inj used lone.used (same.trans lone.place.symm))
    rw [if_neg elsewhere] at answer
    right
    rw [Request.visit]
    simp only [answer, Bool.false_eq_true, false_and, if_false, found]
    obtain ⟨p, -, isParent, -⟩ := begun.rooted.parents n used notRoot
    obtain ⟨after, expanded⟩ := @expand_isSome (request.toward goal) n
      (state.table.nodes n).f (state.table.nodes n)
      ((request.toward goal).neighbors state.table (state.table.nodes n)) state.table
    rw [expanded]
    have bare : Bare (request.toward goal) goal :=
      ⟨bare.columns, bare.rows, bare.opens, bare.skew, bare.bareColumn, bare.bareRow⟩
    have noDiagonal : (request.toward goal).fpp.allowDiagonal = false := rfl
    have passing : Passing (request.toward goal) goal d n state.table [] after := by
      refine expand_induct (Passing (request.toward goal) goal d n state.table)
        (fun offset offsets table after passing tries => passing.step bare rfl notRoot tries)
        (fun offset offsets table passing noRoom =>
          absurd noRoom (Nat.not_le_of_lt passing.lone.room))
        ⟨lone, fun offset member => ⟨neighbors_subset _ _ member,
          straight_of_neighbors noDiagonal isParent member⟩, used, .inl rfl⟩ expanded
    exact ⟨_, rfl, passing.lone.close (.symm here), found,
      passing.grown.nearer passing.lone.room.le used isOpen⟩

/-- The search stops at the diagonal neighbor, which still hangs on the first node. -/
theorem search_lone (bare : Bare request goal) {d : Nat}
    {state : Request.Search} (lone : Lone (request.toward goal) goal d state.table)
    (found : state.found.isSome) :
    ∃ fuel last, (request.toward goal).search fuel state = some (some last) ∧
      Lone (request.toward goal) goal d last.table ∧
      last.found = some (d, request.around goal) := by
  have ends : ∀ (table : AStarNodes) (state : Request.Search), state.table = table →
      Lone (request.toward goal) goal d state.table → state.found.isSome →
      ∃ fuel last, (request.toward goal).search fuel state = some (some last) ∧
        Lone (request.toward goal) goal d last.table ∧
        last.found = some (d, request.around goal) := by
    intro table
    induction table using nearer_wf.induction with
    | _ table ih =>
      rintro state rfl lone found
      rcases turn_lone bare lone found with
        ⟨last, stops, sameTable, isFound⟩ | ⟨after, goes, stays, foundStill, nearer⟩
      · refine ⟨1, last, by rw [Request.search, stops], ?_, isFound⟩
        rw [sameTable]
        exact lone
      · obtain ⟨fuel, last, ended, result⟩ := ih after.table nearer after rfl stays foundStill
        exact ⟨fuel + 1, last, by rw [Request.search, goes]; exact ended, result⟩
  exact ends state.table state rfl lone found

/-- The first turn opens the diagonal neighbor. -/
theorem turn_start_lone (bare : Bare request goal) :
    ∃ after d, (request.toward goal).turn (request.toward goal).start = .next after ∧
      Lone (request.toward goal) goal d after.table ∧ after.found.isSome := by
  have rooted := Rooted.start (request.toward goal)
  obtain ⟨n, chosen⟩ := getBestNode_isSome rooted.started
    (by simp [Request.start, AStarNodes.new]) (by rw [AStarNodes.f, rooted.root]; exact (by decide : 0 < 2147483647))
  obtain ⟨used, -⟩ := getBestNode_mem chosen
  obtain rfl : n = 0 := Nat.lt_one_iff.mp (Finset.mem_range.mp used)
  have goes : (request.toward goal).fpp.maxSearchDist ≠ 0 ∨
      (request.toward goal).start.table.closedNodes < 100 := .inl (by decide : (1 : Int) ≠ 0)
  have answer : (request.toward goal).pathCondition.call (request.toward goal).startPos
      ⟨((request.toward goal).start.table.nodes 0).x, ((request.toward goal).start.table.nodes 0).y,
        (request.toward goal).startPos.z⟩ (request.toward goal).start.bestMatch = (true, 1) :=
    if_pos rooted.first_pos
  obtain ⟨after, expanded⟩ := @expand_isSome (request.toward goal) 0
    ((request.toward goal).start.table.nodes 0).f ((request.toward goal).start.table.nodes 0)
    ((request.toward goal).neighbors (request.toward goal).start.table ((request.toward goal).start.table.nodes 0))
    (request.toward goal).start.table
  have opening : Opening (request.toward goal) [] after := opening_of_expand expanded
  have smallA := bare.columns
  have smallB := bare.rows
  obtain ⟨stepA, stepB, columns, rows⟩ := skew_around smallA.le smallB.le bare.skew
  have neighbor : goal ∈ allNeighbors := by
    obtain ⟨a, b⟩ := goal
    rcases stepA with rfl | rfl
    · rcases stepB with rfl | rfl <;> decide
    · rcases stepB with rfl | rfl <;> decide
  have admits : (request.toward goal).Admits ((request.toward goal).around goal) := by
    refine ⟨fun far => ?_, bare.opens.1⟩
    rcases far.2 with tooFar | tooFar
    · change (1 : Int) < request.startPos.getDistanceX (request.around goal) at tooFar
      simp only [Position.getDistanceX, Position.getOffsetX, Position.getX, Request.around,
        columns] at tooFar
      rw [Int.abs_eq_natAbs] at tooFar
      omega
    · change (1 : Int) < request.startPos.getDistanceY (request.around goal) at tooFar
      simp only [Position.getDistanceY, Position.getOffsetY, Position.getY, Request.around,
        rows] at tooFar
      rw [Int.abs_eq_natAbs] at tooFar
      omega
  obtain ⟨d, isUsed, there⟩ := (opening.seen goal neighbor).resolve_left List.not_mem_nil
    admits bare.opens
  have notRoot : d ≠ 0 := by
    rintro rfl
    rw [opening.rooted.first_pos, ← around_zero] at there
    have same := around_inj (by simp only; omega) (by simp only; omega) there
    rw [← same] at smallA
    cases smallA
  refine ⟨{ table := after.closeNode 0, bestMatch := 1,
            found := some (0, (request.toward goal).startPos) }, d, ?_, ?_, rfl⟩
  · rw [Request.turn, if_pos goes, chosen]
    simp only
    rw [Request.visit]
    simp only [answer, if_true]
    rw [if_neg (by decide), Option.isSome_some, expanded]
    rfl
  · refine ⟨opening.begun, isUsed, there, ?_, opening.parent d isUsed notRoot, ?_, opening.near⟩
    · exact (Function.update_of_ne notRoot _ _).trans (opening.isOpen d isUsed)
    · change after.f d = _
      rw [opening.cost d isUsed notRoot, there]
      refine congrArg (· + _) (if_pos ?_)
      simp only [opening.rooted.root]
      change |(request.startPos.x.toNat : Int) -
          (coordinate (request.startPos.x.toNat + goal.1)).toNat| =
        |(request.startPos.y.toNat : Int) -
          (coordinate (request.startPos.y.toNat + goal.2)).toNat|
      rw [columns, rows, Int.abs_eq_natAbs, Int.abs_eq_natAbs]
      omega

/-- The path to the diagonal neighbor is one step. -/
theorem rebuild_lone (bare : Bare request goal) {d : Nat}
    (lone : Lone (request.toward goal) goal d table) :
    ∃ direction : Direction, direction.isDiagonal = true ∧
      Request.rebuild table maxNodes (table.nodes d).parent (request.around goal).x.toNat
        (request.around goal).y.toNat [] = some [direction] := by
  obtain ⟨stepA, stepB, columns, rows⟩ := skew_around bare.columns.le bare.rows.le bare.skew
  have root : table.nodes 0 = { x := request.startPos.x, y := request.startPos.y } :=
    lone.begun.rooted.root
  have isParent : (table.nodes d).parent = some 0 := lone.parent
  have last (path : List Direction) : Request.rebuild table 511 none request.startPos.x.toNat
      request.startPos.y.toNat path = some path := by rw [Request.rebuild]
  have first : Request.rebuild table (511 + 1) (some 0) (request.around goal).x.toNat
      (request.around goal).y.toNat [] =
        some (Request.directionOf (-goal.1) (-goal.2)).toList := by
    rw [Request.rebuild]
    simp only [root, List.append_nil, Request.around, columns, rows]
    have back (start offset : Int) : start - (start + offset) = -offset := by omega
    rw [back, back]
    exact last _
  rw [isParent, maxNodes, first]
  rcases stepA with east | west
  · rcases stepB with south | north
    · exact ⟨.southeast, rfl, by rw [east, south]; rfl⟩
    · exact ⟨.northeast, rfl, by rw [east, north]; rfl⟩
  · rcases stepB with south | north
    · exact ⟨.southwest, rfl, by rw [west, south]; rfl⟩
    · exact ⟨.northwest, rfl, by rw [west, north]; rfl⟩

/-! ## When all paths are straight -/

/-- Without diagonals, no condition and no distance gives a path with a diagonal step. -/
def Request.Straight (request : Request) : Prop :=
  ∀ call maxSearchDist fuel dirs,
    (request.asking call maxSearchDist).getPathMatching fuel [] = some (some dirs) →
      ∀ direction ∈ dirs, direction.isDiagonal = false

/-- **Diagonal steps.** Without `allowDiagonal` all paths from a place are straight, whatever
they lead to, if and only if each diagonal neighbor that can be walked to has a free straight one
next to it. -/
theorem straight_iff_guarded (request : Request) : request.Straight ↔ request.Guarded := by
  constructor
  · intro straight a memberA b memberB opens skew
    by_contra notFree
    obtain ⟨notColumn, notRow⟩ := not_or.mp notFree
    have bare : Bare request (a, b) := by
      refine ⟨?_, ?_, opens, skew, notColumn, notRow⟩
      · revert a
        simp
      · revert b
        simp
    obtain ⟨state, d, turned, lone, found⟩ := turn_start_lone bare
    obtain ⟨fuel, last, ended, stays, isFound⟩ := search_lone bare lone found
    obtain ⟨direction, diagonal, rebuilt⟩ := rebuild_lone bare stays
    have returned : (request.toward (a, b)).getPathMatching (fuel + 1) [] =
        some (some [direction]) := by
      rw [Request.getPathMatching, Request.search, turned]
      simp only [ended, isFound, rebuilt, Option.map_some]
    have notDiagonal := straight _ _ _ _ returned direction List.mem_cons_self
    rw [diagonal] at notDiagonal
    cases notDiagonal
  · intro guarded call maxSearchDist fuel dirs returned
    exact @straight_of_guarded (request.asking call maxSearchDist) rfl guarded fuel dirs returned

/-! ## A path of one diagonal step -/

/-- Two tiles that touch at a corner. -/
def diagonalTiles : Request where
  getTile pos :=
    if pos = westTile then some { address := 0, accepts := true }
    else if pos = ⟨101, 101, 7⟩ then some { address := 1, accepts := true }
    else none
  creature := twoTiles.creature
  pathCondition :=
    { call := fun _ pos bestMatch => (pos = ⟨101, 101, 7⟩, bestMatch)
      isInRange := fun _ _ => true }
  fpp := { allowDiagonal := false }

/-- The creature is led to the southeast, although diagonal steps are not allowed. -/
theorem notStraight_southeast : ¬∀ (request : Request) (fuel : Nat) (dirs : List Direction),
    request.fpp.allowDiagonal = false →
      request.getPathMatching fuel [] = some (some dirs) →
        ∀ direction ∈ dirs, direction.isDiagonal = false := by
  intro straight
  have returned : diagonalTiles.getPathMatching 2 [] = some (some [.southeast]) := by
    decide +kernel
  have notDiagonal := straight diagonalTiles 2 [.southeast] rfl returned .southeast
    List.mem_cons_self
  cases notDiagonal

end Otserv.Pathfinding
