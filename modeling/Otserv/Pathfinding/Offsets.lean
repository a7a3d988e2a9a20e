import Otserv.Pathfinding.Paths

/-!
# What expanding a node tries

Expanding a node tries one neighbor after the other. What a try does is one of five things
(`Tries`): the neighbor is not admitted, it is known at a cost that is as low, it comes to the
node, it cannot be walked to, or it is opened. A step is skew if it changes both coordinates by
one, and these are the steps that are rebuilt as diagonal directions.
-/

namespace Otserv.Pathfinding

open Otserv.World

def Direction.isDiagonal : Direction → Bool
  | .north | .east | .south | .west => false
  | .southwest | .southeast | .northwest | .northeast => true

variable {request : Request}

namespace Request

/-- The search looks as far, and the position is in range if distance is kept. -/
def Admits (request : Request) (pos : Position) : Prop :=
  ¬(request.fpp.maxSearchDist ≠ 0 ∧
      (Position.getDistanceX request.startPos pos > request.fpp.maxSearchDist ∨
        Position.getDistanceY request.startPos pos > request.fpp.maxSearchDist)) ∧
    (request.fpp.keepDistance && !request.pathCondition.isInRange request.startPos pos) = false

/-- What walking to the position costs more than the step itself. -/
def extra (request : Request) (pos : Position) : Nat :=
  request.getTileWalkCost (request.getTile pos)

theorem getTile_of_canWalkTo {pos : Position} {tile : PathTile}
    (walkable : request.canWalkTo pos = some tile) : request.getTile pos = some tile := by
  rw [canWalkTo] at walkable
  split_ifs at walkable
  · exact walkable
  · cases isTile : request.getTile pos with
    | none => simp [isTile] at walkable
    | some other =>
      rw [isTile] at walkable
      simp only at walkable
      split_ifs at walkable
      · exact walkable
      · exact walkable

/-- What trying a neighbor does to the table. -/
inductive Tries (request : Request) (n f : Nat) (node : AStarNode) (offset : Int × Int)
    (table : AStarNodes) : AStarNodes → Prop
  | refused (refuses : ¬request.Admits (request.neighborPos node offset)) :
      Tries request n f node offset table table
  | kept {j : Nat} (admits : request.Admits (request.neighborPos node offset))
      (known : table.getNodeByPosition (request.neighborPos node offset).x
        (request.neighborPos node offset).y = some j)
      (cheap : table.f j ≤ f + getMapWalkCost node (request.neighborPos node offset) +
        request.extra (request.neighborPos node offset)) :
      Tries request n f node offset table table
  | relaxed {j : Nat} (admits : request.Admits (request.neighborPos node offset))
      (known : table.getNodeByPosition (request.neighborPos node offset).x
        (request.neighborPos node offset).y = some j)
      (lower : f + getMapWalkCost node (request.neighborPos node offset) +
        request.extra (request.neighborPos node offset) < table.f j) :
      Tries request n f node offset table
        ((table.reparent j n (f + getMapWalkCost node (request.neighborPos node offset) +
          request.extra (request.neighborPos node offset))).openNode j)
  | blocked (admits : request.Admits (request.neighborPos node offset))
      (unknown : table.getNodeByPosition (request.neighborPos node offset).x
        (request.neighborPos node offset).y = none)
      (blocks : request.canWalkTo (request.neighborPos node offset) = none) :
      Tries request n f node offset table table
  | created {after : AStarNodes} (admits : request.Admits (request.neighborPos node offset))
      (unknown : table.getNodeByPosition (request.neighborPos node offset).x
        (request.neighborPos node offset).y = none)
      (walkable : (request.canWalkTo (request.neighborPos node offset)).isSome)
      (creates : table.createOpenNode n (request.neighborPos node offset).x
        (request.neighborPos node offset).y
        (f + getMapWalkCost node (request.neighborPos node offset) +
          request.extra (request.neighborPos node offset)) = some after) :
      Tries request n f node offset table after

theorem expand_cons {n f : Nat} {node : AStarNode} {found : Bool} {offset : Int × Int}
    {offsets : List (Int × Int)} {table after : AStarNodes}
    (expanded : request.expand n f node found (offset :: offsets) table = some after) :
    (∃ middle, request.Tries n f node offset table middle ∧
        request.expand n f node found offsets middle = some after) ∨
      after = table ∧ table.curNode ≥ maxNodes ∧
        table.getNodeByPosition (request.neighborPos node offset).x
          (request.neighborPos node offset).y = none := by
  rw [expand] at expanded
  split at expanded
  next far => exact .inl ⟨table, .refused fun admits => admits.1 far, expanded⟩
  next near =>
    split at expanded
    next out =>
      exact .inl ⟨table, .refused fun admits => by simp [admits.2] at out, expanded⟩
    next within =>
      have admits : request.Admits (request.neighborPos node offset) :=
        ⟨near, Bool.eq_false_iff.mpr within⟩
      cases known : table.getNodeByPosition (request.neighborPos node offset).x
          (request.neighborPos node offset).y with
      | some j =>
        rw [known] at expanded
        simp only at expanded
        split at expanded
        next cheap => exact .inl ⟨table, .kept admits known cheap, expanded⟩
        next dear =>
          exact .inl ⟨_, .relaxed admits known (Nat.lt_of_not_le dear), expanded⟩
      | none =>
        rw [known] at expanded
        cases walkable : request.canWalkTo (request.neighborPos node offset) with
        | none =>
          rw [walkable] at expanded
          exact .inl ⟨table, .blocked admits known walkable, expanded⟩
        | some tile =>
          rw [walkable] at expanded
          simp only at expanded
          have cost : request.getTileWalkCost (some tile) =
              request.extra (request.neighborPos node offset) := by
            rw [extra, getTile_of_canWalkTo walkable]
          rw [cost] at expanded
          cases creates : table.createOpenNode n (request.neighborPos node offset).x
              (request.neighborPos node offset).y
              (f + getMapWalkCost node (request.neighborPos node offset) +
                request.extra (request.neighborPos node offset)) with
          | none =>
            rw [creates] at expanded
            simp only at expanded
            split at expanded
            · cases expanded
              rw [AStarNodes.createOpenNode] at creates
              split at creates
              next full => exact .inr ⟨rfl, full, rfl⟩
              next => cases creates
            · cases expanded
          | some opened =>
            rw [creates] at expanded
            exact .inl ⟨opened,
              .created admits known (by rw [walkable]; rfl) creates, expanded⟩

end Request

/-! ## The best node -/

theorem foldl_better_le (table : AStarNodes) (entries : List Nat) (best : Nat × Option Nat) :
    (entries.foldl table.better best).1 ≤ best.1 ∧
      ∀ i ∈ entries, table.openNodes i = true →
        (entries.foldl table.better best).1 ≤ table.f i := by
  induction entries generalizing best with
  | nil => exact ⟨Nat.le_refl _, fun i member => absurd member List.not_mem_nil⟩
  | cons j entries ih =>
    obtain ⟨below, least⟩ := ih (table.better best j)
    have step : (table.better best j).1 ≤ best.1 ∧
        (table.openNodes j = true → (table.better best j).1 ≤ table.f j) := by
      rw [AStarNodes.better]
      split
      next better => exact ⟨better.2.le, fun _ => Nat.le_refl _⟩
      next worse => exact ⟨Nat.le_refl _, fun isOpen =>
        Nat.le_of_not_lt fun less => worse ⟨isOpen, less⟩⟩
    refine ⟨below.trans step.1, fun i member isOpen => ?_⟩
    rcases List.mem_cons.mp member with rfl | member
    · exact below.trans (step.2 isOpen)
    · exact least i member isOpen

theorem foldl_better_eq (table : AStarNodes) (entries : List Nat) (best : Nat × Option Nat)
    (isBest : ∀ n, best.2 = some n → best.1 = table.f n) {n : Nat}
    (chosen : (entries.foldl table.better best).2 = some n) :
    (entries.foldl table.better best).1 = table.f n := by
  induction entries generalizing best with
  | nil => exact isBest n chosen
  | cons j entries ih =>
    refine ih (table.better best j) (fun m isM => ?_) chosen
    rw [AStarNodes.better] at isM ⊢
    split at isM
    next better =>
      cases isM
      rw [if_pos better]
    next worse =>
      rw [if_neg worse]
      exact isBest m isM

theorem getBestNode_le {table : AStarNodes} {n i : Nat} (chosen : table.getBestNode = some n)
    (used : i ∈ table.used) (isOpen : table.openNodes i = true) : table.f n ≤ table.f i := by
  have isCost := foldl_better_eq table (List.range table.curNode) (2147483647, none)
    (fun m never => by cases never) chosen
  rw [← isCost]
  exact (foldl_better_le table _ _).2 i (List.mem_range.mpr (Finset.mem_range.mp used)) isOpen

/-! ## Skew steps -/

/-- Both coordinates differ by one. -/
def Skew (pos next : Position) : Prop :=
  (pos.getX - next.getX).natAbs = 1 ∧ (pos.getY - next.getY).natAbs = 1

theorem isDiagonal_of_directionOf {dx dy : Int} {direction : Direction}
    (isDirection : Request.directionOf dx dy = some direction)
    (diagonal : direction.isDiagonal = true) : dx.natAbs = 1 ∧ dy.natAbs = 1 := by
  rw [Request.directionOf] at isDirection
  split_ifs at isDirection
  all_goals
    cases isDirection
    first
      | omega
      | cases diagonal

theorem coordinate_zero (value : UInt16) : coordinate (value.toNat + 0) = value := by
  apply UInt16.toNat_inj.mp
  have bound := value.toNat_lt
  rw [coordinate, UInt16.toNat_ofNat']
  omega

/-! ## The table by positions -/

/-- The first node is at the start, all others have parents, skew only from the first, and nodes
are known by their positions. -/
structure Rooted (request : Request) (table : AStarNodes) : Prop where
  started : 0 ∈ table.used
  root : table.nodes 0 = { x := request.startPos.x, y := request.startPos.y }
  parents : ∀ i ∈ table.used, i ≠ 0 → ∃ p ∈ table.used, table.parent i = some p ∧
    (p ≠ 0 → ¬Skew ((table.nodes p).pos request) ((table.nodes i).pos request))
  known : ∀ x y i, table.getNodeByPosition x y = some i →
    i ∈ table.used ∧ (table.nodes i).x = x ∧ (table.nodes i).y = y
  lookup : ∀ i ∈ table.used,
    table.getNodeByPosition (table.nodes i).x (table.nodes i).y = some i

/-- A node comes to another, or is opened from it: it is the one at the position. -/
structure Comes (request : Request) (n newf : Nat) (pos : Position) (table after : AStarNodes)
    (j : Nat) : Prop where
  used : ∀ i, i ∈ after.used ↔ i = j ∨ i ∈ table.used
  others : ∀ i, i ≠ j → after.nodes i = table.nodes i
  parent : after.parent j = some n
  cost : after.f j = newf
  place : (after.nodes j).pos request = pos
  isOpen : after.openNodes j = true
  opens : ∀ i, i ≠ j → after.openNodes i = table.openNodes i
  lookup : ∀ x y, after.getNodeByPosition x y =
    if x = pos.x ∧ y = pos.y then some j else table.getNodeByPosition x y
  only : ∀ i ∈ table.used, (table.nodes i).pos request = pos → i = j
  same : j ∈ table.used → (table.nodes j).pos request = pos
  lower : j ∈ table.used → newf < table.f j
  notRoot : j ≠ 0
  differs : j ≠ n

theorem Rooted.pos_inj {table : AStarNodes} (rooted : Rooted request table) {i j : Nat}
    (used : i ∈ table.used) (usedToo : j ∈ table.used)
    (same : (table.nodes i).pos request = (table.nodes j).pos request) : i = j := by
  have first := rooted.lookup i used
  have second := rooted.lookup j usedToo
  simp only [AStarNode.pos, Position.mk.injEq, and_true] at same
  rw [same.1, same.2, second] at first
  exact (Option.some.inj first).symm

variable {pos : Position}

theorem comes_of_relaxed {table : AStarNodes} (rooted : Rooted request table) {j n newf : Nat}
    (level : pos.z = request.startPos.z)
    (known : table.getNodeByPosition pos.x pos.y = some j) (atLeast : table.f n ≤ newf)
    (lower : newf < table.f j) :
    Comes request n newf pos table ((table.reparent j n newf).openNode j) j := by
  obtain ⟨nodes, nodeTable, curNode⟩ := openNode_same (table.reparent j n newf) j
  obtain ⟨used, isX, isY⟩ := rooted.known _ _ j known
  have place := table.reparent_place j n newf j
  have isPos : (table.nodes j).pos request = pos := by
    rw [AStarNode.pos, isX, isY, ← level]
  have sameUsed : ((table.reparent j n newf).openNode j).used = table.used := by
    rw [AStarNodes.used, curNode]
    rfl
  have opens (i : Nat) : ((table.reparent j n newf).openNode j).openNodes i =
      if i = j then true else table.openNodes i := by
    rw [AStarNodes.openNode]
    split
    next already =>
      split
      next here => exact here ▸ already
      next => rfl
    next =>
      by_cases here : i = j
      · simp [here]
      · simp [here, AStarNodes.reparent]
  refine ⟨fun i => ?_, fun i other => ?_, ?_, ?_, ?_, ?_, fun i other => ?_, fun x y => ?_,
    fun i member same => ?_, fun _ => isPos, fun _ => lower, ?_, ?_⟩
  · rw [sameUsed]
    constructor
    · exact .inr
    · rintro (rfl | member)
      · exact used
      · exact member
  · rw [nodes, AStarNodes.reparent]
    exact Function.update_of_ne other _ _
  · rw [AStarNodes.parent, nodes]
    change (table.reparent j n newf).parent j = some n
    rw [table.parent_reparent, Function.update_self]
  · rw [AStarNodes.f, nodes]
    change (table.reparent j n newf).f j = newf
    rw [table.f_reparent, Function.update_self]
  · rw [nodes, AStarNode.pos, place.1, place.2]
    exact isPos
  · rw [opens, if_pos rfl]
  · rw [opens, if_neg other]
  · rw [AStarNodes.getNodeByPosition, nodeTable]
    change table.getNodeByPosition x y = _
    split
    next here => rw [here.1, here.2, known]
    next => rfl
  · exact rooted.pos_inj member used (same.trans isPos.symm)
  · rintro rfl
    rw [AStarNodes.f, rooted.root] at lower
    exact Nat.not_lt_zero _ lower
  · rintro rfl
    omega

theorem comes_of_created {table after : AStarNodes} (rooted : Rooted request table)
    {n newf : Nat} (level : pos.z = request.startPos.z)
    (unknown : table.getNodeByPosition pos.x pos.y = none) (present : n ∈ table.used)
    (creates : table.createOpenNode n pos.x pos.y newf = some after) :
    Comes request n newf pos table after table.curNode := by
  rw [AStarNodes.createOpenNode] at creates
  split_ifs at creates with full
  cases creates
  have fresh : table.curNode ∉ table.used := Finset.notMem_range_self
  refine ⟨fun i => ?_, fun i other => ?_, ?_, ?_, ?_, ?_, fun i other => ?_, fun x y => ?_,
    fun i member same => ?_, fun member => absurd member fresh,
    fun member => absurd member fresh, ?_, ?_⟩
  · rw [AStarNodes.used, Finset.range_add_one, Finset.mem_insert]
  · exact Function.update_of_ne other _ _
  · simp [AStarNodes.parent]
  · simp [AStarNodes.f]
  · simp [AStarNode.pos, ← level]
  · simp
  · exact Function.update_of_ne other _ _
  · by_cases here : AStarNodes.key x.toUInt32 y.toUInt32 =
        AStarNodes.key pos.x.toUInt32 pos.y.toUInt32
    · rw [if_pos (key_injective here)]
      simp [AStarNodes.getNodeByPosition, here]
    · rw [if_neg (fun same => here (by rw [same.1, same.2]))]
      simp [AStarNodes.getNodeByPosition, Function.update_of_ne here]
  · have isKnown := rooted.lookup i member
    rw [← same] at unknown
    exact absurd (isKnown.symm.trans unknown) (by simp)
  · intro isZero
    have started := rooted.started
    rw [← isZero] at started
    exact fresh started
  · intro same
    rw [← same] at present
    exact fresh present

/-- What the neighbor costs when it is reached from the node. -/
def Request.newCost (request : Request) (table : AStarNodes) (n : Nat) (offset : Int × Int) : Nat :=
  table.f n + getMapWalkCost (table.nodes n) (request.neighborPos (table.nodes n) offset) +
    request.extra (request.neighborPos (table.nodes n) offset)

/-- The node at the position is as cheap, and there is one if the position is admitted and can
be walked to. -/
structure Passed (request : Request) (newf : Nat) (pos : Position) (table : AStarNodes) :
    Prop where
  cheap : ∀ i ∈ table.used, (table.nodes i).pos request = pos → request.Admits pos →
    table.f i ≤ newf
  seen : request.Admits pos → (request.canWalkTo pos).isSome →
    ∃ i ∈ table.used, (table.nodes i).pos request = pos

theorem Request.Tries.cases {n : Nat} {offset : Int × Int} {table after : AStarNodes}
    (rooted : Rooted request table) (present : n ∈ table.used)
    (tries : request.Tries n (table.f n) (table.nodes n) offset table after) :
    after = table ∧ Passed request (request.newCost table n offset)
        (request.neighborPos (table.nodes n) offset) table ∨
      request.Admits (request.neighborPos (table.nodes n) offset) ∧
        ∃ j, Comes request n (request.newCost table n offset)
          (request.neighborPos (table.nodes n) offset) table after j ∧
          (j ∈ table.used ∨
            (request.canWalkTo (request.neighborPos (table.nodes n) offset)).isSome) := by
  have atPos {i : Nat} (member : i ∈ table.used) (same : (table.nodes i).pos request =
      request.neighborPos (table.nodes n) offset) :
      table.getNodeByPosition (request.neighborPos (table.nodes n) offset).x
        (request.neighborPos (table.nodes n) offset).y = some i := by
    rw [← same]
    exact rooted.lookup i member
  cases tries with
  | refused refuses =>
    exact .inl ⟨rfl, fun i _ _ admits => absurd admits refuses,
      fun admits => absurd admits refuses⟩
  | kept admits known cheap =>
    obtain ⟨used, isX, isY⟩ := rooted.known _ _ _ known
    refine .inl ⟨rfl, fun i member same _ => ?_, fun _ _ => ⟨_, used, ?_⟩⟩
    · obtain rfl := Option.some.inj (known.symm.trans (atPos member same))
      exact cheap
    · rw [AStarNode.pos, isX, isY]
      rfl
  | relaxed admits known lower =>
    exact .inr ⟨admits, _, comes_of_relaxed rooted rfl known (by rw [newCost]; omega) lower,
      .inl (rooted.known _ _ _ known).1⟩
  | blocked admits unknown blocks =>
    refine .inl ⟨rfl, fun i member same _ =>
      absurd (unknown.symm.trans (atPos member same)) (by simp), fun _ walkable => ?_⟩
    rw [blocks] at walkable
    cases walkable
  | created admits unknown walkable creates =>
    exact .inr ⟨admits, _, comes_of_created rooted rfl unknown present creates,
      .inr walkable⟩

theorem expand_induct {n : Nat} (property : List (Int × Int) → AStarNodes → Prop)
    (step : ∀ offset offsets table after, property (offset :: offsets) table →
      request.Tries n (table.f n) (table.nodes n) offset table after →
      property offsets after ∧ after.nodes n = table.nodes n)
    (full : ∀ offset offsets table, property (offset :: offsets) table →
      table.curNode ≥ maxNodes → property [] table)
    {found : Bool} {offsets : List (Int × Int)} {table after : AStarNodes}
    (holds : property offsets table)
    (expanded : request.expand n (table.f n) (table.nodes n) found offsets table = some after) :
    property [] after := by
  induction offsets generalizing table with
  | nil =>
    cases expanded
    exact holds
  | cons offset offsets ih =>
    rcases Request.expand_cons expanded with ⟨middle, tries, rest⟩ | ⟨rfl, noRoom, -⟩
    · obtain ⟨kept, same⟩ := step offset offsets table middle holds tries
      refine ih kept ?_
      rw [AStarNodes.f, same]
      exact rest
    · exact full offset offsets _ holds noRoom

theorem Comes.samePos {n newf j : Nat} {table after : AStarNodes}
    (comes : Comes request n newf pos table after j) {i : Nat} (member : i ∈ table.used) :
    (after.nodes i).pos request = (table.nodes i).pos request := by
  by_cases here : i = j
  · subst here
    rw [comes.place, comes.same member]
  · rw [comes.others i here]

theorem Rooted.comes {table after : AStarNodes} (rooted : Rooted request table)
    {n newf j : Nat} (present : n ∈ table.used)
    (level : n ≠ 0 → ¬Skew ((table.nodes n).pos request) pos)
    (comes : Comes request n newf pos table after j) : Rooted request after := by
  have coordinates {i : Nat} {other : Position} (same : (after.nodes i).pos request = other) :
      (after.nodes i).x = other.x ∧ (after.nodes i).y = other.y := by
    rw [← same]
    exact ⟨rfl, rfl⟩
  refine ⟨(comes.used 0).mpr (.inr rooted.started), ?_, fun i member notRoot => ?_,
    fun x y i found => ?_, fun i member => ?_⟩
  · rw [comes.others 0 comes.notRoot.symm, rooted.root]
  · by_cases here : i = j
    · subst here
      refine ⟨n, (comes.used n).mpr (.inr present), comes.parent, fun notFirst => ?_⟩
      rw [comes.samePos present, comes.place]
      exact level notFirst
    · have old := ((comes.used i).mp member).resolve_left here
      obtain ⟨p, there, isParent, notSkew⟩ := rooted.parents i old notRoot
      refine ⟨p, (comes.used p).mpr (.inr there), ?_, fun notFirst => ?_⟩
      · rw [AStarNodes.parent, comes.others i here]
        exact isParent
      · rw [comes.samePos there, comes.samePos old]
        exact notSkew notFirst
  · rw [comes.lookup] at found
    split at found
    next here =>
      cases found
      obtain ⟨isX, isY⟩ := coordinates comes.place
      exact ⟨(comes.used _).mpr (.inl rfl), isX.trans here.1.symm, isY.trans here.2.symm⟩
    next =>
      obtain ⟨old, isX, isY⟩ := rooted.known x y i found
      obtain ⟨sameX, sameY⟩ := coordinates (comes.samePos old)
      exact ⟨(comes.used i).mpr (.inr old), sameX.trans isX, sameY.trans isY⟩
  · rw [comes.lookup]
    split
    next here =>
      by_cases new : i = j
      · rw [new]
      · have old := ((comes.used i).mp member).resolve_left new
        refine congrArg some (comes.only i old ?_).symm
        have level : pos.z = request.startPos.z := by
          rw [← comes.place]
          rfl
        rw [← comes.samePos old, AStarNode.pos, here.1, here.2, ← level]
    next elsewhere =>
      by_cases new : i = j
      · subst new
        exact absurd (coordinates comes.place) elsewhere
      · have old := ((comes.used i).mp member).resolve_left new
        rw [comes.others i new]
        exact rooted.lookup i old

end Otserv.Pathfinding
