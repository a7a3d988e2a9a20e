import Otserv.Pathfinding.Offsets
import Mathlib.Data.Int.Interval

/-!
# Expanding the first node

The first node is expanded with all its neighbors, also without `allowDiagonal`. What is opened
then hangs on it at the cost of the step and of the tile (`Opening`), and each neighbor that can
be walked to is opened. From then on a node below the cost of two steps is one of those
(`Begun`).
-/

namespace Otserv.Pathfinding

open Otserv.World

variable {request : Request}

/-! ## Around the start -/

namespace Request

variable (request : Request) (offset : Int × Int)

/-- The position that is off the start by an offset. -/
def around : Position :=
  ⟨coordinate (request.startPos.x.toNat + offset.1),
    coordinate (request.startPos.y.toNat + offset.2), request.startPos.z⟩

/-- The position is in range if distance is kept. -/
def Ranges (pos : Position) : Prop :=
  (request.fpp.keepDistance && !request.pathCondition.isInRange request.startPos pos) = false

/-- A neighbor of the start that can be walked to. -/
def Opens : Prop :=
  request.Ranges (request.around offset) ∧ (request.canWalkTo (request.around offset)).isSome

/-- It costs nothing extra too. -/
def Free : Prop :=
  request.Opens offset ∧ request.extra (request.around offset) = 0

end Request

theorem coordinate_coordinate (value : UInt16) (first second : Int) :
    coordinate ((coordinate (value.toNat + first)).toNat + second) =
      coordinate (value.toNat + (first + second)) := by
  apply UInt16.toNat_inj.mp
  rw [coordinate, coordinate, coordinate, UInt16.toNat_ofNat', UInt16.toNat_ofNat',
    UInt16.toNat_ofNat']
  omega

theorem coordinate_inj {value : UInt16} {first second : Int}
    (near : (first - second).natAbs < 65536)
    (same : coordinate (value.toNat + first) = coordinate (value.toNat + second)) :
    first = second := by
  have same := congrArg UInt16.toNat same
  rw [coordinate, coordinate, UInt16.toNat_ofNat', UInt16.toNat_ofNat'] at same
  omega

theorem neighborPos_around {node : AStarNode} {first : Int × Int}
    (here : node.pos request = request.around first) (offset : Int × Int) :
    request.neighborPos node offset =
      request.around (first.1 + offset.1, first.2 + offset.2) := by
  simp only [AStarNode.pos, Request.around, Position.mk.injEq] at here
  simp only [Request.neighborPos, Request.around, here.1, here.2.1, coordinate_coordinate]

theorem around_inj {first second : Int × Int} (columns : (first.1 - second.1).natAbs < 65536)
    (rows : (first.2 - second.2).natAbs < 65536)
    (same : request.around first = request.around second) : first = second := by
  simp only [Request.around, Position.mk.injEq, and_true] at same
  exact Prod.ext (coordinate_inj columns same.1) (coordinate_inj rows same.2)

variable {table : AStarNodes} {pos : Position}

theorem Rooted.first_pos (rooted : Rooted request table) :
    (table.nodes 0).pos request = request.startPos := by
  rw [rooted.root]
  rfl

theorem around_zero : request.around (0, 0) = request.startPos := by
  simp only [Request.around, coordinate_zero]

theorem Rooted.neighborPos_first (rooted : Rooted request table)
    (offset : Int × Int) : request.neighborPos (table.nodes 0) offset = request.around offset := by
  have here : (table.nodes 0).pos request = request.around (0, 0) :=
    rooted.first_pos.trans around_zero.symm
  rw [neighborPos_around here]
  simp

/-- The position is off the start by so much at most. -/
def NearStart (request : Request) (distance : Nat) (pos : Position) : Prop :=
  ∃ offset : Int × Int, offset.1.natAbs ≤ distance ∧ offset.2.natAbs ≤ distance ∧
    pos = request.around offset

theorem Rooted.room_of_near (rooted : Rooted request table)
    (near : ∀ i ∈ table.used, NearStart request 2 ((table.nodes i).pos request)) :
    table.curNode < maxNodes := by
  let close : Finset (Int × Int) := Finset.Icc (-2) 2 ×ˢ Finset.Icc (-2) 2
  have few : table.used.card ≤ (close.image request.around).card := by
    refine Finset.card_le_card_of_injOn (fun i => (table.nodes i).pos request)
      (fun i member => ?_) (fun i member j memberToo same => ?_)
    · obtain ⟨offset, columns, rows, here⟩ := near i member
      refine Finset.mem_image.mpr ⟨offset, Finset.mem_product.mpr ⟨?_, ?_⟩, here.symm⟩
      · exact Finset.mem_Icc.mpr (by omega)
      · exact Finset.mem_Icc.mpr (by omega)
    · exact rooted.pos_inj member memberToo same
  have bound : (close.image request.around).card ≤ 25 := Finset.card_image_le
  rw [Finset.card_range] at few
  exact (few.trans bound).trans_lt (by decide)

/-! ## The costs of tiles -/

/-- What a tile costs extra is nothing or more than a step. -/
theorem extra_eq_zero (small : request.extra pos < 20) : request.extra pos = 0 := by
  unfold Request.extra Request.getTileWalkCost at small ⊢
  cases isTile : request.getTile pos with
  | none => rfl
  | some tile =>
    simp only [isTile, mapNormalWalkCost] at small ⊢
    cases field : tile.fieldItem with
    | none =>
      simp only [field] at small ⊢
      split_ifs at small ⊢
      · omega
      · rfl
    | some combatType =>
      simp only [field] at small ⊢
      split_ifs at small ⊢
      · omega
      · omega
      · omega
      · rfl

theorem walkCost_cases (node : AStarNode) (pos : Position) :
    Request.getMapWalkCost node pos = mapNormalWalkCost ∨
      Request.getMapWalkCost node pos = mapDiagonalWalkCost := by
  rw [Request.getMapWalkCost]
  split_ifs
  · exact .inr rfl
  · exact .inl rfl

/-! ## The nodes that are opened first -/

/-- The first node is being expanded, and some of its neighbors are still to be tried. -/
structure Opening (request : Request) (offsets : List (Int × Int)) (table : AStarNodes) :
    Prop where
  subset : offsets ⊆ allNeighbors
  rooted : Rooted request table
  parent : ∀ i ∈ table.used, i ≠ 0 → table.parent i = some 0
  cost : ∀ i ∈ table.used, i ≠ 0 → table.f i =
    Request.getMapWalkCost (table.nodes 0) ((table.nodes i).pos request) +
      request.extra ((table.nodes i).pos request)
  isOpen : ∀ i ∈ table.used, table.openNodes i = true
  admits : ∀ i ∈ table.used, i ≠ 0 → request.Admits ((table.nodes i).pos request)
  opens : ∀ i ∈ table.used, i ≠ 0 → ∃ offset ∈ allNeighbors,
    (table.nodes i).pos request = request.around offset ∧ request.Opens offset
  seen : ∀ offset ∈ allNeighbors, offset ∈ offsets ∨
    (request.Admits (request.around offset) → request.Opens offset →
      ∃ i ∈ table.used, (table.nodes i).pos request = request.around offset)

theorem Opening.step {offset : Int × Int} {offsets : List (Int × Int)}
    {table after : AStarNodes} (opening : Opening request (offset :: offsets) table)
    (tries : request.Tries 0 (table.f 0) (table.nodes 0) offset table after) :
    Opening request offsets after ∧ after.nodes 0 = table.nodes 0 := by
  have rooted := opening.rooted
  have subset : offsets ⊆ allNeighbors :=
    fun other member => opening.subset (List.mem_cons_of_mem _ member)
  have noCost : table.f 0 = 0 := by rw [AStarNodes.f, rooted.root]
  have split := tries.cases rooted rooted.started
  rw [Request.newCost, rooted.neighborPos_first, noCost, Nat.zero_add] at split
  rcases split with ⟨rfl, passed⟩ | ⟨admits, j, comes, known⟩
  · refine ⟨{ opening with subset := subset, seen := fun other member => ?_ }, rfl⟩
    rcases opening.seen other member with still | seen
    · rcases List.mem_cons.mp still with rfl | still
      · exact .inr fun admits opens => passed.seen admits opens.2
      · exact .inl still
    · exact .inr seen
  · have same : after.nodes 0 = table.nodes 0 := comes.others 0 comes.notRoot.symm
    have old {i : Nat} (member : i ∈ after.used) (other : i ≠ j) : i ∈ table.used :=
      ((comes.used i).mp member).resolve_left other
    refine ⟨⟨subset, rooted.comes rooted.started (fun notFirst => absurd rfl notFirst) comes,
      fun i member notRoot => ?_, fun i member notRoot => ?_, fun i member => ?_,
      fun i member notRoot => ?_, fun i member notRoot => ?_, fun other member => ?_⟩, same⟩
    · by_cases here : i = j
      · rw [here]
        exact comes.parent
      · rw [AStarNodes.parent, comes.others i here]
        exact opening.parent i (old member here) notRoot
    · by_cases here : i = j
      · subst here
        rw [comes.cost, comes.place, same]
      · rw [AStarNodes.f, comes.others i here, same]
        exact opening.cost i (old member here) notRoot
    · by_cases here : i = j
      · rw [here]
        exact comes.isOpen
      · rw [comes.opens i here]
        exact opening.isOpen i (old member here)
    · by_cases here : i = j
      · subst here
        rw [comes.place]
        exact admits
      · rw [comes.others i here]
        exact opening.admits i (old member here) notRoot
    · by_cases here : i = j
      · subst here
        rcases known with used | walkable
        · rw [comes.samePos used]
          exact opening.opens i used notRoot
        · rw [comes.place]
          exact ⟨offset, opening.subset List.mem_cons_self, rfl, admits.2, walkable⟩
      · rw [comes.others i here]
        exact opening.opens i (old member here) notRoot
    · rcases opening.seen other member with still | seen
      · rcases List.mem_cons.mp still with rfl | still
        · exact .inr fun _ _ => ⟨j, (comes.used j).mpr (.inl rfl), comes.place⟩
        · exact .inl still
      · refine .inr fun admits opens => ?_
        obtain ⟨i, used, here⟩ := seen admits opens
        exact ⟨i, (comes.used i).mpr (.inr used), (comes.samePos used).trans here⟩

theorem near_of_mem {offset : Int × Int} (member : offset ∈ allNeighbors) :
    offset.1.natAbs ≤ 1 ∧ offset.2.natAbs ≤ 1 := by
  obtain ⟨left, right, up, down, -⟩ := small_of_mem member
  omega

theorem NearStart.mono {distance more : Nat}
    (near : NearStart request distance pos) (less : distance ≤ more) :
    NearStart request more pos := by
  obtain ⟨offset, columns, rows, here⟩ := near
  exact ⟨offset, columns.trans less, rows.trans less, here⟩

theorem Opening.near {offsets : List (Int × Int)} (opening : Opening request offsets table) :
    ∀ i ∈ table.used, NearStart request 1 ((table.nodes i).pos request) := by
  intro i member
  by_cases isRoot : i = 0
  · rw [isRoot, opening.rooted.first_pos]
    exact ⟨(0, 0), by decide, by decide, around_zero.symm⟩
  · obtain ⟨offset, neighbor, here, -⟩ := opening.opens i member isRoot
    exact ⟨offset, (near_of_mem neighbor).1, (near_of_mem neighbor).2, here⟩

theorem Rooted.start (request : Request) : Rooted request request.start.table where
  started := Finset.mem_range.mpr Nat.one_pos
  root := (start_sound request).root
  parents := fun i member notRoot =>
    absurd (Nat.lt_one_iff.mp (Finset.mem_range.mp member)) notRoot
  known := (start_sound request).known
  lookup := by
    intro i member
    obtain rfl : i = 0 := Nat.lt_one_iff.mp (Finset.mem_range.mp member)
    simp [AStarNodes.getNodeByPosition, Request.start, AStarNodes.new]

theorem Opening.start (request : Request) : Opening request allNeighbors request.start.table := by
  have only {i : Nat} (member : i ∈ request.start.table.used) : i = 0 :=
    Nat.lt_one_iff.mp (Finset.mem_range.mp member)
  refine ⟨.refl _, .start request,
    fun i member notRoot => absurd (only member) notRoot,
    fun i member notRoot => absurd (only member) notRoot, fun i member => ?_,
    fun i member notRoot => absurd (only member) notRoot,
    fun i member notRoot => absurd (only member) notRoot, fun offset member => .inl member⟩
  rw [only member]
  simp [Request.start, AStarNodes.new]

theorem opening_of_expand {found : Bool} {after : AStarNodes}
    (expanded : request.expand 0 (request.start.table.f 0) (request.start.table.nodes 0) found
      allNeighbors request.start.table = some after) : Opening request [] after := by
  refine expand_induct (Opening request)
    (fun offset offsets table after opening tries => opening.step tries)
    (fun offset offsets table opening noRoom => ?_) (.start request) expanded
  have room := opening.rooted.room_of_near
    fun i member => (opening.near i member).mono (by decide)
  omega

/-! ## The search from then on -/

/-- The first node is closed, all other nodes cost a step, and those that cost less than two are
free neighbors of the start. -/
structure Begun (request : Request) (table : AStarNodes) : Prop where
  rooted : Rooted request table
  closed : table.openNodes 0 = false
  cost : ∀ i ∈ table.used, i ≠ 0 → mapNormalWalkCost ≤ table.f i
  first : ∀ i ∈ table.used, i ≠ 0 → table.f i < 2 * mapNormalWalkCost →
    ∃ offset ∈ allNeighbors, (table.nodes i).pos request = request.around offset ∧
      request.Free offset

theorem Opening.begun (opening : Opening request [] table) : Begun request (table.closeNode 0) := by
  have rooted := opening.rooted
  refine ⟨⟨rooted.started, rooted.root, rooted.parents, rooted.known, rooted.lookup⟩, ?_,
    fun i member notRoot => ?_, fun i member notRoot low => ?_⟩
  · simp [AStarNodes.closeNode]
  · change mapNormalWalkCost ≤ table.f i
    rw [opening.cost i member notRoot]
    rcases walkCost_cases (table.nodes 0) ((table.nodes i).pos request) with step | step
    · rw [step]
      exact Nat.le_add_right _ _
    · rw [step]
      exact (by decide : mapNormalWalkCost ≤ mapDiagonalWalkCost).trans (Nat.le_add_right _ _)
  · obtain ⟨offset, neighbor, here, opens⟩ := opening.opens i member notRoot
    refine ⟨offset, neighbor, here, opens, ?_⟩
    change table.f i < _ at low
    rw [opening.cost i member notRoot, here] at low
    have small : 2 * mapNormalWalkCost = 20 := rfl
    exact extra_eq_zero (by omega)

/-- Trying a neighbor of a node keeps that. -/
theorem Begun.comes {table after : AStarNodes} (begun : Begun request table) {n newf j : Nat}
    (present : n ∈ table.used) (level : ¬Skew ((table.nodes n).pos request) pos)
    (high : 2 * mapNormalWalkCost ≤ newf)
    (comes : Comes request n newf pos table after j) : Begun request after := by
  have old {i : Nat} (member : i ∈ after.used) (other : i ≠ j) : i ∈ table.used :=
    ((comes.used i).mp member).resolve_left other
  refine ⟨begun.rooted.comes present (fun _ => level) comes, ?_,
    fun i member notRoot => ?_, fun i member notRoot low => ?_⟩
  · rw [comes.opens 0 comes.notRoot.symm]
    exact begun.closed
  · by_cases here : i = j
    · rw [here, comes.cost]
      exact (by decide : mapNormalWalkCost ≤ 2 * mapNormalWalkCost).trans high
    · rw [AStarNodes.f, comes.others i here]
      exact begun.cost i (old member here) notRoot
  · by_cases here : i = j
    · rw [here, comes.cost] at low
      omega
    · rw [AStarNodes.f, comes.others i here] at low
      rw [comes.others i here]
      exact begun.first i (old member here) notRoot low

theorem Begun.close (begun : Begun request table) (n : Nat) :
    Begun request (table.closeNode n) := by
  have rooted := begun.rooted
  refine ⟨⟨rooted.started, rooted.root, rooted.parents, rooted.known, rooted.lookup⟩, ?_,
    begun.cost, begun.first⟩
  by_cases here : n = 0
  · simp [AStarNodes.closeNode, here]
  · simpa [AStarNodes.closeNode, Function.update_of_ne (Ne.symm here)] using begun.closed

theorem Begun.best (begun : Begun request table) {n : Nat}
    (chosen : table.getBestNode = some n) : n ∈ table.used ∧ table.openNodes n = true ∧ n ≠ 0 := by
  obtain ⟨used, isOpen⟩ := getBestNode_mem chosen
  refine ⟨used, isOpen, ?_⟩
  rintro rfl
  rw [begun.closed] at isOpen
  cases isOpen

/-- From a node with a parent a neighbor costs two steps at least. -/
theorem Begun.newCost_high (begun : Begun request table) {n : Nat}
    (used : n ∈ table.used) (notRoot : n ≠ 0) (offset : Int × Int) :
    2 * mapNormalWalkCost ≤ request.newCost table n offset := by
  have low := begun.cost n used notRoot
  rw [Request.newCost]
  rcases walkCost_cases (table.nodes n) (request.neighborPos (table.nodes n) offset) with
    step | step
  · omega
  · have less : mapNormalWalkCost ≤ mapDiagonalWalkCost := by decide
    omega

end Otserv.Pathfinding
