import Otserv.Pathfinding.FirstNode

/-!
# Paths around corners

Without `allowDiagonal` a node has only straight neighbors, but the first node has them all. So
a path may begin with a diagonal step. It does not if next to each diagonal neighbor of the start
there is a free straight one (`Guarded`): that corner is expanded first, and the diagonal neighbor
comes to it. Until then nothing hangs on the diagonal neighbor, and it is not what was found
(`Waits`).
-/

namespace Otserv.Pathfinding

open Otserv.World

variable {request : Request}

/-- Next to each diagonal neighbor of the start that can be walked to, there is a free straight
one. -/
def Request.Guarded (request : Request) : Prop :=
  ∀ a ∈ [(-1 : Int), 1], ∀ b ∈ [(-1 : Int), 1], request.Opens (a, b) →
    Skew request.startPos (request.around (a, b)) → request.Free (a, 0) ∨ request.Free (0, b)

/-! ## Straight neighbors -/

theorem coordinate_add_zero (value : UInt16) {offset : Int} (zero : offset = 0) :
    coordinate (value.toNat + offset) = value := by
  rw [zero, coordinate_zero]

variable {node : AStarNode} {found : Option (Nat × Position)} {a b : Int} {n : Nat}
  {offset : Int × Int}

theorem not_skew_of_straight (straight : offset.1 = 0 ∨ offset.2 = 0) :
    ¬Skew (node.pos request) (request.neighborPos node offset) := by
  rintro ⟨columns, rows⟩
  rcases straight with zero | zero
  · rw [Position.getX, Position.getX, Request.neighborPos, AStarNode.pos] at columns
    rw [coordinate_add_zero _ zero] at columns
    simp at columns
  · rw [Position.getY, Position.getY, Request.neighborPos, AStarNode.pos] at rows
    rw [coordinate_add_zero _ zero] at rows
    simp at rows

theorem straight_of_dirNeighbors (direction : Direction) :
    ∀ offset ∈ (dirNeighbors direction).take 3, direction.isDiagonal = false →
      offset.1 = 0 ∨ offset.2 = 0 := by
  cases direction <;> decide

variable {table : AStarNodes}

theorem straight_of_neighbors {p : Nat}
    (noDiagonal : request.fpp.allowDiagonal = false) (isParent : node.parent = some p)
    (member : offset ∈ request.neighbors table node) : offset.1 = 0 ∨ offset.2 = 0 := by
  rw [Request.neighbors, isParent] at member
  simp only [noDiagonal, Bool.not_false, true_or, if_true, Bool.false_eq_true, if_false]
    at member
  refine straight_of_dirNeighbors _ offset member ?_
  split_ifs <;> rfl

/-! ## Waiting for a corner -/

/-- A node that hangs on the first one by a skew step. -/
structure Skewed (request : Request) (table : AStarNodes) (i : Nat) : Prop where
  used : i ∈ table.used
  parent : table.parent i = some 0
  skew : Skew request.startPos ((table.nodes i).pos request)

/-- A free straight neighbor of the start that has the other node next to it. -/
structure Corner (request : Request) (table : AStarNodes) (e i : Nat) : Prop where
  used : e ∈ table.used
  cheap : table.f e = mapNormalWalkCost
  parent : table.parent e = some 0
  step : Request.getMapWalkCost (table.nodes e) ((table.nodes i).pos request) =
    mapNormalWalkCost
  tries : ∃ offset ∈ request.neighbors table (table.nodes e),
    request.neighborPos (table.nodes e) offset = (table.nodes i).pos request

/-- The node is still open, and so is a corner that it will come to. -/
structure Waits (request : Request) (table : AStarNodes) (found : Option (Nat × Position))
    (i : Nat) : Prop where
  isOpen : table.openNodes i = true
  leaf : ∀ k ∈ table.used, table.parent k ≠ some i
  notFound : ∀ endPos, found ≠ some (i, endPos)
  cost : table.f i = mapDiagonalWalkCost + request.extra ((table.nodes i).pos request)
  admits : request.Admits ((table.nodes i).pos request)
  corner : ∃ e, table.openNodes e = true ∧ Corner request table e i

/-- The invariant of the search once the first node has been expanded. -/
structure Ahead (request : Request) (table : AStarNodes) (found : Option (Nat × Position)) :
    Prop where
  begun : Begun request table
  waits : ∀ i, Skewed request table i → Waits request table found i
  near : (∃ i, Skewed request table i) →
    ∀ i ∈ table.used, NearStart request 2 ((table.nodes i).pos request)
  place : ∀ m endPos, found = some (m, endPos) →
    m ∈ table.used ∧ endPos = (table.nodes m).pos request

/-- A node is being expanded, and some of its neighbors are still to be tried. -/
structure Expanding (request : Request) (n : Nat) (found : Option (Nat × Position))
    (offsets : List (Int × Int)) (table : AStarNodes) : Prop extends
    Ahead request table found where
  straight : ∀ offset ∈ offsets, offset ∈ allNeighbors ∧ (offset.1 = 0 ∨ offset.2 = 0)
  present : n ∈ table.used
  notRoot : n ≠ 0
  notSkewed : ¬Skewed request table n
  cheap : (∃ i, Skewed request table i) → table.f n = mapNormalWalkCost
  covers : ∀ i, Skewed request table i → Corner request table n i →
    ∃ offset ∈ offsets,
      request.neighborPos (table.nodes n) offset = (table.nodes i).pos request

theorem Corner.congr {table after : AStarNodes} {e i : Nat}
    (corner : Corner request table e i) (used : e ∈ after.used)
    (first : after.nodes 0 = table.nodes 0) (same : after.nodes e = table.nodes e)
    (sameToo : after.nodes i = table.nodes i) : Corner request after e i := by
  have isParent : (table.nodes e).parent = some 0 := corner.parent
  have neighbors : request.neighbors after (table.nodes e) =
      request.neighbors table (table.nodes e) := by
    rw [Request.neighbors, Request.neighbors, isParent]
    simp only [first]
  refine ⟨used, ?_, ?_, ?_, ?_⟩
  · rw [AStarNodes.f, same]
    exact corner.cheap
  · rw [AStarNodes.parent, same]
    exact corner.parent
  · rw [same, sameToo]
    exact corner.step
  · rw [same, sameToo, neighbors]
    exact corner.tries

theorem Skewed.congr {table after : AStarNodes} {i : Nat} (skewed : Skewed request after i)
    (used : i ∈ table.used) (same : after.nodes i = table.nodes i) : Skewed request table i := by
  refine ⟨used, ?_, ?_⟩
  · rw [AStarNodes.parent, ← same]
    exact skewed.parent
  · rw [← same]
    exact skewed.skew

/-- **One try.** A neighbor that comes to the node does not wait any more, and those that wait
go on waiting. -/
theorem Expanding.step {offsets : List (Int × Int)} {table after : AStarNodes}
    (expanding : Expanding request n found (offset :: offsets) table)
    (tries : request.Tries n (table.f n) (table.nodes n) offset table after) :
    Expanding request n found offsets after ∧ after.nodes n = table.nodes n := by
  have begun := expanding.begun
  have present := expanding.present
  have straight : ∀ offset ∈ offsets, offset ∈ allNeighbors ∧ (offset.1 = 0 ∨ offset.2 = 0) :=
    fun other member => expanding.straight other (List.mem_cons_of_mem _ member)
  obtain ⟨neighbor, isStraight⟩ := expanding.straight offset List.mem_cons_self
  rcases tries.cases begun.rooted present with ⟨rfl, passed⟩ | ⟨admits, j, comes, -⟩
  · refine ⟨{ expanding with straight := straight, covers := fun i skewed corner => ?_ }, rfl⟩
    obtain ⟨other, member, here⟩ := expanding.covers i skewed corner
    rcases List.mem_cons.mp member with rfl | member
    · -- this neighbor would have come to the node
      have waits := expanding.waits i skewed
      have cheap := passed.cheap i skewed.used here.symm (by rw [here]; exact waits.admits)
      rw [Request.newCost, here, corner.step, corner.cheap, waits.cost] at cheap
      simp only [mapNormalWalkCost, mapDiagonalWalkCost] at cheap
      omega
    · exact ⟨other, member, here⟩
  · have same : after.nodes n = table.nodes n := comes.others n comes.differs.symm
    have first : after.nodes 0 = table.nodes 0 := comes.others 0 comes.notRoot.symm
    have high := begun.newCost_high present expanding.notRoot offset
    have old (i : Nat) (skewed : Skewed request after i) : i ≠ j ∧ Skewed request table i := by
      have differs : i ≠ j := by
        rintro rfl
        have isParent := skewed.parent
        rw [comes.parent] at isParent
        exact expanding.notRoot (Option.some.inj isParent)
      exact ⟨differs, skewed.congr (((comes.used i).mp skewed.used).resolve_left differs)
        (comes.others i differs)⟩
    have older : (∃ i, Skewed request after i) → ∃ i, Skewed request table i := by
      rintro ⟨i, skewed⟩
      exact ⟨i, (old i skewed).2⟩
    have keeps {e i : Nat} (corner : Corner request table e i) : e ≠ j := by
      rintro rfl
      have lower := comes.lower corner.used
      rw [corner.cheap] at lower
      omega
    refine ⟨⟨⟨begun.comes present (not_skew_of_straight isStraight) high comes,
      fun i skewed => ?_, fun some_ i member => ?_, fun m endPos found => ?_⟩, straight,
      (comes.used n).mpr (.inr present), expanding.notRoot, fun skewed => ?_, fun some_ => ?_,
      fun i skewed corner => ?_⟩, same⟩
    · obtain ⟨differs, skewed⟩ := old i skewed
      have waits := expanding.waits i skewed
      obtain ⟨e, isOpen, corner⟩ := waits.corner
      have sameToo := comes.others i differs
      refine ⟨?_, fun k member => ?_, waits.notFound, ?_, ?_, e, ?_, ?_⟩
      · rw [comes.opens i differs]
        exact waits.isOpen
      · by_cases here : k = j
        · rw [here, comes.parent]
          intro isParent
          exact expanding.notSkewed (Option.some.inj isParent ▸ skewed)
        · rw [AStarNodes.parent, comes.others k here]
          exact waits.leaf k (((comes.used k).mp member).resolve_left here)
      · rw [AStarNodes.f, sameToo]
        exact waits.cost
      · rw [sameToo]
        exact waits.admits
      · rw [comes.opens e (keeps corner)]
        exact isOpen
      · exact corner.congr ((comes.used e).mpr (.inr corner.used)) first
          (comes.others e (keeps corner)) sameToo
    · have near := expanding.near (older some_)
      by_cases here : i = j
      · -- the node is next to the start
        subst here
        have cheap := expanding.cheap (older some_)
        obtain ⟨away, isNeighbor, there, -⟩ := begun.first n present expanding.notRoot
          (by rw [cheap]; decide)
        obtain ⟨columns, rows⟩ := near_of_mem isNeighbor
        obtain ⟨moreColumns, moreRows⟩ := near_of_mem neighbor
        rw [comes.place, neighborPos_around there]
        exact ⟨_, by simp only; omega, by simp only; omega, rfl⟩
      · have used := ((comes.used i).mp member).resolve_left here
        rw [comes.samePos used]
        exact near i used
    · obtain ⟨used, here⟩ := expanding.place m endPos found
      exact ⟨(comes.used m).mpr (.inr used), here.trans (comes.samePos used).symm⟩
    · exact expanding.notSkewed (skewed.congr present same)
    · rw [AStarNodes.f, same]
      exact expanding.cheap (older some_)
    · obtain ⟨differs, skewed⟩ := old i skewed
      have sameToo := comes.others i differs
      have before : Corner request table n i :=
        corner.congr present first.symm same.symm sameToo.symm
      obtain ⟨other, member, here⟩ := expanding.covers i skewed before
      rw [same, sameToo]
      rcases List.mem_cons.mp member with rfl | member
      · exact absurd (comes.only i skewed.used here.symm) differs
      · exact ⟨other, member, here⟩

theorem Expanding.ahead
    (expanding : Expanding request n found [] table) : Ahead request (table.closeNode n) found := by
  have still {i : Nat} (other : i ≠ n) :
      (table.closeNode n).openNodes i = table.openNodes i := Function.update_of_ne other _ _
  refine ⟨expanding.begun.close n, fun i later => ?_, fun some_ => ?_, expanding.place⟩
  · have skewed : Skewed request table i := ⟨later.used, later.parent, later.skew⟩
    clear later
    have waits := expanding.waits i skewed
    obtain ⟨e, isOpen, corner⟩ := waits.corner
    have differs : e ≠ n := by
      rintro rfl
      obtain ⟨offset, member, -⟩ := expanding.covers i skewed corner
      exact absurd member List.not_mem_nil
    have differsToo : i ≠ n := by
      rintro rfl
      exact expanding.notSkewed skewed
    refine ⟨?_, waits.leaf, waits.notFound, waits.cost, waits.admits, e, ?_,
      corner.congr corner.used rfl rfl rfl⟩
    · rw [still differsToo]
      exact waits.isOpen
    · rw [still differs]
      exact isOpen
  · obtain ⟨i, skewed⟩ := some_
    exact expanding.near ⟨i, skewed.used, skewed.parent, skewed.skew⟩

/-- The best node does not wait, and it is a corner's equal if another waits. -/
theorem Ahead.best (ahead : Ahead request table found) (chosen : table.getBestNode = some n) :
    ¬Skewed request table n ∧
      ((∃ i, Skewed request table i) → table.f n = mapNormalWalkCost) := by
  obtain ⟨used, -, notRoot⟩ := ahead.begun.best chosen
  have cheap {i : Nat} (skewed : Skewed request table i) : table.f n ≤ mapNormalWalkCost := by
    obtain ⟨e, isOpen, corner⟩ := (ahead.waits i skewed).corner
    exact corner.cheap ▸ getBestNode_le chosen corner.used isOpen
  refine ⟨fun skewed => ?_, fun ⟨i, skewed⟩ => ?_⟩
  · have low := cheap skewed
    rw [(ahead.waits n skewed).cost] at low
    simp only [mapNormalWalkCost, mapDiagonalWalkCost] at low
    omega
  · exact Nat.le_antisymm (cheap skewed) (ahead.begun.cost n used notRoot)

theorem Ahead.expand {table after : AStarNodes} {found foundNow : Option (Nat × Position)}
    (noDiagonal : request.fpp.allowDiagonal = false) (ahead : Ahead request table found)
    (chosen : table.getBestNode = some n)
    (isFound : foundNow = some (n, (table.nodes n).pos request) ∨ foundNow = found) {any : Bool}
    (expanded : request.expand n (table.f n) (table.nodes n) any
      (request.neighbors table (table.nodes n)) table = some after) :
    Ahead request (after.closeNode n) foundNow := by
  obtain ⟨used, -, notRoot⟩ := ahead.begun.best chosen
  obtain ⟨notSkewed, cheap⟩ := ahead.best chosen
  obtain ⟨p, -, isParent, -⟩ := ahead.begun.rooted.parents n used notRoot
  have before : Expanding request n foundNow (request.neighbors table (table.nodes n)) table := by
    refine ⟨⟨ahead.begun, fun i skewed => ?_, ahead.near, fun m endPos same => ?_⟩,
      fun offset member => ⟨neighbors_subset _ _ member,
        straight_of_neighbors noDiagonal isParent member⟩,
      used, notRoot, notSkewed, cheap, fun i _ corner => corner.tries⟩
    · refine { ahead.waits i skewed with notFound := fun endPos same => ?_ }
      rcases isFound with now | before
      · rw [now] at same
        cases same
        exact notSkewed skewed
      · exact (ahead.waits i skewed).notFound endPos (before ▸ same)
    · rcases isFound with now | before
      · rw [now] at same
        cases same
        exact ⟨used, rfl⟩
      · exact ahead.place m endPos (before ▸ same)
  refine (expand_induct (Expanding request n foundNow)
    (fun offset offsets table after expanding tries => expanding.step tries)
    (fun offset offsets table expanding noRoom => ?_) before expanded).ahead
  have none_ : ¬∃ i, Skewed request table i := fun some_ => by
    have room := expanding.begun.rooted.room_of_near (expanding.near some_)
    omega
  refine { expanding with straight := fun other member => absurd member List.not_mem_nil,
                          covers := fun i skewed => absurd ⟨i, skewed⟩ none_ }

/-! ## The corners of the first node -/

theorem step_of_skew {value : UInt16} {offset : Int} (small : offset = 1 ∨ offset = -1)
    (near : ((value.toNat : Int) - (coordinate (value.toNat + offset)).toNat).natAbs = 1) :
    ((coordinate (value.toNat + offset)).toNat : Int) = value.toNat + offset := by
  rw [coordinate, UInt16.toNat_ofNat'] at near ⊢
  omega

/-- Without diagonals, a straight neighbor of the start tries the steps to its sides. -/
theorem mem_neighbors_of_column
    (noDiagonal : request.fpp.allowDiagonal = false) (isParent : node.parent = some 0)
    (smallA : a = 1 ∨ a = -1) (smallB : b = 1 ∨ b = -1)
    (columns : ((table.nodes 0).x.toNat : Int) - node.x.toNat = -a)
    (rows : ((table.nodes 0).y.toNat : Int) - node.y.toNat = 0) :
    (0, b) ∈ request.neighbors table node := by
  rw [Request.neighbors, isParent]
  simp only [columns, rows, noDiagonal]
  rcases smallA with rfl | rfl
  · rcases smallB with rfl | rfl <;> decide
  · rcases smallB with rfl | rfl <;> decide

theorem mem_neighbors_of_row
    (noDiagonal : request.fpp.allowDiagonal = false) (isParent : node.parent = some 0)
    (smallA : a = 1 ∨ a = -1) (smallB : b = 1 ∨ b = -1)
    (columns : ((table.nodes 0).x.toNat : Int) - node.x.toNat = 0)
    (rows : ((table.nodes 0).y.toNat : Int) - node.y.toNat = -b) :
    (a, 0) ∈ request.neighbors table node := by
  rw [Request.neighbors, isParent]
  simp only [columns, rows, noDiagonal]
  rcases smallA with rfl | rfl
  · rcases smallB with rfl | rfl <;> decide
  · rcases smallB with rfl | rfl <;> decide

theorem skew_around (smallA : a.natAbs ≤ 1) (smallB : b.natAbs ≤ 1)
    (skew : Skew request.startPos (request.around (a, b))) :
    (a = 1 ∨ a = -1) ∧ (b = 1 ∨ b = -1) ∧
      ((coordinate (request.startPos.x.toNat + a)).toNat : Int) = request.startPos.x.toNat + a ∧
      ((coordinate (request.startPos.y.toNat + b)).toNat : Int) =
        request.startPos.y.toNat + b := by
  obtain ⟨columns, rows⟩ := skew
  simp only [Position.getX, Position.getY, Request.around] at columns rows
  have stepA : a = 1 ∨ a = -1 := by
    by_contra neither
    rw [coordinate_add_zero _ (by omega)] at columns
    omega
  have stepB : b = 1 ∨ b = -1 := by
    by_contra neither
    rw [coordinate_add_zero _ (by omega)] at rows
    omega
  exact ⟨stepA, stepB, step_of_skew stepA columns, step_of_skew stepB rows⟩

theorem admits_corner {corner : Int × Int} (smallA : a.natAbs ≤ 1)
    (smallB : b.natAbs ≤ 1) (skew : Skew request.startPos (request.around (a, b)))
    (isCorner : corner = (a, 0) ∨ corner = (0, b))
    (admits : request.Admits (request.around (a, b))) (opens : request.Opens corner) :
    request.Admits (request.around corner) := by
  refine ⟨fun far => admits.1 ⟨far.1, ?_⟩, opens.1⟩
  obtain ⟨-, -, columns, rows⟩ := skew_around smallA smallB skew
  have less := far.2
  simp only [Position.getDistanceX, Position.getDistanceY, Position.getOffsetX,
    Position.getOffsetY, Position.getX, Position.getY, Request.around] at less ⊢
  rw [columns, rows]
  rcases isCorner with rfl | rfl
  · simp only [columns, coordinate_zero, sub_self, abs_zero] at less
    rcases less with less | less
    · exact .inl less
    · exact .inl (less.trans_le (abs_nonneg _))
  · simp only [rows, coordinate_zero, sub_self, abs_zero] at less
    rcases less with less | less
    · exact .inr (less.trans_le (abs_nonneg _))
    · exact .inr less

theorem coordinates_of_pos (here : node.pos request = request.around offset) :
    node.x = coordinate (request.startPos.x.toNat + offset.1) ∧
      node.y = coordinate (request.startPos.y.toNat + offset.2) := by
  simp only [AStarNode.pos, Request.around, Position.mk.injEq, and_true] at here
  exact here

theorem Opening.corner {table : AStarNodes} (noDiagonal : request.fpp.allowDiagonal = false)
    (opening : Opening request [] table) (smallA : a.natAbs ≤ 1)
    (smallB : b.natAbs ≤ 1) (skew : Skew request.startPos (request.around (a, b)))
    (admits : request.Admits (request.around (a, b)))
    (free : request.Free (a, 0) ∨ request.Free (0, b)) {i : Nat}
    (there : (table.nodes i).pos request = request.around (a, b)) :
    ∃ e, e ≠ 0 ∧ Corner request table e i := by
  have rooted := opening.rooted
  obtain ⟨stepA, stepB, columns, rows⟩ := skew_around smallA smallB skew
  have root := rooted.root
  -- the corner has been opened
  have opened {corner : Int × Int} (isCorner : corner = (a, 0) ∨ corner = (0, b))
      (member : corner ∈ allNeighbors) (notStart : corner ≠ (0, 0))
      (free : request.Free corner) :
      ∃ e ∈ table.used, e ≠ 0 ∧ (table.nodes e).pos request = request.around corner ∧
        table.parent e = some 0 ∧
        table.f e = Request.getMapWalkCost (table.nodes 0) (request.around corner) := by
    obtain ⟨e, used, here⟩ := (opening.seen corner member).resolve_left List.not_mem_nil
      (admits_corner smallA smallB skew isCorner admits free.1) free.1
    have notRoot : e ≠ 0 := by
      rintro rfl
      rw [rooted.first_pos, ← around_zero] at here
      have near := near_of_mem member
      exact notStart (around_inj (by simp only; omega) (by simp only; omega) here).symm
    refine ⟨e, used, notRoot, here, opening.parent e used notRoot, ?_⟩
    rw [opening.cost e used notRoot, here, free.2, Nat.add_zero]
  rcases free with free | free
  · obtain ⟨e, used, notRoot, here, isParent, cost⟩ := opened (.inl rfl)
      (by rcases stepA with rfl | rfl <;> decide) (by rintro ⟨⟩; omega) free
    obtain ⟨isX, isY⟩ := coordinates_of_pos here
    simp only [coordinate_zero] at isX isY
    refine ⟨e, notRoot, used, cost.trans (if_neg ?_), isParent, ?_, (0, b), ?_, ?_⟩
    · simp only [root, Request.around, coordinate_zero, columns]
      rw [sub_self, abs_zero, abs_eq_zero]
      omega
    · rw [there, Request.getMapWalkCost, isX, isY]
      refine if_neg ?_
      simp only [Request.around, rows]
      rw [sub_self, abs_zero, eq_comm, abs_eq_zero]
      omega
    · refine mem_neighbors_of_column noDiagonal isParent stepA stepB ?_ ?_
      · simp only [root, isX, columns]
        omega
      · simp only [root, isY, sub_self]
    · rw [there, neighborPos_around here]
      simp
  · obtain ⟨e, used, notRoot, here, isParent, cost⟩ := opened (.inr rfl)
      (by rcases stepB with rfl | rfl <;> decide) (by rintro ⟨⟩; omega) free
    obtain ⟨isX, isY⟩ := coordinates_of_pos here
    simp only [coordinate_zero] at isX isY
    refine ⟨e, notRoot, used, cost.trans (if_neg ?_), isParent, ?_, (a, 0), ?_, ?_⟩
    · simp only [root, Request.around, coordinate_zero, rows]
      rw [sub_self, abs_zero, eq_comm, abs_eq_zero]
      omega
    · rw [there, Request.getMapWalkCost, isX, isY]
      refine if_neg ?_
      simp only [Request.around, columns]
      rw [sub_self, abs_zero, abs_eq_zero]
      omega
    · refine mem_neighbors_of_row noDiagonal isParent stepA stepB ?_ ?_
      · simp only [root, isX, sub_self]
      · simp only [root, isY, rows]
        omega
    · rw [there, neighborPos_around here]
      simp

end Otserv.Pathfinding
