import Otserv.Foundation.Ancestry
import Otserv.Pathfinding.AStar
import Mathlib.Algebra.Order.BigOperators.Group.Finset

/-!
# The table of the search

Along the parents in the table of the search the cost falls and the positions are next to
each other, whatever was reopened; all but the first are at walkable positions (`Sound`).
Expanding a node keeps that, and leaves the table as it was, with more nodes, or at lower
costs (`expand_sound`).

The coordinates of a position are kept in 16 bits. The positions that are reached with the
nodes of one table are taken to be away from the border, where these wrap around
(`AwayFromBorder`).
-/

namespace Otserv.Pathfinding

open Otserv.Foundation Otserv.World
open Function (update update_of_ne update_self)

/-! ## Keys of positions -/

theorem toNat_key (x y : UInt16) :
    (AStarNodes.key x.toUInt32 y.toUInt32).toNat = x.toNat * 65536 + y.toNat := by
  have small : y.toNat < 2 ^ 16 := y.toNat_lt
  have large : x.toNat < 2 ^ 16 := x.toNat_lt
  rw [AStarNodes.key, UInt32.toNat_or, UInt32.toNat_shiftLeft]
  have shift : x.toUInt32.toNat <<< (UInt32.toNat 16 % 32) % 2 ^ 32 = x.toNat <<< 16 := by
    rw [UInt16.toNat_toUInt32, Nat.shiftLeft_eq]
    simp only [UInt32.reduceToNat, Nat.reduceMod]
    omega
  rw [shift, UInt16.toNat_toUInt32, ← Nat.shiftLeft_add_eq_or_of_lt small, Nat.shiftLeft_eq]

theorem key_injective {x y x' y' : UInt16}
    (same : AStarNodes.key x.toUInt32 y.toUInt32 = AStarNodes.key x'.toUInt32 y'.toUInt32) :
    x = x' ∧ y = y' := by
  have same := congrArg UInt32.toNat same
  rw [toNat_key, toNat_key] at same
  have small := y.toNat_lt
  have small' := y'.toNat_lt
  constructor
  · apply UInt16.toNat_inj.mp
    omega
  · apply UInt16.toNat_inj.mp
    omega

/-! ## Steps between positions -/

/-- The second position is off the first by an offset. -/
def Off (offset : Int × Int) (pos next : Position) : Prop :=
  (next.x.toNat : Int) = pos.x.toNat + offset.1 ∧ (next.y.toNat : Int) = pos.y.toNat + offset.2 ∧
    next.z = pos.z

/-- The positions are next to each other. -/
def Adjacent (pos next : Position) : Prop := ∃ offset ∈ allNeighbors, Off offset pos next

/-- Away from the places where coordinates wrap around. -/
def Inner (pos : Position) : Prop :=
  0 < pos.x.toNat ∧ pos.x.toNat < 65535 ∧ 0 < pos.y.toNat ∧ pos.y.toNat < 65535

theorem dirNeighbors_subset (direction : Direction) : dirNeighbors direction ⊆ allNeighbors := by
  cases direction <;> decide

theorem small_of_mem {offset : Int × Int} (member : offset ∈ allNeighbors) :
    -1 ≤ offset.1 ∧ offset.1 ≤ 1 ∧ -1 ≤ offset.2 ∧ offset.2 ≤ 1 ∧ offset ≠ (0, 0) := by
  revert offset
  decide

theorem toNat_coordinate {value : Int} (lower : 0 ≤ value) (upper : value < 65536) :
    ((coordinate value).toNat : Int) = value := by
  rw [coordinate, UInt16.toNat_ofNat']
  omega

theorem Inner.off {pos : Position} (inner : Inner pos) {offset : Int × Int}
    (member : offset ∈ allNeighbors) :
    Off offset pos
      ⟨coordinate (pos.x.toNat + offset.1), coordinate (pos.y.toNat + offset.2), pos.z⟩ := by
  obtain ⟨left, right, up, down, -⟩ := small_of_mem member
  obtain ⟨west, east, north, south⟩ := inner
  exact ⟨toNat_coordinate (by omega) (by omega), toNat_coordinate (by omega) (by omega), rfl⟩

theorem Off.ne {pos next : Position} {offset : Int × Int}
    (off : Off offset pos next) (member : offset ∈ allNeighbors) :
    next.x ≠ pos.x ∨ next.y ≠ pos.y := by
  obtain ⟨offX, offY, -⟩ := off
  by_contra same
  rw [not_or, not_not, not_not] at same
  rw [same.1] at offX
  rw [same.2] at offY
  exact (small_of_mem member).2.2.2.2 (Prod.ext (by simpa using offX) (by simpa using offY))

/-- The offset of a direction. -/
def Direction.offset : Direction → Int × Int
  | .north => (0, -1)
  | .east => (1, 0)
  | .south => (0, 1)
  | .west => (-1, 0)
  | .southwest => (-1, 1)
  | .southeast => (1, 1)
  | .northwest => (-1, -1)
  | .northeast => (1, -1)

/-- The offset to a child is rebuilt from that to its parent. -/
theorem directionOf_eq {offset : Int × Int} (member : offset ∈ allNeighbors) :
    ∃ direction : Direction, Request.directionOf (-offset.1) (-offset.2) = some direction ∧
      direction.offset = offset := by
  revert offset
  decide

variable {value next : UInt16}

theorem add_one_eq (off : (next.toNat : Int) = value.toNat + 1) : value + 1 = next := by
  apply UInt16.toNat_inj.mp
  have bound := next.toNat_lt
  rw [UInt16.toNat_add]
  simp only [UInt16.reduceToNat]
  omega

theorem sub_one_eq (off : (next.toNat : Int) = value.toNat + -1) : value - 1 = next := by
  apply UInt16.toNat_inj.mp
  have some : 1 ≤ value := by
    rw [UInt16.le_iff_toNat_le]
    simp only [UInt16.reduceToNat]
    omega
  rw [UInt16.toNat_sub_of_le _ _ some]
  simp only [UInt16.reduceToNat]
  omega

theorem add_zero_eq (off : (next.toNat : Int) = value.toNat + 0) : value = next := by
  apply UInt16.toNat_inj.mp
  omega

theorem getNextPosition_eq {direction : Direction} {pos next : Position}
    (off : Off direction.offset pos next) : getNextPosition direction pos = next := by
  obtain ⟨x, y, z⟩ := pos
  obtain ⟨x', y', z'⟩ := next
  obtain ⟨offX, offY, sameZ⟩ := off
  have join {a b : UInt16} (sameX : a = x') (sameY : b = y') :
      (⟨a, b, z⟩ : Position) = ⟨x', y', z'⟩ := by
    rw [sameX, sameY]
    exact congrArg (Position.mk x' y') sameZ.symm
  cases direction with
  | north => exact join (add_zero_eq offX) (sub_one_eq offY)
  | east => exact join (add_one_eq offX) (add_zero_eq offY)
  | south => exact join (add_zero_eq offX) (add_one_eq offY)
  | west => exact join (sub_one_eq offX) (add_zero_eq offY)
  | southwest => exact join (sub_one_eq offX) (add_one_eq offY)
  | southeast => exact join (add_one_eq offX) (add_one_eq offY)
  | northwest => exact join (sub_one_eq offX) (sub_one_eq offY)
  | northeast => exact join (add_one_eq offX) (sub_one_eq offY)

variable {request : Request}

namespace Request

/-- The positions that can be reached over walkable positions in so many steps. -/
inductive ReachedIn (request : Request) : Nat → Position → Prop
  | start (steps : Nat) : ReachedIn request steps request.startPos
  | step {steps : Nat} {pos next : Position} (reached : ReachedIn request steps pos)
      (adjacent : Adjacent pos next) (walkable : (request.canWalkTo next).isSome) :
      ReachedIn request (steps + 1) next

/-- What can be reached with the nodes of one table is away from the border. -/
def AwayFromBorder (request : Request) : Prop :=
  ∀ steps < maxNodes, ∀ pos, request.ReachedIn steps pos → Inner pos

theorem ReachedIn.mono {steps more : Nat} {pos : Position}
    (reached : request.ReachedIn steps pos) (less : steps ≤ more) : request.ReachedIn more pos := by
  induction reached generalizing more with
  | start steps => exact .start more
  | step reached adjacent walkable ih =>
    obtain ⟨more, rfl⟩ : ∃ less, more = less + 1 := ⟨more - 1, by omega⟩
    exact .step (ih (by omega)) adjacent walkable

/-- Each step changes a coordinate by one at most. -/
theorem ReachedIn.near {steps : Nat} {pos : Position} (reached : request.ReachedIn steps pos) :
    |(pos.x.toNat : Int) - request.startPos.x.toNat| ≤ steps ∧
      |(pos.y.toNat : Int) - request.startPos.y.toNat| ≤ steps := by
  induction reached with
  | start steps => simp
  | step reached adjacent walkable ih =>
    obtain ⟨offset, member, offX, offY, -⟩ := adjacent
    obtain ⟨left, right, up, down, -⟩ := small_of_mem member
    rw [abs_le, abs_le] at ih ⊢
    omega

theorem awayFromBorder_of_far (west : maxNodes ≤ request.startPos.x.toNat)
    (east : request.startPos.x.toNat + maxNodes ≤ 65535)
    (north : maxNodes ≤ request.startPos.y.toNat)
    (south : request.startPos.y.toNat + maxNodes ≤ 65535) : request.AwayFromBorder := by
  intro steps few pos reached
  have near := reached.near
  rw [abs_le, abs_le] at near
  unfold Inner
  omega

end Request

/-! ## The table -/

/-- The position of a node. -/
def AStarNode.pos (request : Request) (node : AStarNode) : Position :=
  ⟨node.x, node.y, request.startPos.z⟩

variable (table : AStarNodes)

/-- The nodes that are in use. -/
abbrev AStarNodes.used : Finset Nat := Finset.range table.curNode

abbrev AStarNodes.parent (i : Nat) : Option Nat := (table.nodes i).parent

abbrev AStarNodes.f (i : Nat) : Nat := (table.nodes i).f

/-- The invariant of the table: costs rise from parents, which are next to their children;
all but the first node are at walkable positions, and each is found by its position. -/
structure Sound (request : Request) (table : AStarNodes) : Prop where
  started : 0 < table.curNode
  room : table.curNode ≤ maxNodes
  root : table.nodes 0 = { x := request.startPos.x, y := request.startPos.y }
  rising : Rising table.used table.parent table.f
  adjacent : ∀ i ∈ table.used, i ≠ 0 → ∃ parent, table.parent i = some parent ∧
    Adjacent ((table.nodes parent).pos request) ((table.nodes i).pos request)
  walkable : ∀ i ∈ table.used, i ≠ 0 →
    (request.canWalkTo ((table.nodes i).pos request)).isSome
  known : ∀ x y i, table.getNodeByPosition x y = some i →
    i ∈ table.used ∧ (table.nodes i).x = x ∧ (table.nodes i).y = y
  reached : ∀ i ∈ table.used, request.ReachedIn i ((table.nodes i).pos request)

/-- The nodes of one table are in another, at their positions. -/
structure Extends (table after : AStarNodes) : Prop where
  curNode : table.curNode ≤ after.curNode
  same : ∀ i ∈ table.used, (after.nodes i).x = (table.nodes i).x ∧
    (after.nodes i).y = (table.nodes i).y

theorem Extends.refl : Extends table table :=
  ⟨Nat.le_refl _, fun _ _ => ⟨rfl, rfl⟩⟩

theorem Extends.mem {table after : AStarNodes} (extends_ : Extends table after) {i : Nat}
    (member : i ∈ table.used) : i ∈ after.used :=
  Finset.range_mono extends_.curNode member

theorem Extends.trans {table middle after : AStarNodes} (first : Extends table middle)
    (second : Extends middle after) : Extends table after where
  curNode := first.curNode.trans second.curNode
  same := fun i member => by
    obtain ⟨sameX, sameY⟩ := second.same i (first.mem member)
    rw [sameX, sameY]
    exact first.same i member

theorem start_sound (request : Request) : Sound request request.start.table where
  started := Nat.one_pos
  room := (by decide : 1 ≤ 512)
  root := rfl
  rising := by
    intro i member above isParent
    obtain rfl : i = 0 := Nat.lt_one_iff.mp (Finset.mem_range.mp member)
    cases isParent
  adjacent := fun i member notRoot =>
    absurd (Nat.lt_one_iff.mp (Finset.mem_range.mp member)) notRoot
  walkable := fun i member notRoot =>
    absurd (Nat.lt_one_iff.mp (Finset.mem_range.mp member)) notRoot
  known := by
    intro x y i found
    by_cases here : AStarNodes.key x.toUInt32 y.toUInt32 =
        AStarNodes.key request.startPos.x.toUInt32 request.startPos.y.toUInt32
    · obtain ⟨rfl, rfl⟩ := key_injective here
      have first : i = 0 := by
        simpa [AStarNodes.getNodeByPosition, Request.start, AStarNodes.new, eq_comm] using found
      subst first
      exact ⟨Finset.mem_range.mpr Nat.one_pos, rfl, rfl⟩
    · simp [AStarNodes.getNodeByPosition, Request.start, AStarNodes.new,
        update_of_ne here] at found
  reached := by
    intro i member
    obtain rfl : i = 0 := Nat.lt_one_iff.mp (Finset.mem_range.mp member)
    exact .start 0

/-- Which nodes are open does not matter. -/
theorem Sound.congr {table after : AStarNodes} (sound : Sound request table)
    (nodes : after.nodes = table.nodes) (nodeTable : after.nodeTable = table.nodeTable)
    (curNode : after.curNode = table.curNode) : Sound request after := by
  obtain ⟨_, _, _, _, _⟩ := table
  cases nodes
  cases nodeTable
  cases curNode
  exact ⟨sound.started, sound.room, sound.root, sound.rising, sound.adjacent, sound.walkable,
    sound.known, sound.reached⟩

namespace AStarNodes

variable (table : AStarNodes) (j n newf : Nat)

theorem reparent_place (i : Nat) : ((table.reparent j n newf).nodes i).x = (table.nodes i).x ∧
    ((table.reparent j n newf).nodes i).y = (table.nodes i).y := by
  rw [reparent]
  by_cases here : i = j
  · simp [here]
  · simp [update_of_ne here]

theorem parent_reparent : (table.reparent j n newf).parent = update table.parent j (some n) := by
  funext i
  rw [parent, reparent]
  by_cases here : i = j
  · simp [here]
  · simp [update_of_ne here]

theorem f_reparent : (table.reparent j n newf).f = update table.f j newf := by
  funext i
  rw [f, reparent]
  by_cases here : i = j
  · simp [here]
  · simp [update_of_ne here]

end AStarNodes

/-- A node next to another comes to it at a lower cost. -/
theorem reparent_sound {table : AStarNodes} (sound : Sound request table) {j n newf : Nat}
    (present : n ∈ table.used)
    (adjacent : Adjacent ((table.nodes n).pos request) ((table.nodes j).pos request))
    (higher : table.f n < newf) (lower : newf < table.f j) :
    Sound request (table.reparent j n newf) := by
  have place := table.reparent_place j n newf
  have pos (i : Nat) :
      ((table.reparent j n newf).nodes i).pos request = (table.nodes i).pos request := by
    rw [AStarNode.pos, (place i).1, (place i).2, AStarNode.pos]
  have notRoot : j ≠ 0 := by
    rintro rfl
    rw [AStarNodes.f, sound.root] at lower
    exact Nat.not_lt_zero _ lower
  refine ⟨sound.started, sound.room, ?_, ?_, ?_, ?_, ?_, ?_⟩
  · rw [← sound.root, AStarNodes.reparent]
    exact update_of_ne notRoot.symm _ _
  · rw [table.parent_reparent, table.f_reparent]
    exact sound.rising.reparent present higher lower
  · intro i member differs
    rw [pos, table.parent_reparent]
    by_cases here : i = j
    · subst here
      exact ⟨n, update_self i (some n) table.parent, by rwa [pos]⟩
    · obtain ⟨parent, isParent, near⟩ := sound.adjacent i member differs
      exact ⟨parent, by rwa [update_of_ne here], by rwa [pos]⟩
  · intro i member differs
    rw [pos]
    exact sound.walkable i member differs
  · intro x y i found
    rw [(place i).1, (place i).2]
    exact sound.known x y i found
  · intro i member
    rw [pos]
    exact sound.reached i member

theorem createOpenNode_sound {table after : AStarNodes} (sound : Sound request table)
    {n newf : Nat} {x y : UInt16} (present : n ∈ table.used)
    (adjacent : Adjacent ((table.nodes n).pos request) ⟨x, y, request.startPos.z⟩)
    (walkable : (request.canWalkTo ⟨x, y, request.startPos.z⟩).isSome)
    (higher : table.f n < newf) (created : table.createOpenNode n x y newf = some after) :
    Sound request after ∧ (∀ i ∈ table.used, after.nodes i = table.nodes i) ∧
      table.curNode < after.curNode := by
  rw [AStarNodes.createOpenNode] at created
  split_ifs at created with full
  cases created
  let node : AStarNode := { parent := some n, f := newf, x := x, y := y }
  have old {i : Nat} (member : i ∈ table.used) :
      update table.nodes table.curNode node i = table.nodes i :=
    update_of_ne (Finset.mem_range.mp member).ne _ _
  have self : update table.nodes table.curNode node table.curNode = node :=
    update_self _ _ _
  have split {i : Nat} (member : i ∈ Finset.range (table.curNode + 1)) :
      i = table.curNode ∨ i ∈ table.used := by
    rwa [Finset.range_add_one, Finset.mem_insert] at member
  refine ⟨⟨Nat.succ_pos _, Nat.lt_of_not_ge full, ?_, ?_, ?_, ?_, ?_, ?_⟩,
    fun i member => old member, Nat.lt_succ_self _⟩
  · rw [← sound.root]
    exact old (Finset.mem_range.mpr sound.started)
  · have rising := sound.rising.insert (Finset.notMem_range_self) present higher
    rw [← Finset.range_add_one] at rising
    rw [show update table.parent table.curNode (some n) = fun i =>
        (update table.nodes table.curNode node i).parent from
      (Function.comp_update AStarNode.parent table.nodes table.curNode node).symm] at rising
    rw [show update table.f table.curNode newf = fun i =>
        (update table.nodes table.curNode node i).f from
      (Function.comp_update AStarNode.f table.nodes table.curNode node).symm] at rising
    exact rising
  · intro i member differs
    rcases split member with rfl | member
    · refine ⟨n, congrArg AStarNode.parent self, ?_⟩
      change Adjacent ((update table.nodes table.curNode node n).pos request)
        ((update table.nodes table.curNode node table.curNode).pos request)
      rw [self, old present]
      exact adjacent
    · obtain ⟨parent, isParent, near⟩ := sound.adjacent i member differs
      have there := (sound.rising i member parent isParent).1
      refine ⟨parent, (congrArg AStarNode.parent (old member)).trans isParent, ?_⟩
      change Adjacent ((update table.nodes table.curNode node parent).pos request)
        ((update table.nodes table.curNode node i).pos request)
      rw [old there, old member]
      exact near
  · intro i member differs
    change (request.canWalkTo
      ((update table.nodes table.curNode node i).pos request)).isSome
    rcases split member with rfl | member
    · rw [self]
      exact walkable
    · rw [old member]
      exact sound.walkable i member differs
  · intro x' y' i found
    change i ∈ Finset.range (table.curNode + 1) ∧
      (update table.nodes table.curNode node i).x = x' ∧
      (update table.nodes table.curNode node i).y = y'
    by_cases here : AStarNodes.key x'.toUInt32 y'.toUInt32 =
        AStarNodes.key x.toUInt32 y.toUInt32
    · obtain ⟨rfl, rfl⟩ := key_injective here
      have isNew : table.curNode = i := by
        simpa [AStarNodes.getNodeByPosition] using found
      rw [← isNew, self]
      exact ⟨Finset.self_mem_range_succ _, rfl, rfl⟩
    · have known : table.getNodeByPosition x' y' = some i := by
        simpa [AStarNodes.getNodeByPosition, update_of_ne here] using found
      obtain ⟨member, atX, atY⟩ := sound.known x' y' i known
      rw [old member]
      exact ⟨Finset.range_mono (Nat.le_succ _) member, atX, atY⟩
  · intro i member
    change request.ReachedIn i ((update table.nodes table.curNode node i).pos request)
    rcases split member with rfl | member
    · rw [self]
      have reached := (sound.reached n present).step adjacent walkable
      exact reached.mono (Finset.mem_range.mp present)
    · rw [old member]
      exact sound.reached i member

/-! ## Expanding a node -/

theorem walkCost_pos (node : AStarNode) (pos : Position) : 0 < Request.getMapWalkCost node pos := by
  rw [Request.getMapWalkCost]
  split_ifs <;> decide

theorem expand_rule {n f : Nat} {node : AStarNode} {property : AStarNodes → Prop}
    (inner : Inner (node.pos request))
    (gives : ∀ table, property table → Sound request table ∧ n ∈ table.used ∧
      (table.nodes n).x = node.x ∧ (table.nodes n).y = node.y ∧ table.f n = f)
    (relax : ∀ table j newf, property table → j ∈ table.used → j ≠ n →
      Adjacent ((table.nodes n).pos request) ((table.nodes j).pos request) →
      f < newf → newf < table.f j → property ((table.reparent j n newf).openNode j))
    (create : ∀ table after x y newf, property table →
      Adjacent ((table.nodes n).pos request) ⟨x, y, request.startPos.z⟩ →
      (request.canWalkTo ⟨x, y, request.startPos.z⟩).isSome → f < newf →
      table.createOpenNode n x y newf = some after → property after)
    {found : Bool} {offsets : List (Int × Int)} (subset : offsets ⊆ allNeighbors) :
    ∀ {table after : AStarNodes}, property table →
      request.expand n f node found offsets table = some after → property after := by
  induction offsets with
  | nil =>
    intro table after holds expanded
    cases expanded
    exact holds
  | cons offset offsets ih =>
    have ih := @ih fun _ member => subset (List.mem_cons_of_mem _ member)
    have member : offset ∈ allNeighbors := subset List.mem_cons_self
    intro table after holds expanded
    obtain ⟨sound, present, atX, atY, cost⟩ := gives table holds
    have here : (table.nodes n).pos request = node.pos request := by
      rw [AStarNode.pos, atX, atY, AStarNode.pos]
    rw [Request.expand] at expanded
    have off : Off offset (node.pos request) (request.neighborPos node offset) :=
      inner.off member
    generalize request.neighborPos node offset = pos at off expanded
    have near : Adjacent ((table.nodes n).pos request) pos := by
      rw [here]
      exact ⟨offset, member, off⟩
    have positive := walkCost_pos node pos
    have whole : (⟨pos.x, pos.y, request.startPos.z⟩ : Position) = pos := by
      have level : pos.z = request.startPos.z := off.2.2
      rw [← level]
    split at expanded
    · exact ih holds expanded
    split at expanded
    · exact ih holds expanded
    cases known : table.getNodeByPosition pos.x pos.y with
    | some j =>
      rw [known] at expanded
      simp only at expanded
      split_ifs at expanded with cheaper
      · exact ih holds expanded
      · obtain ⟨used, isX, isY⟩ := sound.known _ _ j known
        have there : (table.nodes j).pos request = pos := by
          rw [AStarNode.pos, isX, isY, whole]
        have differs : j ≠ n := by
          rintro rfl
          rcases off.ne member with other | other
          · exact other (isX.symm.trans atX)
          · exact other (isY.symm.trans atY)
        refine ih (relax table j _ holds used differs ?_ ?_ ?_) expanded
        · rwa [there]
        · omega
        · exact Nat.lt_of_not_le cheaper
    | none =>
      rw [known] at expanded
      cases walkable : request.canWalkTo pos with
      | none =>
        rw [walkable] at expanded
        exact ih holds expanded
      | some tile =>
        rw [walkable] at expanded
        simp only at expanded
        cases created : table.createOpenNode n pos.x pos.y
            (f + Request.getMapWalkCost node pos + request.getTileWalkCost (some tile)) with
        | none =>
          rw [created] at expanded
          cases found with
          | true =>
            cases expanded
            exact holds
          | false => cases expanded
        | some opened =>
          rw [created] at expanded
          refine ih (create table opened pos.x pos.y _ holds ?_ ?_ ?_ created) expanded
          · rwa [whole]
          · rw [whole, walkable]
            rfl
          · omega

/-- The sum of the costs. -/
def AStarNodes.total : Nat := ∑ i ∈ table.used, table.f i

/-- A table has more nodes than another, or as many at lower costs, or is the same. -/
def Grown (table after : AStarNodes) : Prop :=
  after = table ∨ table.curNode < after.curNode ∨
    after.curNode = table.curNode ∧ after.total < table.total

theorem Grown.lower {table middle after : AStarNodes} (grown : Grown table middle)
    (curNode : after.curNode = middle.curNode) (less : after.total < middle.total) :
    Grown table after := by
  rcases grown with rfl | more | ⟨same, below⟩
  · exact .inr (.inr ⟨curNode, less⟩)
  · exact .inr (.inl (by rwa [curNode]))
  · exact .inr (.inr ⟨curNode.trans same, less.trans below⟩)

theorem Grown.more {table middle after : AStarNodes} (grown : Grown table middle)
    (curNode : middle.curNode < after.curNode) : Grown table after := by
  rcases grown with rfl | more | ⟨same, -⟩
  · exact .inr (.inl curNode)
  · exact .inr (.inl (more.trans curNode))
  · exact .inr (.inl (by rwa [same] at curNode))

theorem total_reparent_lt {table : AStarNodes} {j n newf : Nat} (used : j ∈ table.used)
    (lower : newf < table.f j) : (table.reparent j n newf).total < table.total := by
  rw [AStarNodes.total, AStarNodes.total, table.f_reparent]
  apply Finset.sum_lt_sum
  · intro i _
    by_cases here : i = j
    · rw [here, update_self]
      exact lower.le
    · rw [update_of_ne here]
  · exact ⟨j, used, by rwa [update_self]⟩

theorem openNode_same (j : Nat) : (table.openNode j).nodes = table.nodes ∧
    (table.openNode j).nodeTable = table.nodeTable ∧
    (table.openNode j).curNode = table.curNode := by
  rw [AStarNodes.openNode]
  split_ifs <;> exact ⟨rfl, rfl, rfl⟩

theorem expand_sound {table after : AStarNodes} (sound : Sound request table) {n : Nat}
    (present : n ∈ table.used) (inner : Inner ((table.nodes n).pos request)) {found : Bool}
    {offsets : List (Int × Int)} (subset : offsets ⊆ allNeighbors)
    (expanded : request.expand n (table.f n) (table.nodes n) found offsets table = some after) :
    Sound request after ∧ Extends table after ∧ Grown table after := by
  have rule := @expand_rule request n (table.f n) (table.nodes n) fun later =>
    Sound request later ∧ Extends table later ∧ Grown table later ∧ later.f n = table.f n
  have all : Sound request after ∧ Extends table after ∧ Grown table after ∧
      after.f n = table.f n := by
    refine rule inner ?_ ?_ ?_ subset ⟨sound, .refl table, .inl rfl, rfl⟩ expanded
    · rintro later ⟨sound, extends_, -, cost⟩
      exact ⟨sound, extends_.mem present, (extends_.same n present).1,
        (extends_.same n present).2, cost⟩
    · rintro later j newf ⟨sound, extends_, grown, cost⟩ used differs adjacent higher lower
      obtain ⟨nodes, nodeTable, curNode⟩ := openNode_same (later.reparent j n newf) j
      have relaxed : Sound request (later.reparent j n newf) :=
        reparent_sound sound (extends_.mem present) adjacent (by rwa [cost]) lower
      have total : ((later.reparent j n newf).openNode j).total =
          (later.reparent j n newf).total := by
        simp only [AStarNodes.total, AStarNodes.used, AStarNodes.f, nodes, curNode]
      refine ⟨relaxed.congr nodes nodeTable curNode, extends_.trans ⟨curNode.ge, ?_⟩,
        grown.lower curNode ?_, ?_⟩
      · intro i _
        rw [nodes]
        exact later.reparent_place j n newf i
      · rw [total]
        exact total_reparent_lt used lower
      · rw [AStarNodes.f, nodes]
        change (later.reparent j n newf).f n = _
        rw [later.f_reparent, update_of_ne differs.symm, cost]
    · rintro later opened x y newf ⟨sound, extends_, grown, cost⟩ adjacent walkable higher created
      obtain ⟨opened, same, more⟩ := createOpenNode_sound sound (extends_.mem present) adjacent
        walkable (by rwa [cost]) created
      refine ⟨opened, extends_.trans ⟨more.le, fun i member => ?_⟩, grown.more more, ?_⟩
      · rw [same i member]
        exact ⟨rfl, rfl⟩
      · rw [AStarNodes.f, same n (extends_.mem present)]
        exact cost
  exact ⟨all.1, all.2.1, all.2.2.1⟩

end Otserv.Pathfinding
