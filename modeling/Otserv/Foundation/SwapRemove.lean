import Mathlib.Data.List.Perm.Basic
import Mathlib.Data.List.Nodup

/-!
# Removing an element by swapping in the last one

An element is removed from an unordered vector by writing the last element over
it and dropping the last place. Up to order this erases the element
(`swapRemove_perm_erase`).
-/

namespace Otserv.Foundation

variable {Element : Type*} [DecidableEq Element]

/-- The last element takes the place of the removed one. -/
def swapRemove (element : Element) (elements : List Element) : List Element :=
  match elements.getLast? with
  | none => []
  | some back => (elements.set (elements.idxOf element) back).dropLast

variable {elements : List Element}

theorem swapRemove_perm_erase {element : Element} (present : element ∈ elements) :
    (swapRemove element elements).Perm (elements.erase element) := by
  obtain ⟨before, after, notBefore, split, erased⟩ := List.exists_erase_eq present
  have place : elements.idxOf element = before.length := by
    rw [split, List.idxOf_append_of_notMem notBefore, List.idxOf_cons_self, Nat.add_zero]
  rw [erased, swapRemove, place]
  rcases after.eq_nil_or_concat with rfl | ⟨inner, back, rfl⟩
  · simp [split]
  · rw [List.concat_eq_append] at split ⊢
    have last : elements.getLast? = some back := by
      rw [split, ← List.cons_append, ← List.append_assoc, List.getLast?_concat]
    have moved : elements.set before.length back = (before ++ back :: inner) ++ [back] := by
      rw [split, List.set_append_right _ _ (Nat.le_refl _), Nat.sub_self]
      simp
    rw [last]
    dsimp only
    rw [moved, List.dropLast_concat]
    exact (List.perm_append_singleton back inner).symm.append_left before

theorem mem_swapRemove {element other : Element}
    (present : element ∈ elements) (distinct : elements.Nodup) :
    other ∈ swapRemove element elements ↔ other ≠ element ∧ other ∈ elements := by
  rw [(swapRemove_perm_erase present).mem_iff, distinct.mem_erase_iff]

theorem nodup_swapRemove {element : Element}
    (present : element ∈ elements) (distinct : elements.Nodup) :
    (swapRemove element elements).Nodup :=
  (swapRemove_perm_erase present).nodup_iff.mpr (distinct.erase element)

end Otserv.Foundation
