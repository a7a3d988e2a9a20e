import Mathlib.Algebra.BigOperators.Group.Finset.Piecewise
import Mathlib.Data.Fintype.Card

/-!
# Tallies

A tally counts the members of a finite family that have a property. When one member changes,
the tally changes by that member alone (`tally_update`): what counters of a group of threads
or processes count is followed in this way.
-/

namespace Otserv.Foundation

variable {Index Value : Type*} [Fintype Index]

/-- How many members of the family have the property. -/
def tally (property : Value → Prop) [DecidablePred property] (family : Index → Value) : Nat :=
  (Finset.univ.filter fun index => property (family index)).card

variable {property : Value → Prop} [DecidablePred property] {family : Index → Value}

/-- **One member changes.** -/
theorem tally_update [DecidableEq Index] (index : Index) (value : Value) :
    tally property (Function.update family index value) +
        (if property (family index) then 1 else 0) =
      tally property family + (if property value then 1 else 0) := by
  have others : ∀ other ∈ Finset.univ.erase index,
      (if property (Function.update family index value other) then 1 else 0) =
        if property (family other) then 1 else 0 := by
    intro other member
    rw [Function.update_of_ne (Finset.ne_of_mem_erase member)]
  have whole := Finset.add_sum_erase Finset.univ
    (fun other => if property (family other) then 1 else 0) (Finset.mem_univ index)
  rw [tally, tally, Finset.card_filter, Finset.card_filter, ← whole,
    ← Finset.add_sum_erase _ _ (Finset.mem_univ index), Function.update_self,
    Finset.sum_congr rfl others]
  omega

theorem tally_update_of_iff [DecidableEq Index] {index : Index} {value : Value}
    (same : property value ↔ property (family index)) :
    tally property (Function.update family index value) = tally property family := by
  have change := @tally_update Index Value _ property _ family _ index value
  by_cases holds : property value
  · rw [if_pos holds, if_pos (same.mp holds)] at change
    exact Nat.add_right_cancel change
  · rw [if_neg holds, if_neg fun before => holds (same.mpr before)] at change
    exact change

theorem tally_update_of_gain [DecidableEq Index] {index : Index} {value : Value}
    (before : ¬property (family index)) (after : property value) :
    tally property (Function.update family index value) = tally property family + 1 := by
  have change := @tally_update Index Value _ property _ family _ index value
  rwa [if_neg before, if_pos after] at change

theorem tally_update_of_loss [DecidableEq Index] {index : Index} {value : Value}
    (before : property (family index)) (after : ¬property value) :
    tally property (Function.update family index value) + 1 = tally property family := by
  have change := @tally_update Index Value _ property _ family _ index value
  rwa [if_pos before, if_neg after] at change

/-- Members that change without a change of the property. -/
theorem tally_congr {other : Index → Value}
    (same : ∀ index, property (other index) ↔ property (family index)) :
    tally property other = tally property family := by
  rw [tally, tally]
  congr 1
  exact Finset.filter_congr fun index _ => same index

theorem tally_eq_zero_iff : tally property family = 0 ↔ ∀ index, ¬property (family index) := by
  rw [tally, Finset.card_eq_zero, Finset.filter_eq_empty_iff]
  exact ⟨fun none index => none (Finset.mem_univ index), fun none index _ => none index⟩

theorem tally_eq_card_iff :
    tally property family = Fintype.card Index ↔ ∀ index, property (family index) := by
  rw [tally, ← Finset.card_univ, Finset.card_filter_eq_iff]
  exact ⟨fun all index => all index (Finset.mem_univ index), fun all index _ => all index⟩

end Otserv.Foundation
