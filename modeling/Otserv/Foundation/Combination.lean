import Mathlib.Data.Finset.Fold
import Mathlib.Data.Fintype.Basic

/-!
# What is held in places, combined

Each of finitely many places holds a value or nothing. The parts of the held
values are combined by an associative and commutative operation with a unit:
sums, unions of bits. Putting a value in an empty place adds its part
(`combine_put`), and what a place holds is apart from the others
(`combine_of_some`), so that taking it leaves the others (`combine_take`).
-/

namespace Otserv.Foundation

variable {Place Value Part : Type*}

section Fold

variable [DecidableEq Place] (op : Part → Part → Part) [Std.Commutative op] [Std.Associative op]
  (unit : Part)

/-- The parts of what the given places hold, combined. -/
def combineOver (places : Finset Place) (part : Value → Part) (held : Place → Option Value) :
    Part :=
  places.fold op unit fun place => (held place).elim unit part

variable [Fintype Place]

/-- The parts of everything held. -/
def combine (part : Value → Part) (held : Place → Option Value) : Part :=
  combineOver op unit Finset.univ part held

/-- The parts of what the other places hold. -/
def combineOthers (place : Place) (part : Value → Part) (held : Place → Option Value) : Part :=
  combineOver op unit (Finset.univ.erase place) part held

theorem combine_eq (place : Place) (part : Value → Part) (held : Place → Option Value) :
    combine op unit part held =
      op ((held place).elim unit part) (combineOthers op unit place part held) := by
  unfold combine combineOthers combineOver
  conv_lhs => rw [← Finset.insert_erase (Finset.mem_univ place)]
  rw [Finset.fold_insert (Finset.notMem_erase place Finset.univ)]

theorem combineOthers_update (place : Place) (part : Value → Part)
    (held : Place → Option Value) (holding : Option Value) :
    combineOthers op unit place part (Function.update held place holding) =
      combineOthers op unit place part held := by
  apply Finset.fold_congr
  intro other isOther
  rw [Function.update_of_ne (Finset.ne_of_mem_erase isOther)]

variable {place : Place} {held : Place → Option Value}

theorem combine_of_some {value : Value} (part : Value → Part) (holds : held place = some value) :
    combine op unit part held = op (part value) (combineOthers op unit place part held) := by
  rw [combine_eq op unit place, holds]
  rfl

variable [Std.LawfulLeftIdentity op unit]

theorem combine_of_none (part : Value → Part) (empty : held place = none) :
    combine op unit part held = combineOthers op unit place part held := by
  rw [combine_eq op unit place, empty]
  exact Std.LawfulLeftIdentity.left_id _

theorem combine_put (part : Value → Part) (empty : held place = none) (value : Value) :
    combine op unit part (Function.update held place (some value)) =
      op (part value) (combine op unit part held) := by
  have others := combine_of_none op unit part empty
  rw [combine_of_some op unit part (Function.update_self place _ held), combineOthers_update,
    others]

/-- Taking what a place holds. -/
theorem combine_take (place : Place) (part : Value → Part) (held : Place → Option Value) :
    combine op unit part (Function.update held place none) =
      combineOthers op unit place part held := by
  rw [combine_of_none op unit part (Function.update_self place _ held), combineOthers_update]

/-- Nothing held. -/
theorem combine_none (part : Value → Part) : combine op unit part (fun _ : Place => none) = unit := by
  unfold combine combineOver
  induction (Finset.univ : Finset Place) using Finset.induction_on with
  | empty => rfl
  | insert place places isNew ih =>
    rw [Finset.fold_insert isNew, ih]
    exact Std.LawfulLeftIdentity.left_id unit

end Fold

/-! ## Changing every component -/

/-- Changing the components of a family one after the other. -/
theorem foldl_update_add {Index : Type*} [DecidableEq Index] (change : Index → Int) :
    ∀ (indices : List Index) (family : Index → Int), indices.Nodup →
      indices.foldl (fun family index =>
          Function.update family index (family index + change index)) family =
        fun index => if index ∈ indices then family index + change index else family index
  | [], family, _ => by simp
  | index :: indices, family, distinct => by
      obtain ⟨isNew, distinct⟩ := List.nodup_cons.mp distinct
      rw [List.foldl_cons, foldl_update_add change indices _ distinct]
      funext other
      by_cases same : other = index
      · subst same
        simp [isNew]
      · simp [same]

/-- The same where each turn changes one component of what a state has. -/
theorem foldl_vary {State Index : Type*} [DecidableEq Index] {has : (Index → Int) → State → Prop}
    {turn : State → Index → State} {change : Index → Int}
    (turns : ∀ {family state} index, has family state →
      has (Function.update family index (family index + change index)) (turn state index))
    {indices : List Index} (distinct : indices.Nodup) (complete : ∀ index, index ∈ indices)
    {family : Index → Int} {state : State} (initially : has family state) :
    has (fun index => family index + change index) (indices.foldl turn state) := by
  have all := foldl_update_add change indices family distinct
  simp only [complete, if_true] at all
  rw [← all]
  clear all distinct complete
  induction indices generalizing family state with
  | nil => exact initially
  | cons index indices ih => exact ih (turns index initially)

/-! ## Bits -/

theorem union_without_iff (mask others : UInt32) :
    (mask ||| others) &&& ~~~mask = others ↔ mask &&& others = 0 := by
  rw [← UInt32.toBitVec_inj, ← UInt32.toBitVec_inj, BitVec.eq_of_getLsbD_eq_iff,
    BitVec.eq_of_getLsbD_eq_iff]
  simp only [UInt32.toBitVec_and, UInt32.toBitVec_or, UInt32.toBitVec_not, UInt32.toBitVec_ofNat,
    BitVec.getLsbD_and, BitVec.getLsbD_or, BitVec.getLsbD_not]
  refine forall_congr' fun bit => forall_congr' fun small => ?_
  cases mask.toBitVec.getLsbD bit <;> cases others.toBitVec.getLsbD bit <;> simp [small]

end Otserv.Foundation
