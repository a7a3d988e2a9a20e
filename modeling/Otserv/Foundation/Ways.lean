import Mathlib.Logic.Relation

/-!
# Ways along a partial map

From every place there is at most one step. A way comes to an end (`LeadsOut`), or it comes back
to where it began (`LeadsBack`), or it gets into a circle that it does not begin in. No way does
both of the first two (`LeadsBack.not_leadsOut`).
-/

namespace Otserv.Foundation

open Relation (ReflTransGen TransGen)

variable {Place : Type*} (next : Place → Option Place)

def Step (place after : Place) : Prop := next place = some after

/-- The way from a place comes to an end. -/
def LeadsOut (place : Place) : Prop :=
  ∃ last, ReflTransGen (Step next) place last ∧ next last = none

/-- The way from a place comes back to it. -/
def LeadsBack (place : Place) : Prop := TransGen (Step next) place place

variable {next} {place after : Place}

theorem leadsOut_of_none (last : next place = none) : LeadsOut next place := ⟨place, .refl, last⟩

theorem leadsOut_step (step : next place = some after) :
    LeadsOut next place ↔ LeadsOut next after := by
  constructor
  · rintro ⟨last, way, isLast⟩
    rcases way.cases_head with rfl | ⟨other, toOther, rest⟩
    · rw [isLast] at step
      cases step
    · obtain rfl : other = after := Option.some.inj (toOther.symm.trans step)
      exact ⟨last, rest, isLast⟩
  · rintro ⟨last, way, isLast⟩
    exact ⟨last, .head step way, isLast⟩

namespace LeadsBack

theorem transGen (leadsBack : LeadsBack next place) (way : ReflTransGen (Step next) place after) :
    TransGen (Step next) after place := by
  induction way with
  | refl => exact leadsBack
  | @tail before after way step ih =>
    obtain ⟨other, toOther, rest⟩ := TransGen.head'_iff.mp ih
    obtain rfl : other = after := Option.some.inj (toOther.symm.trans step)
    rcases rest.cases_head with rfl | ⟨third, toThird, rest⟩
    · exact leadsBack
    · exact .head' toThird rest

theorem not_leadsOut (leadsBack : LeadsBack next place) : ¬LeadsOut next place := by
  rintro ⟨last, way, isLast⟩
  obtain ⟨other, step, -⟩ := TransGen.head'_iff.mp (leadsBack.transGen way)
  rw [Step, isLast] at step
  cases step

end LeadsBack

end Otserv.Foundation
