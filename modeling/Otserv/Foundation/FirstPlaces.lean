import Mathlib.Data.List.Nodup

/-!
# First places

In a list of names a name stands for the first place that has it. Names that are added at the end
change nothing for the names there are (`FirstAt.append_iff`). When one place gets another name,
what the names stood for stays so just when the place was the first of its old name, comes before
all of its new name, and is not before a place that the new name stood for.
-/

namespace Otserv.Foundation

variable {Name : Type*} {names : List Name} {name : Name} {place : Nat}

/-- The first place that has a name. -/
def FirstAt (names : List Name) (name : Name) (place : Nat) : Prop :=
  names[place]? = some name ∧ ∀ before < place, names[before]? ≠ some name

namespace FirstAt

theorem findIdx?_eq_some_iff [DecidableEq Name] :
    names.findIdx? (fun each => each = name) = some place ↔ FirstAt names name place := by
  rw [List.findIdx?_eq_some_iff_getElem]
  constructor
  · rintro ⟨inside, isName, notBefore⟩
    refine ⟨by simpa [List.getElem?_eq_getElem inside] using isName, fun before less found => ?_⟩
    obtain ⟨within, same⟩ := List.getElem?_eq_some_iff.mp found
    simpa [same] using notBefore before less
  · rintro ⟨isName, notBefore⟩
    obtain ⟨inside, same⟩ := List.getElem?_eq_some_iff.mp isName
    refine ⟨inside, by simpa using same, fun before less => ?_⟩
    have other := notBefore before less
    rw [List.getElem?_eq_getElem (Nat.lt_trans less inside)] at other
    simpa using other

theorem of_nodup (nodup : names.Nodup) (isName : names[place]? = some name) :
    FirstAt names name place := by
  refine ⟨isName, fun before less found => ?_⟩
  have inside : before < names.length := (List.getElem?_eq_some_iff.mp found).1
  have same := (List.getElem?_inj inside nodup).mp (found.trans isName.symm)
  omega

theorem append (first : FirstAt names name place) (more : List Name) :
    FirstAt (names ++ more) name place := by
  obtain ⟨isName, notBefore⟩ := first
  have inside : place < names.length := (List.getElem?_eq_some_iff.mp isName).1
  refine ⟨by rwa [List.getElem?_append_left inside], fun before less => ?_⟩
  rw [List.getElem?_append_left (Nat.lt_trans less inside)]
  exact notBefore before less

section Set

variable {changed : Nat} {old new : Name} (was : names[changed]? = some old)
include was

theorem getElem?_set_changed (each : Nat) :
    (names.set changed new)[each]? = if each = changed then some new else names[each]? := by
  have inside : changed < names.length := (List.getElem?_eq_some_iff.mp was).1
  rw [List.getElem?_set]
  split
  next here => simp [here.symm]
  next other => simp [Ne.symm other]

theorem set_other (notOld : name ≠ old) (notNew : name ≠ new)
    (first : FirstAt names name place) : FirstAt (names.set changed new) name place := by
  simp only [FirstAt, getElem?_set_changed was]
  have other : place ≠ changed := by
    rintro rfl
    exact notOld (Option.some.inj (first.1.symm.trans was))
  refine ⟨by rw [if_neg other]; exact first.1, fun before earlier => ?_⟩
  split
  · simpa using Ne.symm notNew
  · exact first.2 before earlier

variable (apart : old ≠ new)
include apart

theorem set_old_iff (first : FirstAt names old place) :
    FirstAt (names.set changed new) new place ↔
      place = changed ∧ ∀ before < changed, names[before]? ≠ some new := by
  simp only [FirstAt, getElem?_set_changed was]
  constructor
  · rintro ⟨isNew, notBefore⟩
    have here : place = changed := by
      by_contra other
      rw [if_neg other, first.1, Option.some_inj] at isNew
      exact apart isNew
    subst here
    refine ⟨rfl, fun before less => ?_⟩
    simpa [Nat.ne_of_lt less] using notBefore before less
  · rintro ⟨rfl, notBefore⟩
    refine ⟨if_pos rfl, fun before less => ?_⟩
    rw [if_neg (Nat.ne_of_lt less)]
    exact notBefore before less

theorem set_new_iff (first : FirstAt names new place) :
    FirstAt (names.set changed new) new place ↔ place < changed := by
  simp only [FirstAt, getElem?_set_changed was]
  have other : place ≠ changed := by
    rintro rfl
    exact apart (Option.some.inj (was.symm.trans first.1))
  constructor
  · rintro ⟨-, notBefore⟩
    by_contra notLess
    exact notBefore changed (by omega) (if_pos rfl)
  · intro less
    refine ⟨by rw [if_neg other]; exact first.1, fun before earlier => ?_⟩
    rw [if_neg (by omega)]
    exact first.2 before earlier

end Set

end FirstAt

end Otserv.Foundation
