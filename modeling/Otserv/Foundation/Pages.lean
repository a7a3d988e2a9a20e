import Mathlib.Data.List.Basic
import Mathlib.Data.List.InsertIdx

/-!
# Pages of a list

A page is what is shown of a list from some place on (`page`). When the list changes in one place,
the page does too: an item is set in it, one enters it in front or behind, or one leaves it and the
next one comes up from behind (`page_set`, `page_cons`, `page_append`, `page_eraseIdx`).

Whether an item is erased here or there makes no difference just where the items from here to there
are alike (`eraseIdx_eq_iff`), and the same goes for an item that is set or put in here or there.
-/

namespace Otserv.Foundation

variable {Item : Type*}

/-- What is shown of a list from the place `first` on. -/
def page (first count : Nat) (items : List Item) : List Item := (items.drop first).take count

section Pages

variable {first count : Nat} {items : List Item} (place : Nat)

theorem getElem?_page :
    (page first count items)[place]? = if place < count then items[first + place]? else none := by
  rw [page, List.getElem?_take, List.getElem?_drop]

theorem length_page : (page first count items).length = min count (items.length - first) := by
  rw [page, List.length_take, List.length_drop]

theorem take_page (fewer : Nat) :
    (page first count items).take fewer = page first (min fewer count) items := by
  rw [page, page, List.take_take]

theorem page_succ : page first (count + 1) items =
    page first count items ++ (items[first + count]?).toList := by
  rw [page, List.take_add_one, List.getElem?_drop]
  rfl

/-! ## A change of one item -/

theorem page_set (item : Item) : page first count (items.set place item) =
    if place < first then page first count items
    else (page first count items).set (place - first) item := by
  rw [page, List.drop_set]
  by_cases before : place < first
  · rw [if_pos before, if_pos before]
    rfl
  · rw [if_neg before, if_neg before, List.take_set]
    rfl

theorem page_cons {item head : Item} (isHead : (item :: items)[first]? = some head) :
    page first count (item :: items) = (head :: page first count items).take count := by
  obtain ⟨bound, isHead⟩ := List.getElem?_eq_some_iff.mp isHead
  rw [page, List.drop_eq_getElem_cons bound, isHead, List.drop_succ_cons]
  cases count with
  | zero => rfl
  | succ count =>
    rw [List.take_succ_cons, List.take_succ_cons, take_page, Nat.min_eq_left (Nat.le_succ _)]
    rfl

theorem page_append {last : Item} (reaches : first ≤ items.length) :
    page first count (items ++ [last]) = (page first count items ++ [last]).take count := by
  rw [page, List.drop_append_of_le_length reaches, page]
  by_cases full : count ≤ (items.drop first).length
  · have length : ((items.drop first).take count).length = count := by
      rw [List.length_take, Nat.min_eq_left full]
    rw [List.take_append_of_le_length full,
      List.take_append_of_le_length (Nat.le_of_eq length.symm), List.take_take, Nat.min_self]
  · rw [List.take_of_length_le (Nat.le_of_not_le full)]

/-- The item at `place` leaves the list. -/
theorem page_eraseIdx : page first count (items.eraseIdx place) =
    (page first (count + 1) items).eraseIdx (min (place - first) count) := by
  apply List.ext_getElem?
  intro other
  rw [getElem?_page, List.getElem?_eraseIdx, List.getElem?_eraseIdx, getElem?_page, getElem?_page]
  by_cases shown : other < count
  · rw [if_pos shown]
    by_cases before : first + other < place
    · have sameSide : other < min (place - first) count := by omega
      rw [if_pos before, if_pos sameSide, if_pos (Nat.lt_succ_of_lt shown)]
    · have sameSide : ¬other < min (place - first) count := by omega
      rw [if_neg before, if_neg sameSide, if_pos (Nat.succ_lt_succ shown), Nat.add_assoc]
  · have sameSide : ¬other < min (place - first) count := by omega
    have hidden : ¬other + 1 < count + 1 := fun next => shown (Nat.lt_of_succ_lt_succ next)
    rw [if_neg shown, if_neg sameSide, if_neg hidden]

theorem eraseIdx_page_succ (full : (page first count items).length = count) :
    (page first (count + 1) items).eraseIdx count = page first count items := by
  rw [page_succ, List.eraseIdx_append_of_length_le (Nat.le_of_eq full), full, Nat.sub_self]
  cases items[first + count]? with
  | none => exact List.append_nil _
  | some item => exact List.append_nil _

theorem eraseIdx_append_next {reached : Nat} (inPage : reached < count) :
    (page first count items).eraseIdx reached ++ (items[first + count]?).toList =
      (page first (count + 1) items).eraseIdx reached := by
  rw [page_succ]
  by_cases shown : reached < (page first count items).length
  · rw [List.eraseIdx_append_of_lt_length shown]
  · -- the page is not full, so there is nothing behind it
    have short := shown
    rw [length_page] at short
    rw [List.getElem?_eq_none (by omega), Option.toList_none, List.append_nil, List.append_nil]

end Pages

/-! ## Changes in the wrong place -/

/-- Each of the items from `first` on is like the next one, up to `last`. -/
def Alike (first last : Nat) (items : List Item) : Prop :=
  ∀ place, first ≤ place → place < last → items[place + 1]? = items[place]?

theorem eraseIdx_eq_iff {first last : Nat} (ordered : first ≤ last) (items : List Item) :
    items.eraseIdx first = items.eraseIdx last ↔ Alike first last items := by
  constructor
  · intro same place reached before
    have sameItem : (items.eraseIdx first)[place]? = (items.eraseIdx last)[place]? := by
      rw [same]
    rwa [List.getElem?_eraseIdx, List.getElem?_eraseIdx, if_neg (Nat.not_lt.mpr reached),
      if_pos before] at sameItem
  · intro alike
    apply List.ext_getElem?
    intro place
    rw [List.getElem?_eraseIdx, List.getElem?_eraseIdx]
    by_cases before : place < first
    · rw [if_pos before, if_pos (by omega)]
    · rw [if_neg before]
      by_cases reached : place < last
      · rw [if_pos reached]
        exact alike place (Nat.le_of_not_lt before) reached
      · rw [if_neg reached]

variable {items : List Item}

theorem set_eq_self_iff {place : Nat} (bound : place < items.length)
    (item : Item) : items.set place item = items ↔ items[place]? = some item := by
  constructor
  · intro same
    rw [← same, List.getElem?_set_self bound]
  · intro isItem
    obtain ⟨_, rfl⟩ := List.getElem?_eq_some_iff.mp isItem
    exact List.set_getElem_self bound

theorem set_eq_set_iff {here there : Nat} (different : here ≠ there)
    (boundHere : here < items.length) (boundThere : there < items.length) (item : Item) :
    items.set here item = items.set there item ↔
      items[here]? = some item ∧ items[there]? = some item := by
  constructor
  · intro same
    have atHere : (items.set here item)[here]? = (items.set there item)[here]? := by rw [same]
    have atThere : (items.set here item)[there]? = (items.set there item)[there]? := by rw [same]
    rw [List.getElem?_set_self boundHere, List.getElem?_set_ne different.symm] at atHere
    rw [List.getElem?_set_ne different, List.getElem?_set_self boundThere] at atThere
    exact ⟨atHere.symm, atThere⟩
  · rintro ⟨atHere, atThere⟩
    rw [(set_eq_self_iff boundHere item).mpr atHere, (set_eq_self_iff boundThere item).mpr atThere]

/-- An item is put in at `place` that belongs in front. -/
theorem take_insertIdx_eq_cons_iff {place count : Nat} {item head : Item}
    (fits : place ≤ items.length) (shown : place < count) :
    (items.insertIdx place item).take count = (head :: items).take count ↔
      ∀ other ∈ (head :: items).take (place + 1), other = item := by
  induction items generalizing place count head with
  | nil =>
    obtain rfl : place = 0 := Nat.le_zero.mp fits
    obtain ⟨count, rfl⟩ := Nat.exists_eq_succ_of_ne_zero (Nat.ne_zero_of_lt shown)
    simp [eq_comm]
  | cons first rest ih =>
    obtain ⟨count, rfl⟩ := Nat.exists_eq_succ_of_ne_zero (Nat.ne_zero_of_lt shown)
    cases place with
    | zero => simp [eq_comm]
    | succ place =>
      have fitsRest : place ≤ rest.length := Nat.le_of_succ_le_succ fits
      have shownRest : place < count := Nat.lt_of_succ_lt_succ shown
      have isFirst (others : ∀ other ∈ (first :: rest).take (place + 1), other = item) :
          first = item := by
        apply others
        exact List.mem_cons_self
      rw [List.insertIdx_succ_cons, List.take_succ_cons, List.take_succ_cons, List.cons.injEq,
        ih fitsRest shownRest, @List.take_succ_cons _ head, List.forall_mem_cons]
      constructor
      · rintro ⟨rfl, others⟩
        exact ⟨isFirst others, others⟩
      · rintro ⟨isItem, others⟩
        exact ⟨(isFirst others).trans isItem.symm, others⟩

/-- An item is put in at `place` that belongs behind. -/
theorem take_insertIdx_eq_append_iff {place count : Nat} {item last : Item}
    (fits : place ≤ items.length) (shown : place < count) :
    (items.insertIdx place item).take count = (items ++ [last]).take count ↔
      ∀ other ∈ ((items ++ [last]).take count).drop place, other = item := by
  induction items generalizing place count item with
  | nil =>
    obtain rfl : place = 0 := Nat.le_zero.mp fits
    obtain ⟨count, rfl⟩ := Nat.exists_eq_succ_of_ne_zero (Nat.ne_zero_of_lt shown)
    simp [eq_comm]
  | cons first rest ih =>
    obtain ⟨count, rfl⟩ := Nat.exists_eq_succ_of_ne_zero (Nat.ne_zero_of_lt shown)
    cases place with
    | zero =>
      rw [List.insertIdx_zero, List.take_succ_cons, List.cons_append, List.take_succ_cons,
        List.cons.injEq, List.drop_zero, List.forall_mem_cons, eq_comm]
      refine and_congr_right fun isItem => ?_
      subst isItem
      cases count with
      | zero => simp
      | succ count =>
        rw [← List.insertIdx_zero, ih (Nat.zero_le _) (Nat.succ_pos count), List.drop_zero]
    | succ place =>
      have fitsRest : place ≤ rest.length := Nat.le_of_succ_le_succ fits
      have shownRest : place < count := Nat.lt_of_succ_lt_succ shown
      rw [List.insertIdx_succ_cons, List.take_succ_cons, List.cons_append, List.take_succ_cons,
        List.cons.injEq, ih fitsRest shownRest, List.drop_succ_cons]
      exact and_iff_right rfl

end Otserv.Foundation
