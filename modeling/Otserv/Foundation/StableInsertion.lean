import Mathlib.Data.List.TakeWhile
import Otserv.Foundation.Numerals

/-!
# Insertion behind equal keys

A list is kept in order by a key: a new entry goes in front of the first entry of a
greater key, behind all those of its own. So the entries of one key stand in the order
in which they came (`filter_insertAll`), and as a list in order is known from its
entries of each key (`eq_of_filter_eq`), that says what the list is.

The same entries inserted back to front come out reversed key by key. Whether a list
is its entries of one kind before the others is a matter of each two of its entries
(`eq_filter_append_iff`).
-/

namespace Otserv.Foundation

variable {α κ : Type*}

/-! ## One kind before the other -/

theorem eq_filter_append_iff (kind : α → Bool) (entries : List α) :
    entries = entries.filter kind ++ entries.filter (!kind ·) ↔
      entries.Pairwise fun earlier later => kind later → kind earlier := by
  constructor
  · intro split
    rw [split, List.pairwise_append]
    refine ⟨?_, ?_, ?_⟩
    · exact List.pairwise_of_forall_mem_list fun _ member _ _ _ => (List.mem_filter.mp member).2
    · refine List.pairwise_of_forall_mem_list fun _ _ later member ofKind => ?_
      simp [ofKind] at member
    · exact fun _ member _ _ _ => (List.mem_filter.mp member).2
  · intro pairwise
    induction entries with
    | nil => rfl
    | cons entry entries ih =>
      obtain ⟨first, pairwise⟩ := List.pairwise_cons.mp pairwise
      by_cases ofKind : kind entry
      · rw [List.filter_cons_of_pos ofKind, List.filter_cons_of_neg (by simp [ofKind]),
          List.cons_append, ← ih pairwise]
      · have none : ∀ later ∈ entries, ¬ kind later := fun later member holds =>
          ofKind (first later member holds)
        have empty : entries.filter kind = [] := List.filter_eq_nil_iff.mpr none
        have all : entries.filter (!kind ·) = entries :=
          List.filter_eq_self.mpr fun later member => by simp [none later member]
        rw [List.filter_cons_of_neg ofKind, List.filter_cons_of_pos (by simp [ofKind]), empty,
          all, List.nil_append]

/-! ## Lists in order -/

variable [LinearOrder κ] (key : α → κ)

/-- Each key is at most those behind it. -/
def InKeyOrder (entries : List α) : Prop := entries.Pairwise (key · ≤ key ·)

variable {key} {entries : List α} {entry : α}

theorem InKeyOrder.head_le
    (sorted : InKeyOrder key (entry :: entries)) {other : α} (member : other ∈ entry :: entries) : key entry ≤ key other := by
  rcases List.mem_cons.mp member with rfl | later
  · exact le_refl _
  · exact (List.pairwise_cons.mp sorted).1 other later

variable {left right : List α}

theorem mem_of_filter_eq (same : ∀ k, left.filter (key · = k) = right.filter (key · = k))
    (member : entry ∈ left) : entry ∈ right := by
  have inFilter : entry ∈ left.filter (key · = key entry) := by simp [member]
  rw [same] at inFilter
  exact (List.mem_filter.mp inFilter).1

/-- **A list in order is known from its entries of each key.** -/
theorem eq_of_filter_eq (sortedLeft : InKeyOrder key left) (sortedRight : InKeyOrder key right)
    (same : ∀ k, left.filter (key · = k) = right.filter (key · = k)) : left = right := by
  induction left generalizing right with
  | nil =>
    symm
    rw [List.eq_nil_iff_forall_not_mem]
    intro entry member
    have inLeft := mem_of_filter_eq (fun k => (same k).symm) member
    exact List.not_mem_nil inLeft
  | cons entry left ih =>
    cases right with
    | nil =>
      have inRight : entry ∈ [] := mem_of_filter_eq same List.mem_cons_self
      exact absurd inRight List.not_mem_nil
    | cons other right =>
      have sameKey : key entry = key other := le_antisymm
        (sortedLeft.head_le (mem_of_filter_eq (fun k => (same k).symm) List.mem_cons_self))
        (sortedRight.head_le (mem_of_filter_eq same List.mem_cons_self))
      have first := same (key entry)
      simp only [List.filter_cons, sameKey, decide_true, if_true, List.cons.injEq] at first
      obtain ⟨rfl, -⟩ := first
      refine congrArg (entry :: ·) (ih (List.pairwise_cons.mp sortedLeft).2
        (List.pairwise_cons.mp sortedRight).2 fun k => ?_)
      have later := same k
      by_cases isKey : key entry = k
      · simpa [List.filter_cons, isKey] using later
      · simpa [List.filter_cons, isKey] using later

/-! ## Insertion -/

variable (key)

/-- The entry goes in front of the first of a greater key. -/
def insertBehind (entry : α) (entries : List α) : List α :=
  entries.takeWhile (key · ≤ key entry) ++ entry :: entries.dropWhile (key · ≤ key entry)

/-- The entries go in one after the other. -/
def insertAll (arriving entries : List α) : List α :=
  arriving.foldl (fun entries entry => insertBehind key entry entries) entries

variable {key}

/-- Past the keys that are passed over, all are greater. -/
theorem lt_of_mem_dropWhile {k : κ} (sorted : InKeyOrder key entries)
    (member : entry ∈ entries.dropWhile (key · ≤ k)) : k < key entry := by
  induction entries with
  | nil => simp at member
  | cons first entries ih =>
    by_cases passed : key first ≤ k
    · rw [List.dropWhile_cons_of_pos (by simpa using passed)] at member
      exact ih (List.pairwise_cons.mp sorted).2 member
    · rw [List.dropWhile_cons_of_neg (by simpa using passed)] at member
      exact lt_of_lt_of_le (not_le.mp passed) (sorted.head_le member)

variable (key) in
@[simp] theorem length_insertBehind (entry : α) (entries : List α) :
    (insertBehind key entry entries).length = entries.length + 1 := by
  have parts := congrArg List.length
    (List.takeWhile_append_dropWhile (p := (key · ≤ key entry)) (l := entries))
  rw [List.length_append] at parts
  rw [insertBehind, List.length_append, List.length_cons, ← parts, Nat.add_assoc]

theorem InKeyOrder.insertBehind (sorted : InKeyOrder key entries) (entry : α) :
    InKeyOrder key (insertBehind key entry entries) := by
  have parts : InKeyOrder key (entries.takeWhile (key · ≤ key entry) ++
      entries.dropWhile (key · ≤ key entry)) := by
    rw [List.takeWhile_append_dropWhile]
    exact sorted
  obtain ⟨before, behind, across⟩ := List.pairwise_append.mp parts
  have passed : ∀ other ∈ entries.takeWhile (key · ≤ key entry), key other ≤ key entry :=
    fun _ member => by simpa using List.mem_takeWhile_imp member
  have greater : ∀ other ∈ entries.dropWhile (key · ≤ key entry), key entry ≤ key other :=
    fun _ member => le_of_lt (lt_of_mem_dropWhile sorted member)
  refine List.pairwise_append.mpr ⟨before, List.pairwise_cons.mpr ⟨greater, behind⟩, ?_⟩
  intro earlier inBefore later inRest
  rcases List.mem_cons.mp inRest with rfl | inBehind
  · exact passed earlier inBefore
  · exact across earlier inBefore later inBehind

theorem filter_insertBehind (sorted : InKeyOrder key entries) (entry : α) (k : κ) :
    (insertBehind key entry entries).filter (key · = k) =
      entries.filter (key · = k) ++ [entry].filter (key · = k) := by
  have parts : entries.filter (key · = k) =
      (entries.takeWhile (key · ≤ key entry)).filter (key · = k) ++
        (entries.dropWhile (key · ≤ key entry)).filter (key · = k) := by
    rw [← List.filter_append, List.takeWhile_append_dropWhile]
  rw [insertBehind, List.filter_append, parts]
  by_cases ofKey : key entry = k
  · -- those behind are of greater keys
    have none : (entries.dropWhile (key · ≤ key entry)).filter (key · = k) = [] := by
      rw [List.filter_eq_nil_iff]
      intro other member
      have greater := lt_of_mem_dropWhile sorted member
      simpa [← ofKey] using ne_of_gt greater
    rw [List.filter_cons_of_pos (by simpa using ofKey), none, List.append_nil,
      List.filter_cons_of_pos (by simpa using ofKey), List.filter_nil]
  · rw [List.filter_cons_of_neg (by simpa using ofKey),
      List.filter_cons_of_neg (by simpa using ofKey), List.filter_nil, List.append_nil]

variable (key) in
@[simp] theorem length_insertAll (arriving entries : List α) :
    (insertAll key arriving entries).length = entries.length + arriving.length := by
  induction arriving generalizing entries with
  | nil => rfl
  | cons entry arriving ih =>
    have next := ih (insertBehind key entry entries)
    rw [length_insertBehind] at next
    rw [List.length_cons, Nat.add_comm arriving.length, ← Nat.add_assoc, ← next]
    rfl

theorem InKeyOrder.insertAll (sorted : InKeyOrder key entries)
    (arriving : List α) : InKeyOrder key (insertAll key arriving entries) := by
  induction arriving generalizing entries with
  | nil => exact sorted
  | cons entry arriving ih => exact ih (sorted.insertBehind entry)

/-- **First come, first.** The entries of a key are those that were there and then the
others in the order of their coming. -/
theorem filter_insertAll (sorted : InKeyOrder key entries) (arriving : List α) (k : κ) :
    (insertAll key arriving entries).filter (key · = k) =
      entries.filter (key · = k) ++ arriving.filter (key · = k) := by
  induction arriving generalizing entries with
  | nil => simp [insertAll]
  | cons entry arriving ih =>
    have next := ih (sorted.insertBehind entry)
    rw [filter_insertBehind sorted] at next
    rw [← List.singleton_append, List.filter_append, ← List.append_assoc, ← next]
    rfl

/-! ## Back to front -/

theorem filter_append_reverse_eq_iff (kind : α → Bool) (entries : List α) :
    entries.filter (!kind ·) ++ (entries.filter kind).reverse = entries ↔
      entries.Pairwise (fun earlier later => kind earlier → kind later) ∧
        (entries.filter kind).reverse = entries.filter kind := by
  have others : entries.filter (!kind ·) ++ entries.filter kind = entries ↔
      entries.Pairwise fun earlier later => kind earlier → kind later := by
    have split := eq_filter_append_iff (!kind ·) entries
    have swap (earlier later : α) : ((!kind later) = true → (!kind earlier) = true) ↔
        (kind earlier = true → kind later = true) := by
      cases kind earlier <;> cases kind later <;> simp
    simp only [Bool.not_not, swap] at split
    rw [eq_comm, split]
  constructor
  · intro whole
    have ofKind := congrArg (List.filter kind) whole
    have none : (entries.filter (!kind ·)).filter kind = [] := by
      rw [List.filter_eq_nil_iff]
      intro entry member
      simpa using (List.mem_filter.mp member).2
    rw [List.filter_append, none, List.nil_append, List.filter_reverse,
      List.filter_filter] at ofKind
    simp only [Bool.and_self] at ofKind
    exact ⟨others.mp (ofKind ▸ whole), ofKind⟩
  · rintro ⟨first, same⟩
    rw [same]
    exact others.mpr first

/-- **Taken out and put back.** The entries of a kind, taken out of a list in order and
inserted back to front, make it the same list exactly when among the entries of each
key the others come first and those of the kind read the same in reverse. -/
theorem insertAll_reverse_eq_iff (kind : α → Bool) (sorted : InKeyOrder key entries) :
    insertAll key (entries.filter kind).reverse (entries.filter (!kind ·)) = entries ↔
      ∀ k, (entries.filter (key · = k)).Pairwise
          (fun earlier later => kind earlier → kind later) ∧
        ((entries.filter (key · = k)).filter kind).reverse =
          (entries.filter (key · = k)).filter kind := by
  have sortedRest : InKeyOrder key (entries.filter (!kind ·)) := .filter _ sorted
  have commute (p : α → Bool) (k : κ) : (entries.filter p).filter (key · = k) =
      (entries.filter (key · = k)).filter p := by
    simp only [List.filter_filter, Bool.and_comm]
  have ofKey (k : κ) : (insertAll key (entries.filter kind).reverse
        (entries.filter (!kind ·))).filter (key · = k) =
      (entries.filter (key · = k)).filter (!kind ·) ++
        ((entries.filter (key · = k)).filter kind).reverse := by
    rw [filter_insertAll sortedRest, List.filter_reverse, commute, commute]
  simp only [← filter_append_reverse_eq_iff, ← ofKey]
  constructor
  · intro whole k
    rw [whole]
  · exact eq_of_filter_eq (sortedRest.insertAll _) sorted

end Otserv.Foundation
