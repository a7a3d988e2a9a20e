import Mathlib.Data.List.Nodup
import Mathlib.Data.Int.Order.Basic

/-!
# Entries with deadlines and the table they stand for

A list of entries, each with a key and a deadline, stands for a table of
deadlines by key (`Tracks`): there is one entry a key, each entry's deadline is
the one in the table, and a deadline that has not passed has an entry. An entry
whose deadline has passed may be dropped at any time.

Adding an entry, changing the deadline of one, removing those of some keys and
dropping late ones all keep list and table in step, and what is found in the
list at a moment is what is live in the table then (`Tracks.found_iff`).
-/

namespace Otserv.Foundation

variable {Key Entry : Type*}

/-- The first entry that matches is changed. -/
def onFirst (matches_ : Entry → Bool) (change : Entry → Entry) : List Entry → List Entry
  | [] => []
  | entry :: entries =>
    if matches_ entry then change entry :: entries
    else entry :: onFirst matches_ change entries

theorem split_of_find? {matches_ : Entry → Bool} {entries : List Entry} {found : Entry}
    (isFound : entries.find? matches_ = some found) :
    matches_ found = true ∧ ∃ before behind, entries = before ++ found :: behind ∧
      entries.eraseP matches_ = before ++ behind ∧
        ∀ change, onFirst matches_ change entries = before ++ change found :: behind := by
  induction entries with
  | nil => cases isFound
  | cons entry entries ih =>
    by_cases here : matches_ entry = true
    · rw [List.find?_cons_of_pos here, Option.some_inj] at isFound
      subst isFound
      refine ⟨here, [], entries, rfl, List.eraseP_cons_of_pos here, fun change => ?_⟩
      rw [onFirst, if_pos here, List.nil_append]
    · rw [List.find?_cons_of_neg here] at isFound
      obtain ⟨isMatch, before, behind, split, erased, changed⟩ := ih isFound
      refine ⟨isMatch, entry :: before, behind, congrArg (entry :: ·) split, ?_,
        fun change => ?_⟩
      · rw [List.eraseP_cons_of_neg here, erased, List.cons_append]
      · rw [onFirst, if_neg here, changed, List.cons_append]

/-- The key has a deadline, and it has not passed. -/
def Live (table : Key → Option Int) (key : Key) (time : Int) : Prop :=
  ∃ deadline, table key = some deadline ∧ time ≤ deadline

/-- The table without the keys of a kind. -/
def without (table : Key → Option Int) (kind : Key → Bool) : Key → Option Int :=
  fun key => if kind key then none else table key

/-- The list of entries stands for the table of deadlines. -/
structure Tracks (key : Entry → Key) (deadline : Entry → Int) (entries : List Entry)
    (table : Key → Option Int) (now : Int) : Prop where
  distinct : (entries.map key).Nodup
  timed : ∀ entry ∈ entries, table (key entry) = some (deadline entry)
  kept : ∀ here limit, table here = some limit → now ≤ limit → ∃ entry ∈ entries, key entry = here

namespace Tracks

variable {key : Entry → Key} {deadline : Entry → Int} {entries : List Entry}
  {table : Key → Option Int} {now : Int}

theorem empty (now : Int) : Tracks key deadline [] (fun _ => none) now where
  distinct := List.nodup_nil
  timed := by simp
  kept := by simp

section

variable (tracks : Tracks key deadline entries table now)
include tracks

theorem advance {later : Int}
    (forward : now ≤ later) : Tracks key deadline entries table later where
  distinct := tracks.distinct
  timed := tracks.timed
  kept here limit found live := tracks.kept here limit found (Int.le_trans forward live)

/-- **What is found is what is live.** -/
theorem found_iff {time : Int} (later : now ≤ time) (kind : Key → Prop) :
    (∃ entry ∈ entries, kind (key entry) ∧ time ≤ deadline entry) ↔
      ∃ here, kind here ∧ Live table here time := by
  constructor
  · rintro ⟨entry, member, ofKind, notPassed⟩
    exact ⟨key entry, ofKind, deadline entry, tracks.timed entry member, notPassed⟩
  · rintro ⟨here, ofKind, limit, found, notPassed⟩
    obtain ⟨entry, member, same⟩ :=
      tracks.kept here limit found (Int.le_trans later notPassed)
    have timed := tracks.timed entry member
    rw [same, found, Option.some.injEq] at timed
    exact ⟨entry, member, same ▸ ofKind, timed ▸ notPassed⟩

theorem filter (kind : Key → Bool) :
    Tracks key deadline (entries.filter fun entry => !kind (key entry)) (without table kind)
      now where
  distinct := tracks.distinct.sublist (List.filter_sublist.map key)
  timed entry member := by
    obtain ⟨present, other⟩ := List.mem_filter.mp member
    simp only [Bool.not_eq_true'] at other
    rw [without, if_neg (by simp [other])]
    exact tracks.timed entry present
  kept here limit found live := by
    unfold without at found
    split at found
    · cases found
    · rename_i other
      obtain ⟨entry, member, same⟩ := tracks.kept here limit found live
      exact ⟨entry, List.mem_filter.mpr ⟨member, by simp [same, other]⟩, same⟩

/-- Entries may change without their keys and deadlines, and late ones be dropped. -/
theorem filterMap {execute : Entry → Option Entry}
    (same : ∀ entry after, execute entry = some after →
      key after = key entry ∧ deadline after = deadline entry)
    (late : ∀ entry ∈ entries, execute entry = none → deadline entry < now) :
    Tracks key deadline (entries.filterMap execute) table now where
  distinct := by
    refine tracks.distinct.sublist ?_
    have keys : ∀ entries : List Entry,
        ((entries.filterMap execute).map key).Sublist (entries.map key) := by
      intro entries
      induction entries with
      | nil => exact .refl _
      | cons entry entries ih =>
        cases executed : execute entry with
        | none =>
          rw [List.filterMap_cons_none executed]
          exact ih.cons _
        | some after =>
          rw [List.filterMap_cons_some executed, List.map_cons, List.map_cons,
            (same entry after executed).1]
          exact ih.cons_cons _
    exact keys entries
  timed after member := by
    obtain ⟨entry, present, executed⟩ := List.mem_filterMap.mp member
    obtain ⟨sameKey, sameDeadline⟩ := same entry after executed
    rw [sameKey, sameDeadline]
    exact tracks.timed entry present
  kept here limit found live := by
    obtain ⟨entry, member, atKey⟩ := tracks.kept here limit found live
    cases executed : execute entry with
    | none =>
      have timed := tracks.timed entry member
      rw [atKey, found, Option.some.injEq] at timed
      have := late entry member executed
      omega
    | some after =>
      exact ⟨after, List.mem_filterMap.mpr ⟨entry, member, executed⟩,
        (same entry after executed).1.trans atKey⟩

end

section Update

variable [DecidableEq Key]

theorem append (tracks : Tracks key deadline entries table now) {entry : Entry}
    (fresh : ∀ other ∈ entries, key other ≠ key entry) :
    Tracks key deadline (entries ++ [entry])
      (Function.update table (key entry) (some (deadline entry))) now where
  distinct := by
    rw [List.map_append, List.map_singleton, ← List.concat_eq_append]
    refine tracks.distinct.concat fun member => ?_
    obtain ⟨other, present, same⟩ := List.mem_map.mp member
    exact fresh other present same
  timed other member := by
    rcases List.mem_append.mp member with old | new
    · rw [Function.update_of_ne (fresh other old)]
      exact tracks.timed other old
    · rw [List.mem_singleton.mp new, Function.update_self]
  kept here limit found live := by
    by_cases new : here = key entry
    · exact ⟨entry, by simp, new.symm⟩
    · rw [Function.update_of_ne new] at found
      obtain ⟨other, member, same⟩ := tracks.kept here limit found live
      exact ⟨other, List.mem_append_left _ member, same⟩

variable {change : Entry → Entry}

omit [DecidableEq Key] in
theorem map_key_onFirst (matches_ : Entry → Bool)
    (keeps : ∀ entry, key (change entry) = key entry) :
    ∀ entries : List Entry, (onFirst matches_ change entries).map key = entries.map key
  | [] => rfl
  | entry :: entries => by
      rw [onFirst]
      split
      · rw [List.map_cons, List.map_cons, keeps]
      · rw [List.map_cons, List.map_cons, map_key_onFirst matches_ keeps entries]

theorem mem_onFirst {here : Key} :
    ∀ {entries : List Entry}, (entries.map key).Nodup → ∀ {after : Entry},
      after ∈ onFirst (fun entry => key entry = here) change entries →
        (∃ entry ∈ entries, key entry = here ∧ after = change entry) ∨
          after ∈ entries ∧ key after ≠ here
  | [], _, _, member => absurd member List.not_mem_nil
  | entry :: entries, distinct, after, member => by
      rw [List.map_cons, List.nodup_cons] at distinct
      unfold onFirst at member
      by_cases first : key entry = here
      · simp only [first, decide_true, if_true, List.mem_cons] at member
        rcases member with changed | rest
        · exact .inl ⟨entry, by simp, first, changed⟩
        · refine .inr ⟨List.mem_cons_of_mem _ rest, fun same => distinct.1 ?_⟩
          exact List.mem_map.mpr ⟨after, rest, same.trans first.symm⟩
      · simp only [first, decide_false, Bool.false_eq_true, if_false, List.mem_cons] at member
        rcases member with rfl | rest
        · exact .inr ⟨by simp, first⟩
        · rcases mem_onFirst distinct.2 rest with ⟨other, present, at_, changed⟩ | ⟨present, away⟩
          · exact .inl ⟨other, List.mem_cons_of_mem _ present, at_, changed⟩
          · exact .inr ⟨List.mem_cons_of_mem _ present, away⟩

theorem onFirst (tracks : Tracks key deadline entries table now) {here : Key} {limit : Int}
    (keeps : ∀ entry, key (change entry) = key entry)
    (timed : ∀ entry ∈ entries, key entry = here → deadline (change entry) = limit)
    (present : ∃ entry ∈ entries, key entry = here) :
    Tracks key deadline (Foundation.onFirst (fun entry => key entry = here) change entries)
      (Function.update table here (some limit)) now where
  distinct := by
    rw [map_key_onFirst _ keeps]
    exact tracks.distinct
  timed after member := by
    rcases mem_onFirst tracks.distinct member with ⟨entry, old, at_, rfl⟩ | ⟨old, away⟩
    · rw [keeps, at_, Function.update_self, timed entry old at_]
    · rw [Function.update_of_ne away]
      exact tracks.timed after old
  kept other limit' found live := by
    have atKey : other ∈ entries.map key := by
      by_cases same : other = here
      · obtain ⟨entry, old, at_⟩ := present
        exact List.mem_map.mpr ⟨entry, old, at_.trans same.symm⟩
      · rw [Function.update_of_ne same] at found
        obtain ⟨entry, old, at_⟩ := tracks.kept other limit' found live
        exact List.mem_map.mpr ⟨entry, old, at_⟩
    rw [← map_key_onFirst (fun entry => decide (key entry = here)) keeps entries] at atKey
    exact List.mem_map.mp atKey

end Update

end Tracks

end Otserv.Foundation
