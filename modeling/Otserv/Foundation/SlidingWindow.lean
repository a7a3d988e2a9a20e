import Mathlib.Data.Set.Basic

/-!
# Windows that slide over a plane

A table of rows and columns is shifted in place, one line at a time. Copying each
entry from the next one upwards, or from the one before downwards, reads every
entry before it is overwritten: the loops shift (`copyBack_apply`,
`copyForth_apply`). What a loop of single updates leaves is said by the cells it
refreshes (`Refreshed.foldl`).
-/

namespace Otserv.Foundation

open Function (update update_of_ne update_self)

variable {α : Type*}

/-! ## Shifting a line in place -/

variable (count : Nat) (line : Nat → α)

/-- Each of the first `count` entries is set to the next one, upwards. -/
def copyBack : Nat → α :=
  (List.range count).foldl (fun line place => update line place (line (place + 1))) line

/-- Each of the `count` entries after the first is set to the one before, downwards. -/
def copyForth : Nat → α :=
  (List.range count).reverse.foldl
    (fun line place => update line (place + 1) (line place)) line

theorem copyBack_apply (place : Nat) :
    copyBack count line place = if place < count then line (place + 1) else line place := by
  induction count generalizing place with
  | zero => rfl
  | succ count ih =>
    have last : copyBack (count + 1) line =
        update (copyBack count line) count (copyBack count line (count + 1)) := by
      rw [copyBack, List.range_succ, List.foldl_append]
      rfl
    rw [last]
    rcases place.lt_trichotomy count with before | rfl | after
    · rw [update_of_ne (Nat.ne_of_lt before), ih, if_pos before,
        if_pos (Nat.lt_succ_of_lt before)]
    · rw [update_self, ih, if_neg (by omega), if_pos (Nat.lt_succ_self place)]
    · rw [update_of_ne (Nat.ne_of_gt after), ih, if_neg (by omega), if_neg (by omega)]

theorem copyForth_apply (place : Nat) :
    copyForth count line place =
      if 0 < place ∧ place ≤ count then line (place - 1) else line place := by
  induction count generalizing line with
  | zero =>
    rw [if_neg (by omega)]
    rfl
  | succ count ih =>
    have first : copyForth (count + 1) line =
        copyForth count (update line (count + 1) (line count)) := by
      rw [copyForth, List.range_succ, List.reverse_append]
      rfl
    rw [first, ih]
    by_cases last : place = count + 1
    · subst last
      rw [if_neg (by omega), if_pos (by omega), update_self]
      rfl
    · rw [update_of_ne last]
      by_cases inside : 0 < place ∧ place ≤ count
      · rw [if_pos inside, if_pos (by omega), update_of_ne (by omega)]
      · rw [if_neg inside, if_neg (by omega)]

theorem foldl_range'_apply (change : α → α) (first count : Nat) (line : Nat → α) (place : Nat) :
    (List.range' first count).foldl
        (fun line place => update line place (change (line place))) line place =
      if first ≤ place ∧ place < first + count then change (line place) else line place := by
  induction count generalizing first line with
  | zero =>
    rw [if_neg (by omega)]
    rfl
  | succ count ih =>
    rw [List.range'_succ, List.foldl_cons, ih]
    by_cases here : place = first
    · subst here
      rw [if_neg (by omega), if_pos (by omega), update_self]
    · rw [update_of_ne here]
      by_cases later : first + 1 ≤ place ∧ place < first + 1 + count
      · rw [if_pos later, if_pos (by omega)]
      · rw [if_neg later, if_neg (by omega)]

/-! ## Refreshing cells -/

/-- A table of rows and columns. -/
abbrev Table (α : Type*) := Nat → Nat → α

def Table.put (row col : Nat) (value : α) (table : Table α) : Table α :=
  update table row (update (table row) col value)

/-- After the refreshing the cells hold the fresh values, and the others what they held. -/
structure Refreshed (fresh : Table α) (cells : Nat → Nat → Prop) (before after : Table α) :
    Prop where
  inside : ∀ row col, cells row col → after row col = fresh row col
  outside : ∀ row col, ¬ cells row col → after row col = before row col

namespace Refreshed

variable {fresh : Table α} {table : Table α}

theorem put (fresh table : Table α) (row col : Nat) :
    Refreshed fresh (fun other place => other = row ∧ place = col) table
      (table.put row col (fresh row col)) := by
  constructor
  · rintro _ _ ⟨rfl, rfl⟩
    rw [Table.put, update_self, update_self]
  · intro other place elsewhere
    unfold Table.put
    by_cases same : other = row
    · subst same
      rw [update_self, update_of_ne fun place => elsewhere ⟨rfl, place⟩]
    · rw [update_of_ne same]

theorem trans {cells more : Nat → Nat → Prop} {middle after : Table α}
    (first : Refreshed fresh cells table middle) (second : Refreshed fresh more middle after) :
    Refreshed fresh (fun row col => cells row col ∨ more row col) table after := by
  constructor
  · intro row col refreshed
    by_cases again : more row col
    · exact second.inside row col again
    · rw [second.outside row col again]
      exact first.inside row col (refreshed.resolve_right again)
  · intro row col outside
    rw [second.outside row col fun isIn => outside (.inr isIn),
      first.outside row col fun isIn => outside (.inl isIn)]

/-- **A loop of refreshings** refreshes what some turn refreshes. -/
theorem foldl {Index : Type*} {cells : Index → Nat → Nat → Prop} {turn : Table α → Index → Table α}
    (turns : ∀ table index, Refreshed fresh (cells index) table (turn table index)) :
    ∀ (indices : List Index) (table : Table α),
      Refreshed fresh (fun row col => ∃ index ∈ indices, cells index row col) table
        (indices.foldl turn table)
  | [], table => by
      refine ⟨fun _ _ some => ?_, fun _ _ _ => rfl⟩
      obtain ⟨_, isMember, _⟩ := some
      cases isMember
  | index :: indices, table => by
      have both := (turns table index).trans (foldl turns indices (turn table index))
      refine ⟨fun row col refreshed => both.inside row col ?_, fun row col outside =>
        both.outside row col ?_⟩
      · obtain ⟨other, isMember, refreshed⟩ := refreshed
        rcases List.mem_cons.mp isMember with rfl | isMember
        · exact .inl refreshed
        · exact .inr ⟨other, isMember, refreshed⟩
      · rintro (now | ⟨other, isMember, later⟩)
        · exact outside ⟨index, List.mem_cons_self, now⟩
        · exact outside ⟨other, List.mem_cons_of_mem index isMember, later⟩

end Refreshed

end Otserv.Foundation
