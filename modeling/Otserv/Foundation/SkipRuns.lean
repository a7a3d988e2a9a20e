import Mathlib.Data.Int.Order.Basic

/-!
# Runs of empty cells

A row of cells, some with a description, is written as the descriptions with markers between
them: a marker is a count and the byte 0xFF, and stands for a run of empty cells. A writer
carries the length of the run it is in, one less at the start and behind a full marker, where
no description has gone before. A reader that knows the cells takes them back
(`read_write`), if it can tell where a description ends and no description looks like a
marker (`Delimited`).
-/

namespace Otserv.Foundation.SkipRuns

variable {κ : Type}

def marker (count : UInt8) : List UInt8 := [count, 0xFF]

/-! ## The writer -/

/-- The marker of a run that ends. -/
def closing (skip : Int) : List UInt8 := if 0 ≤ skip then marker (UInt8.ofInt skip) else []

/-- What is written for the cells from a run on. -/
def write : Int → List (Option (List UInt8)) → List UInt8
  | skip, [] => closing skip
  | skip, some description :: cells => closing skip ++ description ++ write 0 cells
  | skip, none :: cells =>
    if skip = 0xFE then marker 0xFF ++ write (-1) cells else write (skip + 1) cells

/-! ## The reader -/

def readMarker : List UInt8 → Option (UInt8 × List UInt8)
  | count :: closed :: rest => if closed = 0xFF then some (count, rest) else none
  | _ => none

/-- The cells are read in their order, with `pending` empty ones first. A marker directly
behind a description leaves that many cells empty; one at the start or directly behind a full
marker (`fresh`) leaves one more. -/
def read (split : List UInt8 → Option (List UInt8 × List UInt8)) :
    Bool → Nat → List κ → List UInt8 → Option (List (κ × Option (List UInt8)) × List UInt8)
  | _, 0, [], bytes => some ([], bytes)
  | _, _ + 1, [], _ => none
  | fresh, pending + 1, cell :: cells, bytes =>
    (read split fresh pending cells bytes).map fun (found, rest) => ((cell, none) :: found, rest)
  | fresh, 0, cell :: cells, bytes =>
    match if fresh then readMarker bytes else none with
    | some (count, rest) =>
      (read split (count == 0xFF) count.toNat cells rest).map fun (found, rest) =>
        ((cell, none) :: found, rest)
    | none =>
      match split bytes with
      | none => none
      | some (description, rest) =>
        match readMarker rest with
        | none => none
        | some (count, rest) =>
          (read split (count == 0xFF) count.toNat cells rest).map fun (found, rest) =>
            ((cell, some description) :: found, rest)

/-- The description starts with two bytes, the second of which is not that of a marker, and
it is split off from a marker behind it. -/
structure Delimited (split : List UInt8 → Option (List UInt8 × List UInt8))
    (description : List UInt8) : Prop where
  starts : ∃ low high rest, description = low :: high :: rest ∧ high ≠ 0xFF
  ends (count : UInt8) (rest : List UInt8) :
    split (description ++ (marker count ++ rest)) = some (description, marker count ++ rest)

section Reading

variable {split : List UInt8 → Option (List UInt8 × List UInt8)}

@[simp] theorem readMarker_marker (count : UInt8) (rest : List UInt8) :
    readMarker (marker count ++ rest) = some (count, rest) := rfl

theorem Delimited.readMarker_append {description : List UInt8}
    (delimited : Delimited split description) (rest : List UInt8) :
    readMarker (description ++ rest) = none := by
  obtain ⟨low, high, behind, rfl, noMarker⟩ := delimited.starts
  exact if_neg noMarker

variable {bytes rest : List UInt8} {found : List (κ × Option (List UInt8))}

theorem read_pending (fresh : Bool) (pending : Nat) (cell : κ) (cells : List κ)
    (reads : read split fresh pending cells bytes = some (found, rest)) :
    read split fresh (pending + 1) (cell :: cells) bytes = some ((cell, none) :: found, rest) := by
  rw [read, reads, Option.map_some]

/-- A marker that no description goes before: its own cell is empty, and so are as many as
it says. -/
theorem read_marker {cell : κ} {cells : List κ} {count : UInt8}
    (reads : read split (count == 0xFF) count.toNat cells bytes = some (found, rest)) :
    read split true 0 (cell :: cells) (marker count ++ bytes) =
      some ((cell, none) :: found, rest) := by
  rw [read, if_pos rfl, readMarker_marker]
  simp only [reads, Option.map_some]

theorem read_description {description : List UInt8} (delimited : Delimited split description)
    (fresh : Bool) {cell : κ} {cells : List κ} {count : UInt8}
    (reads : read split (count == 0xFF) count.toNat cells bytes = some (found, rest)) :
    read split fresh 0 (cell :: cells) (description ++ (marker count ++ bytes)) =
      some ((cell, some description) :: found, rest) := by
  have noMarker : (if fresh then readMarker (description ++ (marker count ++ bytes)) else none) =
      none := by
    rw [delimited.readMarker_append, ite_self]
  rw [read, noMarker]
  simp only [delimited.ends, readMarker_marker, reads, Option.map_some]

end Reading

/-! ## What is written is read -/

theorem closing_nat {skip : Nat} (short : skip < 256) :
    closing (skip : Int) = marker (UInt8.ofNat skip) := by
  have same : ((skip : Int) % 2 ^ 8).toNat = skip := by omega
  rw [closing, if_pos (Int.natCast_nonneg skip), UInt8.ofInt, same]

variable {split : List UInt8 → Option (List UInt8 × List UInt8)}

/-- In a run the next thing that is written is its marker. -/
theorem write_starts (cells : List (κ × Option (List UInt8)))
    (delimited : ∀ cell ∈ cells, ∀ description, cell.2 = some description →
      Delimited split description) :
    (∀ skip < 255, ∃ count rest, write (skip : Nat) (cells.map (·.2)) = marker count ++ rest ∧
        skip ≤ count.toNat ∧
        read split (count == 0xFF) (count.toNat - skip) (cells.map (·.1)) rest =
          some (cells, [])) ∧
      read split true 0 (cells.map (·.1)) (write (-1) (cells.map (·.2))) = some (cells, []) := by
  induction cells with
  | nil =>
    refine ⟨fun skip short => ⟨UInt8.ofNat skip, [], closing_nat (by omega), ?_, ?_⟩, rfl⟩
    · exact Nat.le_of_eq (UInt8.toNat_ofNat_of_lt' (by change skip < 256; omega)).symm
    · rw [UInt8.toNat_ofNat_of_lt' (by change skip < 256; omega), Nat.sub_self]
      rfl
  | cons cell cells ih =>
    obtain ⟨inRun, fresh⟩ := ih fun other member => delimited other (List.mem_cons_of_mem _ member)
    obtain ⟨place, none | description⟩ := cell
    · constructor
      · intro skip short
        by_cases full : skip = 0xFE
        · subst full
          exact ⟨0xFF, write (-1) (cells.map (·.2)), rfl, by decide,
            read_pending true 0 place _ fresh⟩
        · obtain ⟨count, rest, written, longer, reads⟩ := inRun (skip + 1) (by omega)
          have pending : count.toNat - skip = count.toNat - (skip + 1) + 1 := by omega
          refine ⟨count, rest, ?_, by omega, ?_⟩
          · rw [List.map_cons, write, if_neg (by omega)]
            exact written
          · rw [pending]
            exact read_pending _ _ place _ reads
      · obtain ⟨count, rest, written, -, reads⟩ := inRun 0 (by decide)
        have first : write (-1) (((place, none) :: cells).map (·.2)) = marker count ++ rest :=
          written
        rw [first]
        exact read_marker reads
    · have ends := delimited _ List.mem_cons_self description rfl
      obtain ⟨count, rest, written, -, reads⟩ := inRun 0 (by decide)
      have behind (fresh : Bool) : read split fresh 0 (((place, some description) ::
          cells).map (·.1)) (description ++ write 0 (cells.map (·.2))) =
            some ((place, some description) :: cells, []) := by
        have written : write 0 (cells.map (·.2)) = marker count ++ rest := written
        rw [written]
        exact read_description ends fresh reads
      refine ⟨fun skip short =>
        ⟨UInt8.ofNat skip, description ++ write 0 (cells.map (·.2)), ?_, ?_, ?_⟩, ?_⟩
      · rw [List.map_cons, write, closing_nat (by omega), List.append_assoc]
      · exact Nat.le_of_eq (UInt8.toNat_ofNat_of_lt' (by change skip < 256; omega)).symm
      · rw [UInt8.toNat_ofNat_of_lt' (by change skip < 256; omega), Nat.sub_self]
        exact behind _
      · exact behind true

/-- **What is written for the cells is read back**, to its end. -/
theorem read_write (cells : List (κ × Option (List UInt8)))
    (delimited : ∀ cell ∈ cells, ∀ description, cell.2 = some description →
      Delimited split description) :
    read split true 0 (cells.map (·.1)) (write (-1) (cells.map (·.2))) = some (cells, []) :=
  (write_starts cells delimited).2

theorem length_of_readMarker {bytes rest : List UInt8} {count : UInt8}
    (isMarker : readMarker bytes = some (count, rest)) : rest.length + 2 = bytes.length := by
  match bytes, isMarker with
  | first :: second :: bytes, isMarker =>
    rw [readMarker] at isMarker
    split_ifs at isMarker
    cases isMarker
    rfl

theorem length_of_read
    (shorter : ∀ bytes description rest, split bytes = some (description, rest) →
      rest.length ≤ bytes.length) (fresh : Bool) (pending : Nat) (cells : List κ)
    {bytes rest : List UInt8} {found : List (κ × Option (List UInt8))}
    (reads : read split fresh pending cells bytes = some (found, rest)) :
    2 * found.countP (fun cell => cell.2.isSome) + rest.length ≤ bytes.length := by
  induction fresh, pending, cells, bytes using read.induct split generalizing found rest with
  | case1 fresh bytes =>
    cases reads
    exact Nat.le_of_eq (Nat.zero_add _)
  | case2 => cases reads
  | case3 fresh pending cell cells bytes ih =>
    rw [read, Option.map_eq_some_iff] at reads
    obtain ⟨_, reads, same⟩ := reads
    cases same
    have fewer := ih reads
    rwa [List.countP_cons_of_neg (by exact Bool.false_ne_true)]
  | case4 fresh cell cells bytes count behind isMarker ih =>
    rw [read, isMarker] at reads
    simp only [Option.map_eq_some_iff] at reads
    obtain ⟨_, reads, same⟩ := reads
    cases same
    have fewer := ih reads
    have shorter := length_of_readMarker (by split_ifs at isMarker; exact isMarker)
    rw [List.countP_cons_of_neg (by exact Bool.false_ne_true)]
    omega
  | case5 fresh cell cells bytes noMarker noDescription =>
    rw [read, noMarker, noDescription] at reads
    cases reads
  | case6 fresh cell cells bytes noMarker description behind isDescription noMarkerBehind =>
    rw [read, noMarker, isDescription] at reads
    simp only [noMarkerBehind, reduceCtorEq] at reads
  | case7 fresh cell cells bytes noMarker description behind isDescription count rest isMarker ih =>
    rw [read, noMarker, isDescription] at reads
    simp only [isMarker, Option.map_eq_some_iff] at reads
    obtain ⟨_, reads, same⟩ := reads
    cases same
    have fewer := ih reads
    have markerLength := length_of_readMarker isMarker
    have notLonger := shorter _ _ _ isDescription
    rw [List.countP_cons_of_pos (by rfl)]
    omega

end Otserv.Foundation.SkipRuns
