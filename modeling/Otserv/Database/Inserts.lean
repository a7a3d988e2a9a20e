import Otserv.Foundation.Runs

/-!
# Inserts in batches

`DBInsert` collects rows and sends them when the next one would make the query too long for a
packet. What it compares with the limit is a length of its own, in which brackets and commas are
not counted, and the first row of a batch is not either when the batch before it was flushed.
No row is lost, but a query may be too long: the queries keep to the limit exactly when every
row that is added without a flush leaves one that does (`inserts_within_iff`).
-/

namespace Otserv.Database

open Foundation

/-- `DBInsert`, with the queries that were sent. -/
structure DBInsert where
  query : List UInt8
  values : List UInt8 := []
  length : Nat := query.length
  sent : List (List UInt8) := []

/-- A row in brackets. -/
def bracketed (row : List UInt8) : List UInt8 := 40 :: row ++ [41]

namespace DBInsert

variable (succeeds : Bool) (maxPacketSize : Nat) (insert : DBInsert) (row : List UInt8)

def execute : Bool × DBInsert :=
  if insert.values = [] then (true, insert)
  else (succeeds, { insert with
    values := []
    length := insert.query.length
    sent := insert.sent ++ [insert.query ++ insert.values] })

def addRow : Bool × DBInsert :=
  let insert := { insert with length := insert.length + row.length }
  let (ready, insert) :=
    if insert.length > maxPacketSize then insert.execute succeeds else (true, insert)
  if !ready then (false, insert)
  else if insert.values = [] then (true, { insert with values := bracketed row })
  else (true, { insert with values := insert.values ++ 44 :: bracketed row })

end DBInsert

/-- Rows that are added, every query succeeding. -/
def inserts (maxPacketSize : Nat) : System DBInsert (List UInt8) where
  legal _ _ := True
  step insert row := (insert.addRow true maxPacketSize row).2

/-- What stands in a query for its rows. -/
def rowsText : List (List UInt8) → List UInt8
  | [] => []
  | row :: rows => bracketed row ++ rows.flatMap fun row => 44 :: bracketed row

/-- Every row is in one query, in its order, and no query is too long. -/
structure Inserted (query : List UInt8) (maxPacketSize : Nat) (rows sent : List (List UInt8)) :
    Prop where
  rows : ∃ batches : List (List (List UInt8)), batches.flatten = rows ∧ [] ∉ batches ∧
    sent = batches.map fun batch => query ++ rowsText batch
  within : ∀ text ∈ sent, text.length ≤ maxPacketSize

namespace DBInsert

variable {maxPacketSize : Nat} {insert : DBInsert} {row : List UInt8}

/-- A row that is added to others without a flush leaves a query that is within the limit. -/
def HasRoom (maxPacketSize : Nat) (insert : DBInsert) (row : List UInt8) : Prop :=
  insert.length + row.length ≤ maxPacketSize → insert.values ≠ [] →
    insert.query.length + insert.values.length + (row.length + 3) ≤ maxPacketSize

/-- All that is sent if the last batch is executed now. -/
def flushed (insert : DBInsert) : List (List UInt8) := (insert.execute true).2.sent

/-- **What adding a row does**: it starts a batch, with or without a flush of the last one, or
it joins the last one. -/
theorem addRow_cases (maxPacketSize : Nat) (insert : DBInsert) (row : List UInt8) :
    let after := (insert.addRow true maxPacketSize row).2
    after.query = insert.query ∧
      ((insert.values = [] ∨ maxPacketSize < insert.length + row.length) ∧
          after.flushed = insert.flushed ++ [insert.query ++ bracketed row] ∨
        (insert.values ≠ [] ∧ insert.length + row.length ≤ maxPacketSize) ∧
          insert.flushed = insert.sent ++ [insert.query ++ insert.values] ∧
          after.flushed =
            insert.sent ++ [insert.query ++ (insert.values ++ 44 :: bracketed row)]) := by
  obtain ⟨query, values, length, sent⟩ := insert
  have some : bracketed row ≠ [] := List.cons_ne_nil _ _
  by_cases none : values = []
  · simp [addRow, flushed, execute, none, some]
  · by_cases flush : maxPacketSize < length + row.length
    · simp [addRow, flushed, execute, none, some, flush]
    · simp [addRow, flushed, execute, none, flush, Nat.not_lt.mp flush]

theorem within_addRow_iff (alone : insert.query.length + row.length + 2 ≤ maxPacketSize) :
    (∀ text ∈ (insert.addRow true maxPacketSize row).2.flushed, text.length ≤ maxPacketSize) ↔
      (∀ text ∈ insert.flushed, text.length ≤ maxPacketSize) ∧
        HasRoom maxPacketSize insert row := by
  have length : (bracketed row).length = row.length + 2 := by simp [bracketed]
  obtain ⟨-, ⟨starts, after⟩ | ⟨joins, before, after⟩⟩ := addRow_cases maxPacketSize insert row
  · have vacuous : HasRoom maxPacketSize insert row := fun fits some =>
      starts.elim (absurd · some) fun flush => absurd fits (Nat.not_le.mpr flush)
    rw [after, List.forall_mem_append, List.forall_mem_singleton, List.length_append, length,
      and_iff_left (by omega), and_iff_left vacuous]
  · simp only [before, after, List.forall_mem_append, List.forall_mem_singleton,
      List.length_append, List.length_cons, length, and_assoc]
    refine and_congr_right fun _ => ⟨fun short => ⟨by omega, fun _ _ => by omega⟩, ?_⟩
    rintro ⟨-, room⟩
    have room := room joins.2 joins.1
    omega

/-- The rows are in the queries, in their order. -/
def Holds (insert : DBInsert) (rows : List (List UInt8)) : Prop :=
  ∃ batches : List (List (List UInt8)), batches.flatten = rows ∧ [] ∉ batches ∧
    insert.flushed = batches.map fun batch => insert.query ++ rowsText batch

theorem Holds.addRow {rows : List (List UInt8)} (holds : insert.Holds rows)
    (maxPacketSize : Nat) (row : List UInt8) :
    (insert.addRow true maxPacketSize row).2.Holds (rows ++ [row]) := by
  obtain ⟨batches, rfl, noEmpty, isFlushed⟩ := holds
  obtain ⟨query, ⟨-, after⟩ | ⟨joins, before, after⟩⟩ := addRow_cases maxPacketSize insert row
  · refine ⟨batches ++ [[row]], by simp, by simp [noEmpty], ?_⟩
    rw [after, query, isFlushed]
    simp [rowsText]
  · -- the last batch has a first row, which the new one comes after
    rw [before] at isFlushed
    obtain ⟨earlier, last, rfl, isSent, isLast⟩ := List.map_eq_append_iff.mp isFlushed.symm
    obtain ⟨batch, rfl, isValues⟩ := List.map_eq_singleton_iff.mp isLast
    have isValues := List.append_cancel_left isValues
    cases batch with
    | nil => exact absurd (isValues.symm.trans rfl) joins.1
    | cons first others =>
      refine ⟨earlier ++ [first :: others ++ [row]], by simp, ?_, ?_⟩
      · simp only [List.mem_append, not_or] at noEmpty
        simp [noEmpty.1]
      · rw [after, query, List.map_append, isSent, ← isValues]
        simp [rowsText]

end DBInsert

/-- **The queries keep to the limit exactly when every row that joins others leaves room.** -/
theorem inserts_within_iff {query : List UInt8} {maxPacketSize : Nat} {rows : List (List UInt8)}
    (alone : ∀ row ∈ rows, query.length + row.length + 2 ≤ maxPacketSize) :
    Inserted query maxPacketSize rows
        (((inserts maxPacketSize).run { query := query } rows).execute true).2.sent ↔
      (inserts maxPacketSize).Throughout (fun before row _ => before.HasRoom maxPacketSize row)
        { query := query } rows := by
  have run (before more : List (List UInt8)) (insert : DBInsert) (isQuery : insert.query = query)
      (holds : insert.Holds before)
      (alone : ∀ row ∈ more, query.length + row.length + 2 ≤ maxPacketSize) :
      (∃ batches : List (List (List UInt8)), batches.flatten = before ++ more ∧ [] ∉ batches ∧
        ((inserts maxPacketSize).run insert more).flushed =
          batches.map fun batch => query ++ rowsText batch) ∧
      ((∀ text ∈ ((inserts maxPacketSize).run insert more).flushed,
          text.length ≤ maxPacketSize) ↔
        (∀ text ∈ insert.flushed, text.length ≤ maxPacketSize) ∧
          (inserts maxPacketSize).Throughout
            (fun before row _ => before.HasRoom maxPacketSize row) insert more) := by
    induction more generalizing before insert with
    | nil =>
      rw [List.append_nil, ← isQuery]
      exact ⟨holds, (and_iff_left trivial).symm⟩
    | cons row more ih =>
      obtain ⟨first, others⟩ := List.forall_mem_cons.mp alone
      have step := @DBInsert.within_addRow_iff _ _ _ (isQuery.symm ▸ first)
      have rest := ih (before ++ [row]) (insert.addRow true maxPacketSize row).2
        ((DBInsert.addRow_cases maxPacketSize insert row).1.trans isQuery)
        (holds.addRow maxPacketSize row) others
      rw [System.run_cons, System.Throughout.cons_iff, ← and_assoc, ← step, List.append_cons]
      exact rest
  obtain ⟨complete, within⟩ := run [] rows { query := query } rfl
    ⟨[], rfl, List.not_mem_nil, rfl⟩ alone
  rw [and_iff_right nofun] at within
  exact ⟨fun inserted => within.mp inserted.within, fun room => ⟨complete, within.mpr room⟩⟩

/-- Two rows of a byte each, and room for both. -/
theorem inserts_within_iff_rows : Inserted [] 7 [[1], [2]]
    (((inserts 7).run { query := [] } [[1], [2]]).execute true).2.sent :=
  (inserts_within_iff (by decide)).mpr
    ⟨fun _ some => absurd rfl some, fun _ _ => by decide, trivial⟩

/-- Without brackets and commas they would fit into six bytes. -/
theorem rows_past_limit : ¬ ∀ (query : List UInt8) (maxPacketSize : Nat) (rows : List (List UInt8)),
    (∀ row ∈ rows, query.length + row.length + 2 ≤ maxPacketSize) →
      Inserted query maxPacketSize rows
        (((inserts maxPacketSize).run { query := query } rows).execute true).2.sent := by
  intro inserted
  have within := (inserted [] 6 [[1], [2]] (by decide)).within
  revert within
  decide

end Otserv.Database
