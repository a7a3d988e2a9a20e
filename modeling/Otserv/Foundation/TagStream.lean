import Mathlib.Data.List.Forall2

/-!
# Streams of tagged fields

A record is a sequence of fields, each a tag and a payload that the tag's reader
knows the end of; a field that has nothing to say is left out. The reader takes
tag after tag until the stream ends or a zero tag closes it, and each field
updates the state or makes the whole reading fail.

When each field is known by what reading it does to a state (`Reads`), reading
all of them one after the other does what the fields do in turn
(`readAll_flatten`).
-/

namespace Otserv.Foundation

variable {State : Type*}
  (readField : UInt8 → State → List UInt8 → Option (State × List UInt8))

/-- Read fields while there are any. A tag is at least one byte, so as much fuel as
there are bytes is enough. -/
def readAll : Nat → State → List UInt8 → Option (State × List UInt8)
  | _, state, [] => some (state, [])
  | 0, _, _ :: _ => none
  | fuel + 1, state, tag :: rest =>
    if tag = 0 then some (state, rest)
    else (readField tag state rest).bind fun (next, left) => readAll fuel next left

/-- The bytes are those of one field, or of none, and reading them takes a state to
`next`, or fails where `next` does. -/
inductive Reads : List UInt8 → (State → Option State) → Prop
  | absent : Reads [] some
  | field {tag : UInt8} {payload : List UInt8} {next : State → Option State}
      (nonzero : tag ≠ 0)
      (reads : ∀ state rest,
        readField tag state (payload ++ rest) = (next state).map fun after => (after, rest)) :
      Reads (tag :: payload) next

/-- One update after the other, as far as none fails. -/
def inTurn : List (State → Option State) → State → Option State
  | [], state => some state
  | next :: nexts, state => (next state).bind (inTurn nexts)

variable {readField}

/-- **Fields in a row.** Reading them all does what they do one after the other, and
leaves no byte over. -/
theorem readAll_flatten {fields : List (List UInt8)} {nexts : List (State → Option State)}
    (reads : List.Forall₂ (Reads readField) fields nexts) :
    ∀ {fuel : Nat} (state : State), fields.flatten.length ≤ fuel →
      readAll readField fuel state fields.flatten =
        (inTurn nexts state).map fun after => (after, []) := by
  -- induction over the fields: an absent one takes no fuel, any other its tag's
  induction reads with
  | nil =>
    intro fuel state _
    simp [readAll, inTurn]
  | @cons field next fields nexts first _ ih =>
    intro fuel state enough
    cases first with
    | absent => exact ih state enough
    | @field tag payload _ nonzero reads =>
      cases fuel with
      | zero => simp at enough
      | succ fuel =>
        have left : fields.flatten.length ≤ fuel := by
          simp only [List.flatten_cons, List.cons_append, List.length_cons,
            List.length_append] at enough
          omega
        rw [List.flatten_cons, List.cons_append, readAll, if_neg nonzero, reads, inTurn]
        cases next state with
        | none => rfl
        | some after => exact ih after left

end Otserv.Foundation
