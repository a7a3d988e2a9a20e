import Mathlib.Combinatorics.Enumerative.DyckWord

/-!
# Reading brackets with a depth

A reader of brackets that keeps how many are open, refuses a step at depth zero and ends
at depth zero (`Closes`) reads one bracket and its content, with nothing after it: what
it reads after a first opening step is a nested Dyck word (`Closes.isNested`).
-/

namespace Otserv.Foundation

open DyckStep

/-- Reading the steps from a depth ends at depth zero, which only the last step reaches. -/
def Closes : Nat → List DyckStep → Prop
  | 0, [] => True
  | 0, _ :: _ => False
  | _ + 1, [] => False
  | depth + 1, U :: steps => Closes (depth + 2) steps
  | depth + 1, D :: steps => Closes depth steps

namespace Closes

variable {steps : List DyckStep} {depth : Nat}

theorem nil_iff : Closes depth [] ↔ depth = 0 := by
  cases depth <;> simp [Closes]

theorem count (closes : Closes depth steps) : steps.count D = steps.count U + depth := by
  induction steps generalizing depth with
  | nil => simp [nil_iff.mp closes]
  | cons step steps ih =>
    cases depth with
    | zero => exact closes.elim
    | succ depth =>
      cases step with
      | U =>
        have rest : steps.count D = steps.count U + (depth + 2) := ih closes
        rw [List.count_cons_of_ne (by decide), List.count_cons_self, rest]
        omega
      | D =>
        have rest : steps.count D = steps.count U + depth := ih closes
        rw [List.count_cons_self, List.count_cons_of_ne (by decide), rest]
        omega

theorem count_take (closes : Closes depth steps) (n : Nat)
    (within : n < steps.length) : (steps.take n).count D < (steps.take n).count U + depth := by
  induction steps generalizing depth n with
  | nil => simp at within
  | cons step steps ih =>
    cases depth with
    | zero => exact closes.elim
    | succ depth =>
      cases n with
      | zero => simp
      | succ n =>
        have isInside : n < steps.length := by simpa using within
        rw [List.take_succ_cons]
        cases step with
        | U =>
          have rest : (steps.take n).count D < (steps.take n).count U + (depth + 2) :=
            ih closes n isInside
          rw [List.count_cons_of_ne (by decide), List.count_cons_self]
          omega
        | D =>
          have rest : (steps.take n).count D < (steps.take n).count U + depth :=
            ih closes n isInside
          rw [List.count_cons_self, List.count_cons_of_ne (by decide)]
          omega

/-- **One bracket and its content.** -/
theorem isNested (closes : Closes 1 steps) :
    ∃ word : DyckWord, word.toList = U :: steps ∧ word.IsNested := by
  have inside : ∀ n < steps.length,
      (steps.take n).count D < (steps.take n).count U + 1 := closes.count_take
  have whole : steps.count D = steps.count U + 1 := closes.count
  refine ⟨⟨U :: steps, ?_, ?_⟩, rfl, ?_, ?_⟩
  · rw [List.count_cons_self, List.count_cons_of_ne (by decide), whole]
  · intro n
    cases n with
    | zero => simp
    | succ n =>
      rw [List.take_succ_cons, List.count_cons_self, List.count_cons_of_ne (by decide)]
      rcases n.lt_or_ge steps.length with within | past
      · exact Nat.le_of_lt (inside n within)
      · rw [List.take_of_length_le past, whole]
  · exact DyckWord.toList_ne_nil.mp (List.cons_ne_nil _ _)
  · intro n positive within
    cases n with
    | zero => omega
    | succ n =>
      have isInside : n < steps.length := by simpa using within
      simp only [List.take_succ_cons, List.count_cons_self]
      exact inside n isInside

end Closes

end Otserv.Foundation
