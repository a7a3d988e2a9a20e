import Otserv.Foundation.Numerals

/-!
# Runs of a system of operations

A system has states and operations. An operation may be made only in a state
where it is legal, and a legal operation has one next state: what chance or the
environment decides is an argument of the operation.

A property of a run is a property of each of its steps, read off the state
before, the operation and the state after (`Throughout`). The induction over the
run is done here once: when an invariant is preserved by the legal steps that
meet a guard, every run whose steps are legal and meet the guard has the
properties the invariant gives (`Throughout.of_invariant`, `run_invariant`), and without a guard
(`run_invariant_of_legal`). Steps that lessen a measure come to an end
(`length_le_of_decreases`).
-/

namespace Otserv.Foundation

/-- A system: which operations are legal in a state, and the state an operation
leads to. -/
structure System (State Op : Type*) where
  legal : State → Op → Prop
  step : State → Op → State

namespace System

variable {State Op : Type*} (system : System State Op) (start : State)

/-- The state a sequence of operations leads to. -/
def run (ops : List Op) : State := ops.foldl system.step start

@[simp] theorem run_nil : system.run start [] = start := rfl

@[simp] theorem run_cons (op : Op) (ops : List Op) :
    system.run start (op :: ops) = system.run (system.step start op) ops := rfl

/-- The property holds of every step of the run: of the state before it, the
operation, and the state after it. -/
def Throughout (property : State → Op → State → Prop) : State → List Op → Prop
  | _, [] => True
  | start, op :: ops =>
    property start op (system.step start op) ∧ Throughout property (system.step start op) ops

/-- Every operation of the run is legal where it is made. -/
abbrev Legal (ops : List Op) : Prop :=
  system.Throughout (fun before op _ => system.legal before op) start ops

instance decidableThroughout (property : State → Op → State → Prop)
    [decide : ∀ before op after, Decidable (property before op after)] :
    ∀ (start : State) (ops : List Op), Decidable (system.Throughout property start ops)
  | _, [] => .isTrue trivial
  | start, op :: ops =>
    have := decidableThroughout property (system.step start op) ops
    inferInstanceAs (Decidable (_ ∧ _))

variable {system}

namespace Throughout

variable {property other : State → Op → State → Prop} {start : State}

@[simp] theorem nil : system.Throughout property start [] := trivial

@[simp] theorem cons_iff {op : Op} {ops : List Op} :
    system.Throughout property start (op :: ops) ↔
      property start op (system.step start op) ∧
        system.Throughout property (system.step start op) ops := Iff.rfl

/-- **The invariant rule.** What the invariant gives at each legal and guarded
step holds throughout every legal and guarded run. -/
theorem of_invariant {invariant : State → Prop} {guard : State → Op → State → Prop}
    (step : ∀ before op, invariant before → system.legal before op →
      guard before op (system.step before op) →
        property before op (system.step before op) ∧ invariant (system.step before op)) :
    ∀ {start : State} {ops : List Op}, invariant start → system.Legal start ops →
      system.Throughout guard start ops → system.Throughout property start ops
  | _, [], _, _, _ => trivial
  | _, op :: _, initial, legal, guarded =>
    have now := step _ op initial legal.1 guarded.1
    ⟨now.1, of_invariant step now.2 legal.2 guarded.2⟩

theorem of_forall (holds : ∀ before op, property before op (system.step before op)) :
    ∀ (start : State) (ops : List Op), system.Throughout property start ops
  | _, [] => trivial
  | _, op :: ops => ⟨holds _ op, of_forall holds _ ops⟩

theorem mono (gives : ∀ before op, property before op (system.step before op) →
      other before op (system.step before op)) :
    ∀ {start : State} {ops : List Op}, system.Throughout property start ops →
      system.Throughout other start ops
  | _, [], _ => trivial
  | _, op :: _, holds => ⟨gives _ op holds.1, mono gives holds.2⟩

/-- **The exact guard.** Where the invariant holds, a step has the property
exactly when it meets the guard, and with the property the invariant goes on:
then a run has the property throughout exactly when it meets the guard. -/
theorem iff_of_invariant {invariant : State → Prop} {guard : State → Op → State → Prop}
    (step : ∀ before op, invariant before → system.legal before op →
      (property before op (system.step before op) ↔ guard before op (system.step before op)) ∧
        (property before op (system.step before op) → invariant (system.step before op))) :
    ∀ {start : State} {ops : List Op}, invariant start → system.Legal start ops →
      (system.Throughout property start ops ↔ system.Throughout guard start ops)
  | _, [], _, _ => .rfl
  | start, op :: ops, initial, legal => by
      obtain ⟨now, onwards⟩ := step start op initial legal.1
      constructor
      · rintro ⟨holds, rest⟩
        exact ⟨now.mp holds, (iff_of_invariant step (onwards holds) legal.2).mp rest⟩
      · rintro ⟨meets, rest⟩
        have holds := now.mpr meets
        exact ⟨holds, (iff_of_invariant step (onwards holds) legal.2).mpr rest⟩

end Throughout

variable {invariant : State → Prop}

theorem run_invariant {guard : State → Op → State → Prop}
    (step : ∀ before op, invariant before → system.legal before op →
      guard before op (system.step before op) → invariant (system.step before op)) :
    ∀ {start : State} {ops : List Op}, invariant start → system.Legal start ops →
      system.Throughout guard start ops → invariant (system.run start ops)
  | _, [], initial, _, _ => initial
  | _, op :: _, initial, legal, guarded =>
    have later := run_invariant step (step _ op initial legal.1 guarded.1) legal.2 guarded.2
    later

theorem run_invariant_of_legal
    (step : ∀ before op, invariant before → system.legal before op →
      invariant (system.step before op)) {start : State} {ops : List Op}
    (initial : invariant start) (legal : system.Legal start ops) :
    invariant (system.run start ops) := by
  have guarded : ∀ before op, invariant before → system.legal before op → True →
      invariant (system.step before op) :=
    fun before op holds allowed _ => step before op holds allowed
  have unguarded : system.Throughout (fun _ _ _ => True) start ops :=
    .mono (fun _ _ _ => trivial) legal
  exact run_invariant guarded initial legal unguarded

theorem length_le_of_decreases {guard : State → Op → State → Prop}
    {measure : State → Nat}
    (step : ∀ before op, invariant before → system.legal before op →
      guard before op (system.step before op) →
        invariant (system.step before op) ∧ measure (system.step before op) < measure before) :
    ∀ {start : State} {ops : List Op}, invariant start → system.Legal start ops →
      system.Throughout guard start ops → ops.length ≤ measure start
  | _, [], _, _, _ => Nat.zero_le _
  | _, op :: _, initial, legal, guarded => by
      obtain ⟨onwards, less⟩ := step _ op initial legal.1 guarded.1
      have later := length_le_of_decreases step onwards legal.2 guarded.2
      rw [List.length_cons]
      omega

end System

end Otserv.Foundation
