import Mathlib.Data.List.Nodup

/-!
# Timers

A timer is started with an action and gets an id that no timer had before. It may be
stopped by its id as long as it has not fired; a timer that has fired stays until its action
is taken. Ids are positive, so that zero may stand for no timer.
-/

namespace Otserv.Foundation

structure Timer (Action : Type*) where
  id : Nat
  action : Action
  fired : Bool := false
deriving DecidableEq

structure Timers (Action : Type*) where
  last : Nat := 0
  running : List (Timer Action) := []
deriving DecidableEq

namespace Timers

variable {Action : Type*}

/-- A timer is started; its id is the last one. -/
def start (action : Action) (timers : Timers Action) : Timers Action where
  last := timers.last + 1
  running := ⟨timers.last + 1, action, false⟩ :: timers.running

/-- A timer is stopped, unless it has fired. -/
def stop (id : Nat) (timers : Timers Action) : Timers Action :=
  { timers with running := timers.running.filter fun timer => timer.id ≠ id ∨ timer.fired }

def fire (id : Nat) (timers : Timers Action) : Timers Action :=
  { timers with
    running := timers.running.map fun timer =>
      if timer.id = id then { timer with fired := true } else timer }

/-- The action of a timer is taken. -/
def take (id : Nat) (timers : Timers Action) : Timers Action :=
  { timers with running := timers.running.filter fun timer => timer.id ≠ id }

section Members

variable {timers : Timers Action} {timer : Timer Action} {id : Nat} {action : Action}

@[simp] theorem mem_start : timer ∈ (timers.start action).running ↔
    timer = ⟨timers.last + 1, action, false⟩ ∨ timer ∈ timers.running := List.mem_cons

@[simp] theorem mem_stop : timer ∈ (timers.stop id).running ↔
    timer ∈ timers.running ∧ (timer.id ≠ id ∨ timer.fired) := by
  simp only [stop, List.mem_filter, decide_eq_true_eq]

@[simp] theorem mem_take : timer ∈ (timers.take id).running ↔
    timer ∈ timers.running ∧ timer.id ≠ id := by
  simp only [take, List.mem_filter, decide_eq_true_eq]

theorem mem_fire : timer ∈ (timers.fire id).running ↔
    ∃ old ∈ timers.running, old.id = timer.id ∧ old.action = timer.action ∧
      timer.fired = (old.fired || decide (old.id = id)) := by
  simp only [fire, List.mem_map]
  constructor
  · rintro ⟨old, member, rfl⟩
    refine ⟨old, member, ?_⟩
    split_ifs with isIt
    · simp [isIt]
    · simp [isIt]
  · rintro ⟨old, member, sameId, sameAction, fired⟩
    refine ⟨old, member, ?_⟩
    obtain ⟨timerId, timerAction, timerFired⟩ := timer
    obtain ⟨oldId, oldAction, oldFired⟩ := old
    subst sameId sameAction fired
    split_ifs with isIt
    · simp only at isIt
      simp [isIt]
    · simp [isIt]

end Members

/-- The ids are positive, differ, and were given already. -/
structure Valid (timers : Timers Action) : Prop where
  nodup : (timers.running.map Timer.id).Nodup
  pos : ∀ timer ∈ timers.running, 0 < timer.id
  le : ∀ timer ∈ timers.running, timer.id ≤ timers.last

namespace Valid

variable {timers : Timers Action} {timer other : Timer Action} {id : Nat}

theorem empty : Valid ({} : Timers Action) :=
  ⟨List.nodup_nil, fun _ member => absurd member List.not_mem_nil,
    fun _ member => absurd member List.not_mem_nil⟩

section

variable (valid : timers.Valid)
include valid

theorem eq_of_id (member : timer ∈ timers.running)
    (otherMember : other ∈ timers.running) (same : timer.id = other.id) : timer = other :=
  List.inj_on_of_nodup_map valid.nodup member otherMember same

theorem start (action : Action) : (timers.start action).Valid where
  nodup := by
    refine List.nodup_cons.mpr ⟨fun member => ?_, valid.nodup⟩
    obtain ⟨old, present, same⟩ := List.mem_map.mp member
    have below : old.id ≤ timers.last := valid.le old present
    rw [same] at below
    exact Nat.not_succ_le_self _ below
  pos := by
    intro timer member
    rcases mem_start.mp member with rfl | old
    · exact Nat.succ_pos _
    · exact valid.pos timer old
  le := by
    intro timer member
    rcases mem_start.mp member with rfl | old
    · exact Nat.le_refl _
    · exact Nat.le_succ_of_le (valid.le timer old)

/-- Some of the timers are gone. -/
theorem filter (stays : Timer Action → Bool) :
    Valid { timers with running := timers.running.filter stays } where
  nodup := valid.nodup.sublist (List.filter_sublist.map _)
  pos := fun timer member => valid.pos timer (List.mem_filter.mp member).1
  le := fun timer member => valid.le timer (List.mem_filter.mp member).1

theorem stop (id : Nat) : (timers.stop id).Valid := valid.filter _

theorem take (id : Nat) : (timers.take id).Valid := valid.filter _

theorem fire (id : Nat) : (timers.fire id).Valid where
  nodup := by
    have same : (timers.fire id).running.map Timer.id = timers.running.map Timer.id := by
      rw [Timers.fire, List.map_map]
      refine List.map_congr_left fun timer _ => ?_
      rw [Function.comp_apply]
      split <;> rfl
    rw [same]
    exact valid.nodup
  pos := by
    intro timer member
    obtain ⟨old, present, same, -⟩ := mem_fire.mp member
    exact same ▸ valid.pos old present
  le := by
    intro timer member
    obtain ⟨old, present, same, -⟩ := mem_fire.mp member
    exact same ▸ valid.le old present

end

end Valid

end Timers

end Otserv.Foundation
