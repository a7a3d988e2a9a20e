import Otserv.Foundation.Tallies
import Otserv.Pathfinding.Rounds

/-!
# Rounds are complete

When `runTask` returns, every thread should have finished the task of the round, once, and every
creature have been handed to `goToFollowCreature` once; and the caller and all the threads should
never wait together (`Complete`).

The condition variable tells nobody what has happened: a thread that is not yet waiting when
`runTask` notifies is not woken, and one that wakes up by itself takes a task that it has run
already, or returns from `runTask` (`rounds_complete`).
-/

namespace Otserv.Pathfinding

open Foundation
open Function (update forall_update_iff)

variable {n : Nat} {Creature : Type} (place : Place Creature)

/-- From the task taken until the thread counts itself. -/
def Place.inTask : Bool :=
  match place with
  | .starting | .inside | .handling _ | .done => true
  | .top | .waiting | .woken | .notifying | .crashed => false

/-- Before the end of the loop. -/
def Place.inLoop : Bool :=
  match place with
  | .starting | .inside | .handling _ => true
  | .top | .waiting | .woken | .done | .notifying | .crashed => false

/-- The thread has run the task of the round and counted itself. -/
def Worker.Finished (worker : Worker Creature) : Prop :=
  worker.runs ≠ 0 ∧ worker.place.inTask = false

instance : DecidablePred (@Worker.Finished Creature) := fun worker =>
  inferInstanceAs (Decidable (worker.runs ≠ 0 ∧ worker.place.inTask = false))

/-- The round is complete when `runTask` returns; no thread runs its task twice or calls an empty
one; and the caller and the threads do not all wait. -/
structure Complete (op : PoolOp n Creature) (after : Pool n Creature) : Prop where
  once : ∀ worker, (after.workers worker).runs ≤ 1
  notCrashed : ∀ worker, (after.workers worker).place ≠ .crashed
  alive : ¬(after.caller = .waiting ∧ ∀ worker, (after.workers worker).place = .waiting)
  finished : op = .return_ → ∀ worker, (after.workers worker).Finished
  handed : op = .return_ → after.handed.Nodup ∧
    ∀ creature, creature ∈ after.handed ↔ creature ∈ after.round

/-- `runTask` is called while every thread waits or has been woken; a thread that has run the
task does not get the lock back from its wait before the task is cleared, and neither does the
caller. -/
def Timely (pool : Pool n Creature) : PoolOp n Creature → Prop
  | .runTask _ => ∀ worker, (pool.workers worker).place = .waiting ∨
      (pool.workers worker).place = .woken
  | .resume worker => pool.task = true → (pool.workers worker).runs = 0
  | .return_ => pool.task = false
  | .wait _ | .wake _ | .call _ | .take _ | .goTo _ _ | .finish _ | .notify _ | .wakeCaller => True

/-! ## The invariant -/

/-- What holds of each thread. -/
structure Worker.Fits (worker : Worker Creature) (task : Bool) (remaining : List Creature) :
    Prop where
  once : worker.runs ≤ 1
  running : worker.place.inTask = true → worker.runs = 1 ∧ task = true
  notCrashed : worker.place ≠ .crashed
  /-- A thread that has not run the task yet has been woken for it. -/
  pending : task = true → worker.runs = 0 → worker.place = .woken
  exhausted : worker.runs ≠ 0 → worker.place.inLoop = false → remaining = []

structure Pool.Invariant [DecidableEq Creature] (pool : Pool n Creature) : Prop where
  fits : ∀ worker, (pool.workers worker).Fits pool.task pool.remaining
  ready : pool.task = true → pool.ready = tally Worker.Finished pool.workers ∧ pool.ready < n
  ended : pool.task = false → pool.caller ≠ .outside → ∀ worker, (pool.workers worker).Finished
  outside : pool.caller = .outside → pool.task = false
  /-- The caller will be woken. -/
  wakes : pool.caller = .waiting → pool.task = false →
    ∃ worker, (pool.workers worker).place = .notifying
  nodup : pool.round.Nodup
  creatures : ∀ creature, pool.handed.count creature +
    tally (fun worker => worker.place = .handling creature) pool.workers +
      pool.remaining.count creature = pool.round.count creature

namespace Pool.Invariant

variable [DecidableEq Creature] {pool : Pool n Creature}

section

variable (invariant : pool.Invariant)
include invariant

theorem alive : ¬(pool.caller = .waiting ∧ ∀ worker, (pool.workers worker).place = .waiting) := by
  rintro ⟨callerWaits, allWait⟩
  cases task : pool.task with
  | false =>
    obtain ⟨worker, notifies⟩ := invariant.wakes callerWaits task
    rw [allWait worker] at notifies
    cases notifies
  | true =>
    have allFinished : ∀ worker, (pool.workers worker).Finished := by
      intro worker
      refine ⟨fun notYet => ?_, by rw [allWait worker]; rfl⟩
      have woken := (invariant.fits worker).pending task notYet
      rw [allWait worker] at woken
      cases woken
    obtain ⟨isReady, below⟩ := invariant.ready task
    rw [tally_eq_card_iff.mpr allFinished, Fintype.card_fin] at isReady
    omega

variable {worker : Fin n} {place : Place Creature}

/-- A thread goes from one place to another, and nothing else changes. -/
theorem setPlace (inTask : place.inTask = (pool.workers worker).place.inTask)
    (inLoop : place.inLoop = (pool.workers worker).place.inLoop) (notCrashed : place ≠ .crashed)
    (pending : pool.task = true → (pool.workers worker).runs = 0 → place = .woken)
    (handling : ∀ creature, place = .handling creature ↔
      (pool.workers worker).place = .handling creature)
    (notifying : (pool.workers worker).place = .notifying → pool.caller ≠ .waiting) :
    (pool.setPlace worker place).Invariant where
  fits := by
    have fits := invariant.fits worker
    refine (forall_update_iff pool.workers
      fun _ worker => worker.Fits pool.task pool.remaining).mpr ⟨?_, fun other _ =>
        invariant.fits other⟩
    exact ⟨fits.once, inTask ▸ fits.running, notCrashed, pending, inLoop ▸ fits.exhausted⟩
  ready := by
    intro task
    obtain ⟨isReady, below⟩ := invariant.ready task
    have same : ({ pool.workers worker with place := place } : Worker Creature).Finished ↔
        (pool.workers worker).Finished := by
      rw [Worker.Finished, Worker.Finished, inTask]
    exact ⟨isReady.trans (tally_update_of_iff same).symm, below⟩
  ended := by
    intro noTask inside
    refine (forall_update_iff pool.workers
      fun _ worker => worker.Finished).mpr ⟨?_, fun other _ =>
        invariant.ended noTask inside other⟩
    have finished := invariant.ended noTask inside worker
    exact ⟨finished.1, inTask.trans finished.2⟩
  outside := invariant.outside
  wakes := by
    intro callerWaits noTask
    obtain ⟨notifier, notifies⟩ := invariant.wakes callerWaits noTask
    have apart : notifier ≠ worker := fun same => notifying (same ▸ notifies) callerWaits
    refine ⟨notifier, ?_⟩
    show (update pool.workers worker _ notifier).place = .notifying
    rw [Function.update_of_ne apart]
    exact notifies
  nodup := invariant.nodup
  creatures := by
    intro creature
    refine .trans ?_ (invariant.creatures creature)
    refine congrArg (fun held => pool.handed.count creature + held +
      pool.remaining.count creature) ?_
    exact tally_update_of_iff (handling creature)

theorem not_pending (notWoken : (pool.workers worker).place ≠ .woken) (task : pool.task = true) :
    (pool.workers worker).runs ≠ 0 :=
  fun notYet => notWoken ((invariant.fits worker).pending task notYet)

theorem wait
    (atTop : (pool.workers worker).place = .top) : (pool.setPlace worker .waiting).Invariant := by
  refine invariant.setPlace (by rw [atTop]; rfl) (by rw [atTop]; rfl) nofun ?_ ?_ ?_
  · exact fun task notYet => absurd notYet (invariant.not_pending (by rw [atTop]; exact nofun) task)
  · rw [atTop]
    exact fun _ => iff_of_false nofun nofun
  · rw [atTop]
    exact nofun

theorem wake (waits : (pool.workers worker).place = .waiting) :
    (pool.setPlace worker .woken).Invariant := by
  refine invariant.setPlace (by rw [waits]; rfl) (by rw [waits]; rfl) nofun (fun _ _ => rfl) ?_ ?_
  · rw [waits]
    exact fun _ => iff_of_false nofun nofun
  · rw [waits]
    exact nofun

theorem call (starts : (pool.workers worker).place = .starting) : (pool.call worker).Invariant := by
  have task := ((invariant.fits worker).running (by rw [starts]; rfl)).2
  rw [Pool.call, task, if_pos rfl]
  refine invariant.setPlace (by rw [starts]; rfl) (by rw [starts]; rfl) nofun ?_ ?_ ?_
  · exact fun task notYet =>
      absurd notYet (invariant.not_pending (by rw [starts]; exact nofun) task)
  · rw [starts]
    exact fun _ => iff_of_false nofun nofun
  · rw [starts]
    exact nofun

/-- **A thread takes the task** that it has not run yet. -/
theorem resume (woken : (pool.workers worker).place = .woken)
    (timely : pool.task = true → (pool.workers worker).runs = 0) :
    (pool.resume worker).Invariant := by
  unfold Pool.resume
  by_cases task : pool.task = true
  · rw [if_pos task]
    have notYet := timely task
    have notFinished : ¬(pool.workers worker).Finished := fun finished => finished.1 notYet
    constructor
    · refine (forall_update_iff pool.workers
        fun _ worker => worker.Fits pool.task pool.remaining).mpr ⟨?_, fun other _ =>
          invariant.fits other⟩
      rw [notYet]
      exact ⟨Nat.le_refl _, fun _ => ⟨rfl, task⟩, nofun, nofun, nofun⟩
    · intro task
      obtain ⟨isReady, below⟩ := invariant.ready task
      refine ⟨isReady.trans (tally_update_of_iff ?_).symm, below⟩
      exact iff_of_false (fun finished => nomatch finished.2) notFinished
    · intro noTask
      exact absurd (task.symm.trans noTask) (by decide)
    · exact fun out => absurd (task.symm.trans (invariant.outside out)) (by decide)
    · intro _ noTask
      exact absurd (task.symm.trans noTask) (by decide)
    · exact invariant.nodup
    · intro creature
      refine .trans ?_ (invariant.creatures creature)
      refine congrArg (fun held => pool.handed.count creature + held +
        pool.remaining.count creature) (tally_update_of_iff ?_)
      rw [woken]
      exact iff_of_false nofun nofun
  · rw [if_neg task]
    refine invariant.setPlace (by rw [woken]; rfl) (by rw [woken]; rfl) nofun ?_ ?_ ?_
    · exact fun isTask => absurd isTask task
    · rw [woken]
      exact fun _ => iff_of_false nofun nofun
    · rw [woken]
      exact nofun

theorem inLoop (inTask : (pool.workers worker).place.inTask = true) :
    pool.task = true ∧ (pool.workers worker).runs = 1 ∧ pool.caller ≠ .outside := by
  have running := (invariant.fits worker).running inTask
  refine ⟨running.2, running.1, fun out => ?_⟩
  exact absurd (running.2.symm.trans (invariant.outside out)) (by decide)

theorem setInTask
    {remaining handed : List Creature} (before : (pool.workers worker).place.inTask = true)
    (after : place.inTask = true) (exhausted : place.inLoop = false → remaining = [])
    (others : pool.remaining = [] → remaining = []) (creatures : ∀ creature, handed.count creature +
      tally (fun worker => worker.place = .handling creature)
        (update pool.workers worker { pool.workers worker with place := place }) +
      remaining.count creature = pool.round.count creature) :
    ({ pool with remaining := remaining, handed := handed }.setPlace worker place).Invariant where
  fits := by
    obtain ⟨task, runs, -⟩ := invariant.inLoop before
    refine (forall_update_iff pool.workers
      fun _ worker => worker.Fits pool.task remaining).mpr ⟨?_, fun other _ => ?_⟩
    · refine ⟨Nat.le_of_eq runs, fun _ => ⟨runs, task⟩, fun crashed => ?_, fun _ none => ?_,
        fun _ => exhausted⟩
      · rw [show place = .crashed from crashed] at after
        cases after
      · exact absurd (runs.symm.trans none) (by decide)
    · have fits := invariant.fits other
      exact { fits with exhausted := fun ran out => others (fits.exhausted ran out) }
  ready := by
    intro task
    obtain ⟨isReady, below⟩ := invariant.ready task
    refine ⟨isReady.trans (tally_update_of_iff ?_).symm, below⟩
    exact iff_of_false (fun finished => Bool.noConfusion (after.symm.trans finished.2))
      fun finished => Bool.noConfusion (before.symm.trans finished.2)
  ended := by
    intro noTask
    exact absurd ((invariant.inLoop before).1.symm.trans noTask) (by decide)
  outside := invariant.outside
  wakes := by
    intro _ noTask
    exact absurd ((invariant.inLoop before).1.symm.trans noTask) (by decide)
  nodup := invariant.nodup
  creatures := creatures

theorem take (inside : (pool.workers worker).place = .inside) : (pool.take worker).Invariant := by
  have inTask : (pool.workers worker).place.inTask = true := by
    rw [inside]
    rfl
  unfold Pool.take
  cases left : pool.remaining with
  | nil =>
    have same : pool = { pool with remaining := [], handed := pool.handed } := by
      rw [← left]
    refine same ▸ invariant.setInTask inTask rfl (fun _ => rfl) (fun _ => rfl) fun creature => ?_
    refine .trans ?_ (invariant.creatures creature)
    rw [left]
    refine congrArg (fun held => pool.handed.count creature + held +
      ([] : List Creature).count creature) (tally_update_of_iff ?_)
    rw [inside]
    exact iff_of_false nofun nofun
  | cons creature rest =>
    refine invariant.setInTask inTask rfl nofun (fun none => ?_) fun other => ?_
    · rw [left] at none
      cases none
    · refine .trans ?_ (invariant.creatures other)
      rw [left]
      by_cases same : creature = other
      · rw [tally_update_of_gain (by rw [inside]; exact nofun) (by rw [same]), same,
          List.count_cons_self]
        omega
      · rw [List.count_cons_of_ne same, tally_update_of_iff]
        rw [inside]
        exact iff_of_false (fun isSame => same (Place.handling.inj isSame)) nofun

theorem goTo {creature : Creature} (handles : (pool.workers worker).place = .handling creature) :
    (pool.goTo worker creature).Invariant := by
  have inTask : (pool.workers worker).place.inTask = true := by
    rw [handles]
    rfl
  refine invariant.setInTask inTask rfl nofun id fun other => ?_
  refine .trans ?_ (invariant.creatures other)
  by_cases same : creature = other
  · have loss := @tally_update_of_loss _ _ _ (fun worker : Worker Creature =>
      worker.place = .handling other) _ pool.workers _ worker
      { pool.workers worker with place := .inside } (by rw [handles, same]) nofun
    rw [same, List.count_cons_self]
    omega
  · rw [List.count_cons_of_ne same, tally_update_of_iff]
    rw [handles]
    exact iff_of_false nofun fun isSame => same (Place.handling.inj isSame)

/-- While a thread finishes the task, nobody takes more creatures. -/
theorem exhausted (isDone : (pool.workers worker).place = .done) : pool.remaining = [] := by
  have inTask : (pool.workers worker).place.inTask = true := by
    rw [isDone]
    rfl
  have runs := (invariant.inLoop inTask).2.1
  refine (invariant.fits worker).exhausted ?_ (by rw [isDone]; rfl)
  rw [runs]
  exact one_ne_zero

/-- **A thread counts itself**; the last one clears the task. -/
theorem finish (isDone : (pool.workers worker).place = .done) : (pool.finish worker).Invariant := by
  have inTask : (pool.workers worker).place.inTask = true := by
    rw [isDone]
    rfl
  obtain ⟨task, runs, inside⟩ := invariant.inLoop inTask
  have left := invariant.exhausted isDone
  obtain ⟨isReady, below⟩ := invariant.ready task
  have notFinished : ¬(pool.workers worker).Finished := by
    intro finished
    rw [Worker.Finished, isDone] at finished
    exact nomatch finished.2
  have ran : (pool.workers worker).runs ≠ 0 := by
    rw [runs]
    exact one_ne_zero
  have creatures : ∀ (place : Place Creature) (creature : Creature), place.inLoop = false →
      tally (fun worker => worker.place = .handling creature) (update pool.workers worker
        { pool.workers worker with place := place }) =
      tally (fun worker => worker.place = .handling creature) pool.workers := by
    intro place creature behind
    refine tally_update_of_iff (iff_of_false (fun handles => ?_) (by rw [isDone]; exact nofun))
    rw [show place = .handling creature from handles] at behind
    cases behind
  have counted : ∀ place : Place Creature, place.inTask = false →
      tally Worker.Finished (update pool.workers worker
        { pool.workers worker with place := place }) = pool.ready + 1 := by
    intro place behind
    rw [isReady]
    exact tally_update_of_gain notFinished ⟨ran, behind⟩
  unfold Pool.finish
  by_cases last : pool.ready + 1 = n
  · rw [if_pos last]
    have allFinished : ∀ other, (update pool.workers worker
        { pool.workers worker with place := .notifying } other).Finished := by
      refine tally_eq_card_iff.mp ((counted .notifying rfl).trans ?_)
      rw [last, Fintype.card_fin]
    have others : ∀ other, (update pool.workers worker
        { pool.workers worker with place := .notifying } other).runs ≤ 1 ∧
        (update pool.workers worker
          { pool.workers worker with place := .notifying } other).place ≠ .crashed := by
      refine (forall_update_iff pool.workers
        fun _ worker => worker.runs ≤ 1 ∧ worker.place ≠ .crashed).mpr ⟨?_, fun other _ => ?_⟩
      · exact ⟨Nat.le_of_eq runs, nofun⟩
      · exact ⟨(invariant.fits other).once, (invariant.fits other).notCrashed⟩
    constructor
    · intro other
      refine ⟨(others other).1, fun isIn => ?_, (others other).2, nofun, fun _ _ => left⟩
      exact absurd (isIn.symm.trans (allFinished other).2) (by decide)
    · exact nofun
    · exact fun _ _ => allFinished
    · exact fun _ => rfl
    · intro _ _
      refine ⟨worker, ?_⟩
      show (update pool.workers worker _ worker).place = .notifying
      rw [Function.update_self]
    · exact invariant.nodup
    · intro creature
      refine .trans ?_ (invariant.creatures creature)
      exact congrArg (fun held => pool.handed.count creature + held +
        pool.remaining.count creature) (creatures _ creature rfl)
  · rw [if_neg last]
    constructor
    · refine (forall_update_iff pool.workers
        fun _ worker => worker.Fits pool.task pool.remaining).mpr ⟨?_, fun other _ =>
          invariant.fits other⟩
      exact ⟨Nat.le_of_eq runs, nofun, nofun, fun _ notYet => absurd notYet ran,
        fun _ _ => left⟩
    · exact fun _ => ⟨(counted .top rfl).symm, Nat.lt_of_le_of_ne below last⟩
    · intro noTask
      exact absurd (task.symm.trans noTask) (by decide)
    · exact invariant.outside
    · intro _ noTask
      exact absurd (task.symm.trans noTask) (by decide)
    · exact invariant.nodup
    · intro creature
      refine .trans ?_ (invariant.creatures creature)
      exact congrArg (fun held => pool.handed.count creature + held +
        pool.remaining.count creature) (creatures _ creature rfl)

end

end Pool.Invariant

/-! ## Notifications -/

namespace Place

variable {place : Place Creature}

theorem inTask_notified : place.notified.inTask = place.inTask := by
  cases place <;> rfl

theorem inLoop_notified : place.notified.inLoop = place.inLoop := by
  cases place <;> rfl

theorem notified_eq_handling_iff {creature : Creature} :
    place.notified = .handling creature ↔ place = .handling creature := by
  cases place with
  | waiting => exact iff_of_false nofun nofun
  | _ => exact .rfl

theorem notified_ne_crashed (notCrashed : place ≠ .crashed) : place.notified ≠ .crashed := by
  cases place with
  | crashed => exact absurd rfl notCrashed
  | _ => exact nofun

theorem inLoop_of_inTask (behind : place.inTask = false) : place.inLoop = false := by
  cases place with
  | starting | inside | handling | done => cases behind
  | _ => rfl

end Place

namespace Pool

variable (pool : Pool n Creature)

theorem notifyAll_not_waiting : pool.notifyAll.caller ≠ .waiting := by
  unfold notifyAll
  by_cases waits : pool.caller = .waiting
  · rw [if_pos waits]
    exact nofun
  · rw [if_neg waits]
    exact waits

theorem notifyAll_outside_iff : pool.notifyAll.caller = .outside ↔ pool.caller = .outside := by
  unfold notifyAll
  by_cases waits : pool.caller = .waiting
  · rw [if_pos waits, waits]
    exact iff_of_false nofun nofun
  · rw [if_neg waits]

end Pool

namespace Pool.Invariant

variable [DecidableEq Creature] {pool : Pool n Creature}

theorem notifyAll (invariant : pool.Invariant) : pool.notifyAll.Invariant where
  fits := by
    intro worker
    have fits := invariant.fits worker
    refine ⟨fits.once, fun isIn => ?_, Place.notified_ne_crashed fits.notCrashed,
      fun task notYet => ?_, fun ran behind => ?_⟩
    · exact fits.running (Place.inTask_notified.symm.trans isIn)
    · exact congrArg Place.notified (fits.pending task notYet)
    · exact fits.exhausted ran (Place.inLoop_notified.symm.trans behind)
  ready := by
    intro task
    obtain ⟨isReady, below⟩ := invariant.ready task
    refine ⟨isReady.trans (tally_congr fun worker => ?_).symm, below⟩
    refine and_congr .rfl ?_
    show (pool.workers worker).place.notified.inTask = false ↔ _
    rw [Place.inTask_notified]
  ended := by
    intro noTask inside worker
    have finished := invariant.ended noTask (fun out =>
      inside (pool.notifyAll_outside_iff.mpr out)) worker
    exact ⟨finished.1, Place.inTask_notified.trans finished.2⟩
  outside := by
    intro out
    exact invariant.outside (pool.notifyAll_outside_iff.mp out)
  wakes := by
    intro waits
    exact absurd waits pool.notifyAll_not_waiting
  nodup := invariant.nodup
  creatures := by
    intro creature
    refine .trans ?_ (invariant.creatures creature)
    exact congrArg (fun held => pool.handed.count creature + held +
      pool.remaining.count creature) (tally_congr fun worker => Place.notified_eq_handling_iff)

theorem notify (invariant : pool.Invariant) {worker : Fin n}
    (notifies : (pool.workers worker).place = .notifying) :
    (pool.notifyAll.setPlace worker .top).Invariant := by
  have still : (pool.notifyAll.workers worker).place = .notifying :=
    congrArg Place.notified notifies
  refine invariant.notifyAll.setPlace (by rw [still]; rfl) (by rw [still]; rfl) nofun ?_ ?_ ?_
  · exact fun task notYet =>
      absurd notYet (invariant.notifyAll.not_pending (by rw [still]; exact nofun) task)
  · rw [still]
    exact fun _ => iff_of_false nofun nofun
  · exact fun _ => pool.notifyAll_not_waiting

/-- **A round begins**, when every thread waits or has been woken. -/
theorem runTask (some : 0 < n) {round : List Creature} (nodup : round.Nodup)
    (timely : ∀ worker, (pool.workers worker).place = .waiting ∨
      (pool.workers worker).place = .woken) : (pool.runTask round).Invariant := by
  have woken : ∀ worker, ((pool.runTask round).workers worker).place = .woken := by
    intro worker
    show (pool.workers worker).place.notified = .woken
    rcases timely worker with waits | isWoken
    · rw [waits]
      rfl
    · rw [isWoken]
      rfl
  constructor
  · intro worker
    refine ⟨Nat.zero_le 1, fun isIn => ?_, by rw [woken worker]; exact nofun,
      fun _ _ => woken worker, fun ran => absurd rfl ran⟩
    rw [woken worker] at isIn
    cases isIn
  · exact fun _ => ⟨(tally_eq_zero_iff.mpr fun worker finished => finished.1 rfl).symm, some⟩
  · exact nofun
  · exact nofun
  · exact nofun
  · exact nodup
  · intro creature
    have none : tally (fun worker : Worker Creature => worker.place = .handling creature)
        (pool.runTask round).workers = 0 := by
      refine tally_eq_zero_iff.mpr fun worker => ?_
      rw [woken worker]
      exact nofun
    show ([] : List Creature).count creature + tally _ (pool.runTask round).workers +
      round.count creature = round.count creature
    rw [none, List.count_nil, Nat.zero_add]

/-- The caller is woken, or is back from `runTask`. -/
theorem setCaller (invariant : pool.Invariant) {caller : Caller} (notWaiting : caller ≠ .waiting)
    (inside : caller ≠ .outside → pool.caller ≠ .outside)
    (outside : caller = .outside → pool.task = false) :
    ({ pool with caller := caller } : Pool n Creature).Invariant :=
  { invariant with
    ended := fun noTask isInside => invariant.ended noTask (inside isInside)
    outside := outside
    wakes := fun waits => absurd waits notWaiting }

/-- **The round is over** when the task is cleared. -/
theorem complete (invariant : pool.Invariant) (some : 0 < n) (woken : pool.caller = .woken)
    (noTask : pool.task = false) :
    (∀ worker, (pool.workers worker).Finished) ∧ pool.handed.Perm pool.round := by
  have finished := invariant.ended noTask (by rw [woken]; exact nofun)
  refine ⟨finished, List.perm_iff_count.mpr fun creature => ?_⟩
  have left : pool.remaining = [] := by
    have finished := finished ⟨0, some⟩
    exact (invariant.fits ⟨0, some⟩).exhausted finished.1 (Place.inLoop_of_inTask finished.2)
  have none : tally (fun worker => worker.place = .handling creature) pool.workers = 0 := by
    refine tally_eq_zero_iff.mpr fun worker handles => ?_
    have behind := (finished worker).2
    rw [handles] at behind
    cases behind
  have creatures := invariant.creatures creature
  rwa [left, none, List.count_nil] at creatures

/-- **A step** that is timely keeps the invariant. -/
theorem step (invariant : pool.Invariant) (some : 0 < n) {op : PoolOp n Creature}
    (legal : (pools n Creature).legal pool op) (timely : Timely pool op) :
    ((pools n Creature).step pool op).Invariant := by
  cases op with
  | wait worker => exact invariant.wait legal
  | wake worker => exact invariant.wake legal
  | resume worker => exact invariant.resume legal timely
  | call worker => exact invariant.call legal
  | take worker => exact invariant.take legal
  | goTo worker creature => exact invariant.goTo legal
  | finish worker => exact invariant.finish legal
  | notify worker => exact invariant.notify legal
  | runTask round => exact .runTask some legal.2 timely
  | wakeCaller =>
    have waits : pool.caller = .waiting := legal
    exact invariant.setCaller nofun (fun _ => by rw [waits]; exact nofun) nofun
  | return_ => exact invariant.setCaller nofun (fun inside => absurd rfl inside) fun _ => timely

theorem complete_step (invariant : pool.Invariant) (some : 0 < n) {op : PoolOp n Creature}
    (legal : (pools n Creature).legal pool op) (timely : Timely pool op) :
    Complete op ((pools n Creature).step pool op) := by
  have after := invariant.step some legal timely
  refine ⟨fun worker => (after.fits worker).once, fun worker => (after.fits worker).notCrashed,
    after.alive, ?_, ?_⟩
  · rintro rfl
    exact (invariant.complete some legal timely).1
  · rintro rfl
    have perm := (invariant.complete some legal timely).2
    exact ⟨perm.nodup_iff.mpr invariant.nodup, fun creature => perm.mem_iff⟩

end Pool.Invariant

/-- **Rounds are complete**, for any number of threads, in every run in which threads wait in time
and none gets the lock back too early from its wait. -/
theorem rounds_complete (some : 0 < n) {ops : List (PoolOp n Creature)}
    (legal : (pools n Creature).Legal {} ops)
    (timely : (pools n Creature).Throughout (fun before op _ => Timely before op) {} ops) :
    (pools n Creature).Throughout (fun _ op after => Complete op after) {} ops := by
  classical
  have initial : ({} : Pool n Creature).Invariant :=
    { fits := fun _ => ⟨Nat.zero_le 1, nofun, nofun, nofun, fun ran => absurd rfl ran⟩
      ready := nofun
      ended := fun _ inside => absurd rfl inside
      outside := fun _ => rfl
      wakes := nofun
      nodup := List.nodup_nil
      creatures := fun creature => by
        have none : tally (fun worker : Worker Creature => worker.place = .handling creature)
            ({} : Pool n Creature).workers = 0 := tally_eq_zero_iff.mpr fun _ => nofun
        rw [none]
        rfl }
  refine .of_invariant (fun before op invariant isLegal isTimely => ?_) initial
    legal timely
  exact ⟨invariant.complete_step some isLegal isTimely, invariant.step some isLegal isTimely⟩

/-- One thread runs a round of one creature. -/
def oneRound : List (PoolOp 1 Nat) :=
  [.wait 0, .runTask [7], .resume 0, .call 0, .take 0, .goTo 0 7, .take 0, .finish 0, .notify 0,
    .return_]

theorem rounds_complete_one :
    (pools 1 Nat).Throughout (fun _ op after => Complete op after) {} oneRound := by
  refine rounds_complete Nat.one_pos ?_ ?_
  · exact ⟨rfl, ⟨rfl, List.nodup_singleton 7⟩, rfl, rfl, rfl, rfl, rfl, rfl, rfl, rfl, trivial⟩
  · refine ⟨trivial, fun worker => ?_, fun _ => rfl, trivial, trivial, trivial, trivial, trivial,
      trivial, rfl, trivial⟩
    rw [Fin.fin_one_eq_zero worker]
    exact .inl rfl

/-- The thread is late for the round, and waits for the caller, who waits for the thread. -/
theorem all_wait :
    ∃ ops, (pools 1 Nat).Legal {} ops ∧
      ¬(pools 1 Nat).Throughout (fun _ op after => Complete op after) {} ops ∧
      ((pools 1 Nat).run {} ops).round = [7] ∧ ((pools 1 Nat).run {} ops).handed = [] := by
  refine ⟨[.runTask [7], .wait 0], ?_, ?_, rfl, rfl⟩
  · exact ⟨⟨rfl, List.nodup_singleton 7⟩, rfl, trivial⟩
  · rintro ⟨-, late, -⟩
    refine late.alive ⟨rfl, fun worker => ?_⟩
    rw [Fin.fin_one_eq_zero worker]
    rfl

end Otserv.Pathfinding
