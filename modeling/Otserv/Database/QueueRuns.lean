import Otserv.Database.TaskQueue

/-!
# Queries in their order

Every query that was accepted should be executed once, in the order of acceptance, and those
that were accepted before a call of `flush` should have been executed when it returns; and the
worker should never be left waiting, neither with queries in the queue nor after `shutdown`
(`Sound`).

No query is ever lost or executed twice. But a thread that has taken a query runs it outside of
the lock: another one may overtake it, and `flush` does not wait for it. And the worker looks at
the thread state before it takes the lock: when `shutdown` comes in between, nobody wakes it
(`queries_sound_iff`).
-/

namespace Otserv.Database

open Foundation
open Function (update update_of_ne update_self)

/-- How many queries had been accepted when the call of `flush` was made that returns here. -/
def DatabaseTasks.returned (queue : DatabaseTasks) : QueueOp → Option Nat
  | .flush _ since => if queue.tasks = [] then some since else none
  | _ => none

/-- What a step should leave. -/
structure Sound (before : DatabaseTasks) (op : QueueOp) (after : DatabaseTasks) : Prop where
  /-- A query is executed, in the hands of a thread or in the queue, and once. -/
  once : (after.executed ++ after.running.map Prod.snd ++ after.tasks).Perm
    (List.range after.accepted)
  inOrder : after.executed = List.range after.executed.length
  flushed : ∀ since, before.returned op = some since →
    ∀ number < since, number ∈ after.executed
  /-- Where queries are left to the worker, it has been or will be woken. -/
  served : after.worker = .waiting → after.tasks ≠ [] → after.signals ≠ 0
  drained : after.flushes .closer = .done → after.tasks = []
  ends : after.flushes .closer = .done → after.worker = .waiting → after.signals ≠ 0

/-- A thread runs the task that was taken first of those still to run; `flush` returns while
nobody has a task that was accepted before its call; and the worker does not come to wait behind
`shutdown`. -/
def InTurn (queue : DatabaseTasks) : QueueOp → Prop
  | .runTask thread _ => queue.running.head?.map Prod.fst = some thread
  | .flush _ since => queue.tasks = [] → ∀ held ∈ queue.running, since ≤ held.2
  | .lock => queue.tasks = [] → queue.flushes .closer = .done → queue.signals ≠ 0
  | .addTask | .notify | .stop | .check | .wake | .resume | .saveGameState | .shutdown
  | .notifyOne => True

/-! ## Numbers in a row -/

section Row

variable {front back : List Nat} {n : Nat}

/-- The front of the first numbers is the first numbers. -/
theorem front_eq_range (row : front ++ back = List.range n) : front = List.range front.length := by
  have short : front.length ≤ n := by
    have length := congrArg List.length row
    rw [List.length_append, List.length_range] at length
    omega
  have taken := congrArg (List.take front.length) row
  rwa [List.take_left, List.take_range, Nat.min_eq_left short] at taken

variable {number : Nat}

theorem next_eq_length (row : front ++ number :: back = List.range n) : number = front.length := by
  have whole : (front ++ [number]) ++ back = List.range n := by
    rw [List.append_assoc]
    exact row
  have front_range := front_eq_range whole
  rw [List.length_append, List.length_singleton, List.range_succ] at front_range
  exact List.singleton_inj.mp (List.append_inj_right front_range (by rw [List.length_range]))

theorem mem_front_iff (row : front ++ back = List.range n) :
    number ∈ front ↔ number < front.length := by
  rw [front_eq_range row, List.mem_range, List.length_range]

theorem mem_back_iff (row : front ++ back = List.range n) :
    number ∈ back ↔ front.length ≤ number ∧ number < n := by
  have nodup : (front ++ back).Nodup := row ▸ List.nodup_range
  have whole : number ∈ front ∨ number ∈ back ↔ number < n := by
    rw [← List.mem_append, row, List.mem_range]
  have apart := List.disjoint_of_nodup_append nodup
  constructor
  · intro inBack
    refine ⟨Nat.le_of_not_lt fun below => ?_, whole.mp (.inr inBack)⟩
    exact apart ((mem_front_iff row).mpr below) inBack
  · rintro ⟨past, below⟩
    rcases whole.mpr below with inFront | inBack
    · exact absurd ((mem_front_iff row).mp inFront) (Nat.not_lt.mpr past)
    · exact inBack

end Row

/-! ## The invariant -/

structure DatabaseTasks.Invariant (queue : DatabaseTasks) : Prop where
  row : queue.executed ++ (queue.running.map Prod.snd ++ queue.tasks) =
    List.range queue.accepted
  /-- A thread has one task at most. -/
  single : (queue.running.map Prod.fst).Nodup
  worker : .worker ∈ queue.running.map Prod.fst → queue.worker = .busy
  caller : ∀ caller, .caller caller ∈ queue.running.map Prod.fst →
    ∃ since, queue.flushes caller = .busy since
  since : ∀ caller since, queue.flushes caller = .flushing since ∨
    queue.flushes caller = .busy since → since ≤ queue.accepted
  served : queue.worker = .waiting → queue.tasks ≠ [] → queue.signals ≠ 0
  closed : queue.flushes .closer ≠ .idle → queue.state = .terminated
  drained : queue.flushes .closer = .notifying ∨ queue.flushes .closer = .done →
    queue.tasks = []
  ends : queue.flushes .closer = .done → queue.worker = .waiting → queue.signals ≠ 0

namespace DatabaseTasks.Invariant

variable {queue : DatabaseTasks}

/-- The invariant of the state after a step gives all but what concerns `flush`. -/
theorem sound {before : DatabaseTasks} {op : QueueOp} (invariant : queue.Invariant)
    (flushed : ∀ since, before.returned op = some since →
      ∀ number < since, number ∈ queue.executed) : Sound before op queue where
  once := by
    rw [List.append_assoc, invariant.row]
  inOrder := front_eq_range invariant.row
  flushed := flushed
  served := invariant.served
  drained := fun done => invariant.drained (.inr done)
  ends := invariant.ends

theorem addTask (invariant : queue.Invariant) : queue.addTask.Invariant := by
  unfold DatabaseTasks.addTask
  by_cases open_ : queue.state = .running
  · rw [if_pos open_]
    have notClosed : queue.flushes .closer = .idle := by
      by_contra closed
      rw [invariant.closed closed] at open_
      cases open_
    constructor
    · have row := congrArg (· ++ [queue.accepted]) invariant.row
      rw [List.range_succ]
      simpa only [List.append_assoc] using row
    · exact invariant.single
    · exact invariant.worker
    · exact invariant.caller
    · exact fun caller since flushing => Nat.le_succ_of_le (invariant.since caller since flushing)
    · intro waits _
      by_cases none : queue.tasks = []
      · rw [if_pos none]
        exact Nat.succ_ne_zero _
      · rw [if_neg none]
        exact invariant.served waits none
    · exact invariant.closed
    · rw [notClosed]
      exact fun closed => closed.elim nofun nofun
    · rw [notClosed]
      exact nofun
  · rw [if_neg open_]
    exact invariant

theorem notifyOne_worker (queue : DatabaseTasks) : queue.notifyOne.worker ≠ .waiting := by
  unfold DatabaseTasks.notifyOne
  by_cases waits : queue.worker = .waiting
  · simp only [if_pos waits]
    exact nofun
  · simp only [if_neg waits]
    exact waits

section

variable (invariant : queue.Invariant)
include invariant

theorem worker_free (notBusy : queue.worker ≠ .busy) : .worker ∉ queue.running.map Prod.fst :=
  fun held => notBusy (invariant.worker held)

theorem setWorker {place : WorkerPlace} {signals : Nat}
    (free : .worker ∉ queue.running.map Prod.fst)
    (served : place = .waiting → queue.tasks ≠ [] → signals ≠ 0)
    (ends : queue.flushes .closer = .done → place = .waiting → signals ≠ 0) :
    ({ queue with worker := place, signals := signals } : DatabaseTasks).Invariant :=
  { invariant with
    worker := fun held => absurd held free
    served := served
    ends := ends }

/-- The worker is woken, if it waits. -/
theorem wakeUp (signals : Nat) :
    ({ queue.notifyOne with signals := signals } : DatabaseTasks).Invariant := by
  unfold DatabaseTasks.notifyOne
  by_cases waits : queue.worker = .waiting
  · simp only [if_pos waits]
    refine invariant.setWorker (invariant.worker_free ?_) nofun fun _ => nofun
    rw [waits]
    exact nofun
  · simp only [if_neg waits]
    exact
      { invariant with
        served := fun waiting => absurd waiting waits
        ends := fun _ waiting => absurd waiting waits }

theorem check (checking : queue.worker = .checking) : queue.check.Invariant := by
  refine invariant.setWorker (invariant.worker_free ?_) (fun waits => ?_) fun _ waits => ?_
  · rw [checking]
    exact nofun
  · split at waits <;> cases waits
  · split at waits <;> cases waits

theorem take {thread : Thread} {number : Nat} {rest : List Nat}
    {place : WorkerPlace} {flushes : Caller → FlushPlace} (inFront : queue.tasks = number :: rest)
    (free : thread ∉ queue.running.map Prod.fst)
    (worker : .worker ∈ queue.running.map Prod.fst ∨ .worker = thread → place = .busy)
    (caller : ∀ caller, .caller caller ∈ queue.running.map Prod.fst ∨ .caller caller = thread →
      ∃ since, flushes caller = .busy since)
    (since : ∀ caller since, flushes caller = .flushing since ∨
      flushes caller = .busy since → since ≤ queue.accepted)
    (waits : place = .waiting → queue.worker = .waiting)
    (closer : flushes .closer = queue.flushes .closer ∨
      queue.flushes .closer ≠ .idle ∧ ∃ since, flushes .closer = .busy since) :
    ({ queue.take thread number rest with worker := place, flushes := flushes } :
      DatabaseTasks).Invariant := by
  have tasks : queue.tasks ≠ [] := by
    rw [inFront]
    exact List.cons_ne_nil _ _
  have keys : (queue.running ++ [(thread, number)]).map Prod.fst =
      queue.running.map Prod.fst ++ [thread] := by
    rw [List.map_append, List.map_singleton]
  -- while there are tasks, `shutdown` is not behind its `flush`
  have notBehind : ¬(flushes .closer = .notifying ∨ flushes .closer = .done) := by
    rcases closer with same | ⟨-, since, busy⟩
    · rw [same]
      exact fun behind => tasks (invariant.drained behind)
    · rw [busy]
      exact fun behind => behind.elim nofun nofun
  constructor
  · refine .trans ?_ invariant.row
    show _ ++ ((queue.running ++ [(thread, number)]).map Prod.snd ++ rest) = _
    rw [List.map_append, List.map_singleton, List.append_assoc, List.singleton_append, inFront]
    rfl
  · show ((queue.running ++ [(thread, number)]).map Prod.fst).Nodup
    rw [keys, List.nodup_append_comm, List.singleton_append, List.nodup_cons]
    exact ⟨free, invariant.single⟩
  · show _ ∈ (queue.running ++ [(thread, number)]).map Prod.fst → _
    rw [keys, List.mem_append, List.mem_singleton]
    exact worker
  · intro of
    show _ ∈ (queue.running ++ [(thread, number)]).map Prod.fst → _
    rw [keys, List.mem_append, List.mem_singleton]
    exact caller of
  · exact since
  · exact fun waiting _ => invariant.served (waits waiting) tasks
  · intro called
    refine invariant.closed ?_
    rcases closer with same | ⟨notIdle, -⟩
    · exact fun idle => called (same.trans idle)
    · exact notIdle
  · exact fun behind => absurd behind notBehind
  · exact fun done => absurd (.inr done) notBehind

theorem takeByWorker {number : Nat} {rest : List Nat}
    (inFront : queue.tasks = number :: rest) (free : .worker ∉ queue.running.map Prod.fst) :
    ({ queue.take .worker number rest with worker := .busy } : DatabaseTasks).Invariant := by
  refine invariant.take inFront free (fun _ => rfl)
    (fun caller held => ?_) invariant.since nofun (.inl rfl)
  rcases held with held | isWorker
  · exact invariant.caller caller held
  · cases isWorker

theorem resume (woken : queue.worker = .woken) : queue.resume.Invariant := by
  have free : .worker ∉ queue.running.map Prod.fst := by
    refine invariant.worker_free ?_
    rw [woken]
    exact nofun
  unfold DatabaseTasks.resume
  split
  next => exact invariant.setWorker free nofun fun _ => nofun
  next left => exact invariant.takeByWorker left free

theorem lock (entering : queue.worker = .entering)
    (inTime : queue.tasks = [] → queue.flushes .closer = .done → queue.signals ≠ 0) :
    queue.lock.Invariant := by
  have free : .worker ∉ queue.running.map Prod.fst := by
    refine invariant.worker_free ?_
    rw [entering]
    exact nofun
  unfold DatabaseTasks.lock
  split
  next left =>
    exact invariant.setWorker free (fun _ some => absurd left some) fun done _ =>
      inTime left done
  next left => exact invariant.takeByWorker left free

variable {caller : Caller}

/-- A call of `flush` goes to a place without a task. -/
theorem setFlush {place : FlushPlace} (free : .caller caller ∉ queue.running.map Prod.fst)
    (since : ∀ since, place = .flushing since ∨ place = .busy since → since ≤ queue.accepted)
    (closed : caller = .closer → place ≠ .idle → queue.state = .terminated)
    (drained : caller = .closer → place = .notifying ∨ place = .done → queue.tasks = [])
    (ends : caller = .closer → place = .done → queue.worker = .waiting → queue.signals ≠ 0) :
    (queue.setFlush caller place).Invariant where
  row := invariant.row
  single := invariant.single
  worker := invariant.worker
  caller := by
    intro other held
    have apart : other ≠ caller := fun same => free (same ▸ held)
    obtain ⟨at_, busy⟩ := invariant.caller other held
    exact ⟨at_, (update_of_ne apart ..).trans busy⟩
  since := by
    refine (Function.forall_update_iff queue.flushes fun _ place =>
      ∀ since, place = .flushing since ∨ place = .busy since → since ≤ queue.accepted).mpr
        ⟨since, fun other _ => invariant.since other⟩
  served := invariant.served
  closed := by
    intro called
    by_cases same : .closer = caller
    · have called : update queue.flushes caller place .closer ≠ .idle := called
      rw [same, update_self] at called
      exact closed same.symm called
    · exact invariant.closed fun idle => called ((update_of_ne same ..).trans idle)
  drained := by
    show update queue.flushes caller place .closer = _ ∨
      update queue.flushes caller place .closer = _ → _
    by_cases same : .closer = caller
    · rw [same, update_self]
      exact drained same.symm
    · rw [update_of_ne same]
      exact invariant.drained
  ends := by
    show update queue.flushes caller place .closer = _ → _
    by_cases same : .closer = caller
    · rw [same, update_self]
      exact ends same.symm
    · rw [update_of_ne same]
      exact invariant.ends

/-- A call that is not outside of the lock has no task. -/
theorem caller_free (notBusy : ∀ since, queue.flushes caller ≠ .busy since) :
    .caller caller ∉ queue.running.map Prod.fst := by
  intro held
  obtain ⟨since, busy⟩ := invariant.caller caller held
  exact notBusy since busy

theorem flush {since : Nat} (flushing : queue.flushes caller = .flushing since) :
    (queue.flush caller since).Invariant := by
  have free : .caller caller ∉ queue.running.map Prod.fst := by
    refine invariant.caller_free fun since => ?_
    rw [flushing]
    exact nofun
  unfold DatabaseTasks.flush
  split
  next left =>
    refine invariant.setFlush free (fun at_ place => ?_) (fun isCloser _ => ?_) (fun _ _ => left)
      fun isCloser done => ?_
    · split at place <;> exact place.elim nofun nofun
    · refine invariant.closed ?_
      rw [← isCloser, flushing]
      exact nofun
    · rw [if_pos isCloser] at done
      cases done
  next left =>
    refine invariant.take left free (fun held => ?_) (fun other held => ?_) (fun other at_ => ?_)
      id ?_
    · rcases held with held | isCaller
      · exact invariant.worker held
      · cases isCaller
    · by_cases same : other = caller
      · exact ⟨since, by rw [same]; exact update_self ..⟩
      · rcases held with held | isCaller
        · obtain ⟨at_, busy⟩ := invariant.caller other held
          exact ⟨at_, (update_of_ne same ..).trans busy⟩
        · exact absurd (Thread.caller.inj isCaller) same
    · by_cases same : other = caller
      · rw [same]
        rw [update_self]
        rintro (isFlushing | isBusy)
        · cases isFlushing
        · exact FlushPlace.busy.inj isBusy ▸ invariant.since caller since (.inl flushing)
      · rw [update_of_ne same]
        exact invariant.since other at_
    · by_cases same : .closer = caller
      · refine .inr ⟨?_, since, ?_⟩
        · rw [same, flushing]
          exact nofun
        · rw [same]
          exact update_self ..
      · exact .inl (update_of_ne same ..)

/-! ## Running a task -/

/-- Behind a task, a thread that has no other goes on. -/
theorem goOn {thread : Thread}
    (free : thread ∉ queue.running.map Prod.fst) : (queue.goOn thread).Invariant := by
  cases thread with
  | worker => exact invariant.setWorker free nofun fun _ => nofun
  | caller caller =>
    simp only [DatabaseTasks.goOn]
    split
    next since busy =>
      refine invariant.setFlush free (fun at_ place => ?_) (fun isCloser _ => ?_) ?_ ?_
      · rcases place with isFlushing | isBusy
        · exact FlushPlace.flushing.inj isFlushing ▸ invariant.since caller since (.inr busy)
        · cases isBusy
      · refine invariant.closed ?_
        rw [← isCloser, busy]
        exact nofun
      · exact fun _ behind => behind.elim nofun nofun
      · exact fun _ => nofun
    next => exact invariant

end

theorem runTask_executed (queue : DatabaseTasks) (thread : Thread) (number : Nat) :
    (queue.runTask thread number).executed = queue.executed ++ [number] := by
  cases thread with
  | worker => rfl
  | caller caller =>
    simp only [DatabaseTasks.runTask, DatabaseTasks.goOn]
    split <;> rfl

/-- **The task that was taken first is run.** -/
theorem runTask (invariant : queue.Invariant) {thread : Thread} {number : Nat}
    {rest : List (Thread × Nat)} (first : queue.running = (thread, number) :: rest) :
    (queue.runTask thread number).Invariant := by
  have single := invariant.single
  rw [first, List.map_cons, List.nodup_cons] at single
  have others : queue.running.filter (fun held => held.1 ≠ thread) = rest := by
    rw [first, List.filter_cons_of_neg (by simp), List.filter_eq_self]
    intro held isHeld
    have key : held.1 ∈ rest.map Prod.fst := List.mem_map_of_mem isHeld
    exact decide_eq_true fun same => single.1 (same ▸ key)
  have still : ∀ {other : Thread}, other ∈ rest.map Prod.fst →
      other ∈ queue.running.map Prod.fst := by
    intro other held
    rw [first, List.map_cons]
    exact List.mem_cons_of_mem _ held
  have taken : ({ queue with
      executed := queue.executed ++ [number], running := rest } : DatabaseTasks).Invariant :=
    { invariant with
      row := by
        refine .trans ?_ invariant.row
        rw [first, List.map_cons, List.append_assoc]
        rfl
      single := single.2
      worker := fun held => invariant.worker (still held)
      caller := fun caller held => invariant.caller caller (still held) }
  unfold DatabaseTasks.runTask
  rw [others]
  exact taken.goOn single.1

theorem first_of_inOrder (invariant : queue.Invariant) {thread : Thread} {number : Nat}
    (held : (thread, number) ∈ queue.running)
    (inOrder : queue.executed ++ [number] = List.range (queue.executed ++ [number]).length) :
    queue.running.head? = some (thread, number) := by
  have isNext : number = queue.executed.length := next_eq_length inOrder
  have row := invariant.row
  cases taken : queue.running with
  | nil =>
    rw [taken] at held
    cases held
  | cons first rest =>
    rw [taken, List.map_cons] at row
    have firstNext : first.2 = queue.executed.length := next_eq_length row
    -- the numbers of the tasks differ, so that this is the same task
    have numbers : (queue.running.map Prod.snd).Nodup := by
      have nodup : (List.range queue.accepted).Nodup := List.nodup_range
      rw [← invariant.row] at nodup
      exact ((List.nodup_append.mp nodup).2.1).of_append_left
    have isFirst : first ∈ queue.running := taken ▸ List.mem_cons_self
    have same := List.inj_on_of_nodup_map numbers isFirst held (firstNext.trans isNext.symm)
    rw [same]
    rfl

end DatabaseTasks.Invariant

/-! ## The theorem -/

/-- What a step does exactly: it is sound where it is in turn, and then the invariant goes on. -/
structure Exact (before : DatabaseTasks) (op : QueueOp) (after : DatabaseTasks) : Prop where
  sound_iff : Sound before op after ↔ InTurn before op
  invariant : Sound before op after → after.Invariant

namespace DatabaseTasks.Invariant

variable {queue : DatabaseTasks}

/-- A step that keeps the invariant and does not return from `flush`. -/
theorem exact_of_keeps {after : DatabaseTasks} {op : QueueOp} (keeps : after.Invariant)
    (inTurn : InTurn queue op) (notReturned : queue.returned op = none) : Exact queue op after := by
  refine ⟨iff_of_true (keeps.sound fun since returned => ?_) inTurn, fun _ => keeps⟩
  rw [notReturned] at returned
  cases returned

theorem exact_lock (invariant : queue.Invariant) (entering : queue.worker = .entering) :
    Exact queue .lock queue.lock := by
  by_cases inTime : InTurn queue .lock
  · exact exact_of_keeps (invariant.lock entering inTime) inTime rfl
  · have notSound : ¬Sound queue .lock queue.lock := by
      intro sound
      refine inTime fun none done => ?_
      have waits : queue.lock = { queue with worker := .waiting } := by
        unfold DatabaseTasks.lock
        split
        next => rfl
        next left => exact absurd (none.symm.trans left) nofun
      have ends := sound.ends
      rw [waits] at ends
      exact ends done rfl
    exact ⟨iff_of_false notSound inTime, fun sound => absurd sound notSound⟩

theorem exact_runTask (invariant : queue.Invariant) {thread : Thread} {number : Nat}
    (held : (thread, number) ∈ queue.running) :
    Exact queue (.runTask thread number) (queue.runTask thread number) := by
  by_cases first : queue.running.head?.map Prod.fst = some thread
  · obtain ⟨front, isFront, isThread⟩ := Option.map_eq_some_iff.mp first
    obtain ⟨rest, taken⟩ := List.head?_eq_some_iff.mp isFront
    have same : front = (thread, number) := by
      have isHeld : front ∈ queue.running := taken ▸ List.mem_cons_self
      exact List.inj_on_of_nodup_map invariant.single isHeld held isThread
    rw [same] at taken
    exact exact_of_keeps (invariant.runTask taken) first rfl
  · have notSound : ¬Sound queue (.runTask thread number) (queue.runTask thread number) := by
      intro sound
      have inOrder := sound.inOrder
      rw [runTask_executed] at inOrder
      rw [invariant.first_of_inOrder held inOrder] at first
      exact first rfl
    exact ⟨iff_of_false notSound first, fun sound => absurd sound notSound⟩

theorem flush_executed (queue : DatabaseTasks) (caller : Caller) (since : Nat) :
    (queue.flush caller since).executed = queue.executed := by
  unfold DatabaseTasks.flush
  split <;> rfl

theorem exact_flush (invariant : queue.Invariant) {caller : Caller} {since : Nat}
    (flushing : queue.flushes caller = .flushing since) :
    Exact queue (.flush caller since) (queue.flush caller since) := by
  have keeps := invariant.flush flushing
  have called : since ≤ queue.accepted := invariant.since caller since (.inl flushing)
  refine ⟨⟨fun sound none held isHeld => ?_, fun inTurn => keeps.sound fun at_ returned => ?_⟩,
    fun _ => keeps⟩
  · have inBack : held.2 ∈ queue.running.map Prod.snd ++ queue.tasks :=
      List.mem_append_left _ (List.mem_map_of_mem isHeld)
    have past := ((mem_back_iff invariant.row).mp inBack).1
    by_contra below
    have executed := sound.flushed since (if_pos none) held.2 (Nat.lt_of_not_le below)
    rw [flush_executed, mem_front_iff invariant.row] at executed
    exact absurd past (Nat.not_le.mpr executed)
  · intro number below
    by_cases none : queue.tasks = []
    · have same : since = at_ := Option.some.inj ((if_pos none).symm.trans returned)
      rw [flush_executed, mem_front_iff invariant.row]
      by_contra past
      have inBack : number ∈ queue.running.map Prod.snd ++ queue.tasks := by
        exact (mem_back_iff invariant.row).mpr ⟨Nat.le_of_not_lt past, by omega⟩
      rw [none, List.append_nil] at inBack
      obtain ⟨held, isHeld, isNumber⟩ := List.mem_map.mp inBack
      have later : since ≤ held.2 := inTurn none held isHeld
      omega
    · have returned : (if queue.tasks = [] then some since else Option.none) = some at_ := returned
      rw [if_neg none] at returned
      cases returned

theorem exact (invariant : queue.Invariant) {op : QueueOp} (legal : queues.legal queue op) :
    Exact queue op (queues.step queue op) := by
  cases op with
  | addTask => exact exact_of_keeps invariant.addTask trivial rfl
  | notify => exact exact_of_keeps (invariant.wakeUp _) trivial rfl
  | stop =>
    have isRunning : queue.state = .running := legal
    refine exact_of_keeps { invariant with closed := fun called => ?_ } trivial rfl
    exact absurd (isRunning.symm.trans (invariant.closed called)) nofun
  | check => exact exact_of_keeps (invariant.check legal) trivial rfl
  | lock => exact invariant.exact_lock legal
  | wake =>
    have waits : queue.worker = .waiting := legal
    refine exact_of_keeps (invariant.setWorker (invariant.worker_free ?_) nofun fun _ => nofun)
      trivial rfl
    rw [waits]
    exact nofun
  | resume => exact exact_of_keeps (invariant.resume legal) trivial rfl
  | runTask thread number => exact invariant.exact_runTask legal
  | saveGameState =>
    have idle : queue.flushes .saver = .idle := legal
    refine exact_of_keeps (invariant.setFlush (invariant.caller_free fun since => ?_)
      (fun since place => ?_) nofun nofun nofun) trivial rfl
    · rw [idle]
      exact nofun
    · rcases place with isFlushing | isBusy
      · exact Nat.le_of_eq (FlushPlace.flushing.inj isFlushing).symm
      · cases isBusy
  | shutdown =>
    have idle : queue.flushes .closer = .idle := legal
    have closing : ({ queue with state := .terminated } : DatabaseTasks).Invariant :=
      { invariant with closed := fun _ => rfl }
    refine exact_of_keeps (closing.setFlush (closing.caller_free fun since => ?_)
      (fun since place => ?_) (fun _ _ => rfl) ?_ ?_) trivial rfl
    · rw [idle]
      exact nofun
    · rcases place with isFlushing | isBusy
      · exact Nat.le_of_eq (FlushPlace.flushing.inj isFlushing).symm
      · cases isBusy
    · exact fun _ behind => behind.elim nofun nofun
    · exact fun _ => nofun
  | flush caller since => exact invariant.exact_flush legal
  | notifyOne =>
    have notifying : queue.flushes .closer = .notifying := legal
    have woken := invariant.wakeUp queue.signals
    refine exact_of_keeps (woken.setFlush (woken.caller_free fun since => ?_) ?_ (fun _ _ => ?_)
      (fun _ _ => invariant.drained (.inl notifying)) fun _ _ waits => ?_) trivial rfl
    · show queue.flushes .closer ≠ _
      rw [notifying]
      exact nofun
    · exact fun _ place => place.elim nofun nofun
    · refine invariant.closed ?_
      rw [notifying]
      exact nofun
    · exact absurd waits (notifyOne_worker queue)

end DatabaseTasks.Invariant

/-- **Queries are executed once and in their order**, `flush` waits for those before it and the
worker is not left waiting, exactly where the threads run their tasks in the order they took
them, `flush` returns while nobody has a task from before its call, and the worker does not come
to wait behind `shutdown`. -/
theorem queries_sound_iff {ops : List QueueOp} (legal : queues.Legal {} ops) :
    queues.Throughout Sound {} ops ↔
      queues.Throughout (fun before op _ => InTurn before op) {} ops := by
  have initial : ({} : DatabaseTasks).Invariant :=
    { row := rfl
      single := List.nodup_nil
      worker := nofun
      caller := nofun
      since := fun _ _ place => place.elim nofun nofun
      served := nofun
      closed := fun called => absurd rfl called
      drained := fun _ => rfl
      ends := nofun }
  refine System.Throughout.iff_of_invariant (fun before op invariant isLegal => ?_) initial legal
  have isExact := invariant.exact isLegal
  exact ⟨isExact.sound_iff, isExact.invariant⟩

/-- Two queries; the worker runs the first one, `saveGameState` the second. -/
def shared : List QueueOp :=
  [.addTask, .addTask, .check, .lock, .runTask .worker 0, .saveGameState, .flush .saver 2,
    .runTask (.caller .saver) 1, .flush .saver 2]

theorem queries_sound_iff_shared :
    queues.Throughout Sound {} shared ↔
      queues.Throughout (fun before op _ => InTurn before op) {} shared := by
  refine queries_sound_iff ?_
  exact ⟨trivial, trivial, rfl, rfl, List.mem_cons_self, rfl, rfl, List.mem_cons_self, rfl,
    trivial⟩

/-- The worker has taken the query, and not run it, when `flush` returns. -/
theorem query_left :
    ∃ ops, queues.Legal {} ops ∧ ¬queues.Throughout Sound {} ops ∧
      (queues.run {} ops).executed = [] ∧ (queues.run {} ops).flushes .saver = .idle := by
  refine ⟨[.addTask, .check, .lock, .saveGameState, .flush .saver 1], ?_, ?_, rfl, rfl⟩
  · exact ⟨trivial, rfl, rfl, rfl, rfl, trivial⟩
  · rintro ⟨-, -, -, -, returned, -⟩
    exact absurd (returned.flushed 1 rfl 0 Nat.one_pos) nofun

/-- The worker comes to wait when `shutdown` is over. -/
example : (queues.run {} [.check, .shutdown, .flush .closer 0, .notifyOne, .lock]).worker =
    .waiting := rfl

end Otserv.Database
