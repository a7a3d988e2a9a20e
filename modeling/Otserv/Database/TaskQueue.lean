import Otserv.Foundation.Runs

/-!
# The queue of database tasks

`addTask` puts a query into the queue; the worker takes queries out under the lock and runs them
outside of it, and so does `flush`, on the dispatcher thread for `saveGameState` or on the thread
that shuts down.

A step is a critical section of `taskLock`, the run of one query, or what a thread does between
two of them. A query is known by its number in the order in which queries were accepted; the
texts, the results and the callbacks are left out. The worker may wake up without being notified.
-/

namespace Otserv.Database

open Foundation

/-- `ThreadState`. -/
inductive ThreadState where
  | running | closing | terminated
deriving DecidableEq

/-- Where the worker is in `threadMain`. -/
inductive WorkerPlace where
  /-- Before it looks at the thread state. -/
  | checking
  /-- Before it takes the lock. -/
  | entering
  | waiting
  /-- Woken, and before it has the lock back. -/
  | woken
  /-- With a task, outside of the lock. -/
  | busy
  | ended
deriving DecidableEq

/-- Who calls `flush`: `saveGameState` or `shutdown`. -/
inductive Caller where
  | saver | closer
deriving DecidableEq

/-- Where a call of `flush` is, with how many queries had been accepted when it was made. -/
inductive FlushPlace where
  | idle
  | flushing (since : Nat)
  /-- With a task, outside of the lock. -/
  | busy (since : Nat)
  /-- Behind the `flush` of `shutdown`. -/
  | notifying
  | done
deriving DecidableEq

inductive Thread where
  | worker
  | caller (caller : Caller)
deriving DecidableEq

structure DatabaseTasks where
  state : ThreadState := .running
  tasks : List Nat := []
  /-- How many queries have been accepted. -/
  accepted : Nat := 0
  executed : List Nat := []
  /-- The tasks that were taken and have not been executed, in the order they were taken. -/
  running : List (Thread × Nat) := []
  worker : WorkerPlace := .checking
  flushes : Caller → FlushPlace := fun _ => .idle
  /-- How many calls of `addTask` are about to notify. -/
  signals : Nat := 0

namespace DatabaseTasks

variable (queue : DatabaseTasks)

/-- The critical section of `addTask`. -/
def addTask : DatabaseTasks :=
  if queue.state = .running then
    { queue with
      tasks := queue.tasks ++ [queue.accepted]
      accepted := queue.accepted + 1
      signals := if queue.tasks = [] then queue.signals + 1 else queue.signals }
  else queue

/-- `taskSignal.notify_one`. -/
def notifyOne : DatabaseTasks :=
  { queue with worker := if queue.worker = .waiting then .woken else queue.worker }

/-- `addTask` behind its critical section. -/
def notify : DatabaseTasks := { queue.notifyOne with signals := queue.signals - 1 }

/-- The condition of the loop of `threadMain`. -/
def check : DatabaseTasks :=
  { queue with worker := if queue.state ≠ .terminated then .entering else .ended }

/-- A thread takes the task in front. -/
def take (thread : Thread) (number : Nat) (rest : List Nat) : DatabaseTasks :=
  { queue with tasks := rest, running := queue.running ++ [(thread, number)] }

/-- The worker takes the lock. -/
def lock : DatabaseTasks :=
  match queue.tasks with
  | [] => { queue with worker := .waiting }
  | number :: rest => { queue.take .worker number rest with worker := .busy }

/-- The worker has the lock back after its wait. -/
def resume : DatabaseTasks :=
  match queue.tasks with
  | [] => { queue with worker := .checking }
  | number :: rest => { queue.take .worker number rest with worker := .busy }

def setFlush (caller : Caller) (place : FlushPlace) : DatabaseTasks :=
  { queue with flushes := Function.update queue.flushes caller place }

/-- The condition of the loop of `flush`, and what follows it under the lock. -/
def flush (caller : Caller) (since : Nat) : DatabaseTasks :=
  match queue.tasks with
  | [] => queue.setFlush caller (if caller = .closer then .notifying else .idle)
  | number :: rest => (queue.take (.caller caller) number rest).setFlush caller (.busy since)

/-- A thread goes on behind `runTask`. -/
def goOn : Thread → DatabaseTasks
  | .worker => { queue with worker := .checking }
  | .caller caller =>
    match queue.flushes caller with
    | .busy since => queue.setFlush caller (.flushing since)
    | _ => queue

/-- `runTask`, of the task the thread has taken. -/
def runTask (thread : Thread) (number : Nat) : DatabaseTasks :=
  { queue with
    executed := queue.executed ++ [number]
    running := queue.running.filter fun held => held.1 ≠ thread }.goOn thread

/-- The critical section of `shutdown`. -/
def shutdown : DatabaseTasks :=
  { queue with state := .terminated }.setFlush .closer (.flushing queue.accepted)

end DatabaseTasks

inductive QueueOp where
  | addTask
  | notify
  /-- `ThreadHolder::stop`. -/
  | stop
  | check
  | lock
  /-- The worker wakes up without being notified. -/
  | wake
  | resume
  | runTask (thread : Thread) (number : Nat)
  | saveGameState
  | shutdown
  | flush (caller : Caller) (since : Nat)
  /-- `shutdown` behind its `flush`. -/
  | notifyOne
deriving DecidableEq

/-- The steps of the threads. -/
def queues : System DatabaseTasks QueueOp where
  legal queue
    | .addTask => True
    | .notify => queue.signals ≠ 0
    | .stop => queue.state = .running
    | .check => queue.worker = .checking
    | .lock => queue.worker = .entering
    | .wake => queue.worker = .waiting
    | .resume => queue.worker = .woken
    | .runTask thread number => (thread, number) ∈ queue.running
    | .saveGameState => queue.flushes .saver = .idle
    | .shutdown => queue.flushes .closer = .idle
    | .flush caller since => queue.flushes caller = .flushing since
    | .notifyOne => queue.flushes .closer = .notifying
  step queue
    | .addTask => queue.addTask
    | .notify => queue.notify
    | .stop => { queue with state := .closing }
    | .check => queue.check
    | .lock => queue.lock
    | .wake => { queue with worker := .woken }
    | .resume => queue.resume
    | .runTask thread number => queue.runTask thread number
    | .saveGameState => queue.setFlush .saver (.flushing queue.accepted)
    | .shutdown => queue.shutdown
    | .flush caller since => queue.flush caller since
    | .notifyOne => queue.notifyOne.setFlush .closer .done

end Otserv.Database
