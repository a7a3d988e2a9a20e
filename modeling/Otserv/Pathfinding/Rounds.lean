import Otserv.Foundation.Runs

/-!
# Path-finding rounds

The threads of `PathFinding` wait on one condition variable. `runTask` hands them a task, wakes
them and waits on the same variable; the thread that counts itself as the last one clears the
task and wakes everybody. The task of a round, `checkFollow`, takes creatures from a set until
there are none left.

A step is a critical section of `taskLock` or `checkFollowMutex`, or what a thread does between
two of them. A thread that waits may wake up without being notified. The pool runs on; what
`goToFollowCreature` does is left out.
-/

namespace Otserv.Pathfinding

open Foundation

variable {n : Nat} {Creature : Type}

/-- Where a thread of the pool is in `threadMain`. -/
inductive Place (Creature : Type) where
  /-- Before it takes the lock to wait. -/
  | top
  | waiting
  /-- Woken, and before it has the lock back. -/
  | woken
  /-- It has seen a task and given the lock away. -/
  | starting
  /-- In the loop of the task. -/
  | inside
  | handling (creature : Creature)
  /-- Behind the task, and before it counts itself. -/
  | done
  | notifying
  /-- It has called an empty `std::function`. -/
  | crashed
deriving DecidableEq

/-- A thread, with the number of times it has begun the task of the round. -/
structure Worker (Creature : Type) where
  place : Place Creature := .top
  runs : Nat := 0
deriving DecidableEq

/-- Where the thread that calls `runTask` is. -/
inductive Caller where
  | outside
  | waiting
  | woken
deriving DecidableEq

structure Pool (n : Nat) (Creature : Type) where
  workers : Fin n → Worker Creature := fun _ => {}
  caller : Caller := .outside
  /-- There is a task. -/
  task : Bool := false
  ready : Nat := 0
  /-- The creatures of the round. -/
  round : List Creature := []
  /-- Those from the iterator on. -/
  remaining : List Creature := []
  /-- Those that were handed to `goToFollowCreature`. -/
  handed : List Creature := []

/-- A thread that waits is woken. -/
def Place.notified (place : Place Creature) : Place Creature :=
  match place with
  | .waiting => .woken
  | place => place

namespace Pool

variable (pool : Pool n Creature) (worker : Fin n)

def setPlace (place : Place Creature) : Pool n Creature :=
  { pool with
    workers := Function.update pool.workers worker { pool.workers worker with place := place } }

/-- `taskSignal.notify_all`. -/
def notifyAll : Pool n Creature :=
  { pool with
    workers := fun worker =>
      { pool.workers worker with place := (pool.workers worker).place.notified }
    caller := if pool.caller = .waiting then .woken else pool.caller }

/-- A thread has the lock back after its wait. -/
def resume : Pool n Creature :=
  if pool.task then
    { pool with
      workers := Function.update pool.workers worker
        { place := .starting, runs := (pool.workers worker).runs + 1 } }
  else pool.setPlace worker .top

/-- `task()`. -/
def call : Pool n Creature :=
  pool.setPlace worker (if pool.task then .inside else .crashed)

/-- The critical section of `checkFollow`. -/
def take : Pool n Creature :=
  match pool.remaining with
  | [] => pool.setPlace worker .done
  | creature :: rest => { pool with remaining := rest }.setPlace worker (.handling creature)

/-- `goToFollowCreature`. -/
def goTo (worker : Fin n) (creature : Creature) : Pool n Creature :=
  { pool with handed := creature :: pool.handed }.setPlace worker .inside

/-- The critical section behind the task. -/
def finish : Pool n Creature :=
  if pool.ready + 1 = n then
    { pool with ready := pool.ready + 1, task := false }.setPlace worker .notifying
  else { pool with ready := pool.ready + 1 }.setPlace worker .top

/-- `PathFinding::runTask` until it waits, for the creatures of a set. -/
def runTask (round : List Creature) : Pool n Creature :=
  { ({ pool with
      workers := fun worker => { pool.workers worker with runs := 0 }
      task := true
      ready := 0
      round := round
      remaining := round
      handed := [] } : Pool n Creature).notifyAll with
    caller := .waiting }

end Pool

inductive PoolOp (n : Nat) (Creature : Type) where
  | wait (worker : Fin n)
  /-- A thread wakes up without being notified. -/
  | wake (worker : Fin n)
  | resume (worker : Fin n)
  | call (worker : Fin n)
  | take (worker : Fin n)
  | goTo (worker : Fin n) (creature : Creature)
  | finish (worker : Fin n)
  | notify (worker : Fin n)
  | runTask (round : List Creature)
  | wakeCaller
  | return_

/-- The steps of the threads and of the caller. -/
def pools (n : Nat) (Creature : Type) : System (Pool n Creature) (PoolOp n Creature) where
  legal pool
    | .wait worker => (pool.workers worker).place = .top
    | .wake worker => (pool.workers worker).place = .waiting
    | .resume worker => (pool.workers worker).place = .woken
    | .call worker => (pool.workers worker).place = .starting
    | .take worker => (pool.workers worker).place = .inside
    | .goTo worker creature => (pool.workers worker).place = .handling creature
    | .finish worker => (pool.workers worker).place = .done
    | .notify worker => (pool.workers worker).place = .notifying
    | .runTask round => pool.caller = .outside ∧ round.Nodup
    | .wakeCaller => pool.caller = .waiting
    | .return_ => pool.caller = .woken
  step pool
    | .wait worker => pool.setPlace worker .waiting
    | .wake worker => pool.setPlace worker .woken
    | .resume worker => pool.resume worker
    | .call worker => pool.call worker
    | .take worker => pool.take worker
    | .goTo worker creature => pool.goTo worker creature
    | .finish worker => pool.finish worker
    | .notify worker => pool.notifyAll.setPlace worker .top
    | .runTask round => pool.runTask round
    | .wakeCaller => { pool with caller := .woken }
    | .return_ => { pool with caller := .outside }

end Otserv.Pathfinding
