import Otserv.Foundation.Runs

/-!
# Transaction scopes

`DBTransaction` takes the lock of the connection with `BEGIN` and releases it with `COMMIT` or
`ROLLBACK`. Which of the statements succeed is an argument, and one that fails does nothing.

A scope is noted as started before it is known whether `BEGIN` succeeds, and as committed before
it is known whether `COMMIT` does. So a scope leaves the connection as it should exactly when
the statements that begin and end it succeed (`scopes_balanced_iff`).
-/

namespace Otserv.Database

open Foundation

/-- The connection: how often the lock is taken, whether it was released more often than that,
and whether a transaction is open. -/
structure Connection where
  depth : Nat := 0
  overReleased : Bool := false
  inTransaction : Bool := false
deriving DecidableEq

namespace Connection

variable (succeeds : Bool) (db : Connection)

def lock : Connection := { db with depth := db.depth + 1 }

def unlock : Connection :=
  { db with depth := db.depth - 1, overReleased := db.overReleased || db.depth = 0 }

def executeQuery : Connection := db.lock.unlock

def beginTransaction : Connection :=
  if succeeds then { db.executeQuery with inTransaction := true }.lock else db.executeQuery

def rollback : Connection :=
  { db with inTransaction := db.inTransaction && !succeeds }.unlock

def commit : Connection :=
  { db with inTransaction := db.inTransaction && !succeeds }.unlock

end Connection

inductive TransactionStates where
  | noStart | start | commit
deriving DecidableEq

/-- What is called in a scope after `begin`. -/
inductive ScopeCall where
  | executeQuery
  | commit (succeeds : Bool)

/-- A scope: whether it gets to `begin` and whether `BEGIN` succeeds, the calls up to its end,
and whether a `ROLLBACK` of the destructor succeeds. -/
structure TransactionScope where
  begins : Option Bool
  calls : List ScopeCall
  rollback : Bool

namespace TransactionScope

def call : TransactionStates × Connection → ScopeCall → TransactionStates × Connection
  | (state, db), .executeQuery => (state, db.executeQuery)
  | (.start, db), .commit succeeds => (.commit, db.commit succeeds)
  | (state, db), .commit _ => (state, db)

variable (scope : TransactionScope) (db : Connection)

/-- The destructor of `DBTransaction`. -/
def destroy : TransactionStates × Connection → Connection
  | (.start, db) => db.rollback scope.rollback
  | (_, db) => db

def run : Connection :=
  let begun := match scope.begins with
    | none => (.noStart, db)
    | some succeeds => (.start, db.beginTransaction succeeds)
  scope.destroy (scope.calls.foldl call begun)

/-- Whether the statement succeeds that ends the transaction. -/
def ends : List ScopeCall → Bool
  | [] => scope.rollback
  | .executeQuery :: calls => ends calls
  | .commit succeeds :: _ => succeeds

/-- If the scope begins, the statements that begin and end the transaction succeed. -/
def Succeeds : Prop := ∀ begins ∈ scope.begins, begins = true ∧ scope.ends scope.calls = true

/-- What a scope leaves as it was. -/
structure Balanced (before : Connection) (_ : TransactionScope) (after : Connection) : Prop where
  depth : after.depth = before.depth
  released : after.overReleased = false
  closed : after.inTransaction = false

theorem executeQuery_eq : db.executeQuery = db := by
  simp [Connection.executeQuery, Connection.lock, Connection.unlock]

/-- After the transaction is ended, and where none was begun, nothing more happens to it. -/
theorem foldl_call {state : TransactionStates} (notStart : state ≠ .start)
    (calls : List ScopeCall) : scope.destroy (calls.foldl call (state, db)) = db := by
  induction calls with
  | nil =>
    cases state with
    | start => exact absurd rfl notStart
    | noStart | commit => rfl
  | cons next calls ih =>
    have same : call (state, db) next = (state, db) := by
      cases next with
      | executeQuery => rw [call, executeQuery_eq]
      | commit _ =>
        cases state with
        | start => exact absurd rfl notStart
        | noStart | commit => rfl
    rw [List.foldl_cons, same]
    exact ih

/-- A transaction is ended once. -/
theorem foldl_call_start (calls : List ScopeCall) :
    scope.destroy (calls.foldl call (.start, db)) = db.commit (scope.ends calls) := by
  induction calls with
  | nil => rfl
  | cons next calls ih =>
    cases next with
    | executeQuery => rwa [List.foldl_cons, call, executeQuery_eq]
    | commit succeeds => exact scope.foldl_call (db.commit succeeds) (by decide) calls

theorem balanced_iff_succeeds {before : Connection} (released : before.overReleased = false)
    (closed : before.inTransaction = false) :
    Balanced before scope (scope.run before) ↔ scope.Succeeds := by
  rw [run, Succeeds]
  cases scope.begins with
  | none =>
    rw [foldl_call _ _ (by decide)]
    exact iff_of_true ⟨rfl, released, closed⟩ nofun
  | some succeeds =>
    simp only [foldl_call_start, Option.mem_some_iff, forall_eq']
    cases succeeds with
    | false =>
      refine iff_of_false (fun balanced => ?_) (by simp)
      have depth := balanced.depth
      have notOver := balanced.released
      simp only [Connection.beginTransaction, executeQuery_eq, Connection.commit,
        Connection.unlock, Bool.false_eq_true, if_false, released] at depth notOver
      -- the lock that was not taken is released
      cases none : before.depth with
      | zero => simp [none] at notOver
      | succ depth => omega
    | true =>
      simp only [Connection.beginTransaction, executeQuery_eq, if_true, true_and]
      constructor
      · intro balanced
        simpa [Connection.commit, Connection.unlock, Connection.lock] using balanced.closed
      · intro ends
        refine ⟨rfl, ?_, ?_⟩
        · simp [Connection.commit, Connection.unlock, Connection.lock, released]
        · simp [Connection.commit, Connection.unlock, Connection.lock, ends]

end TransactionScope

/-- Scopes that follow one another. -/
def transactionScopes : System Connection TransactionScope where
  legal _ _ := True
  step db scope := scope.run db

/-- **The scopes are balanced exactly when they succeed.** In every sequence of scopes, the lock
is after each of them taken as often as before and was never released too often, and no
transaction is left open, if and only if in each scope that begins `BEGIN` succeeds and so does
the `COMMIT` or `ROLLBACK` that ends it. -/
theorem scopes_balanced_iff (depth : Nat) (scopes : List TransactionScope) :
    transactionScopes.Throughout TransactionScope.Balanced { depth := depth } scopes ↔
      transactionScopes.Throughout (fun _ scope _ => scope.Succeeds) { depth := depth } scopes := by
  refine @System.Throughout.iff_of_invariant _ _ transactionScopes _
    (fun db => db.overReleased = false ∧ db.inTransaction = false) _ ?_ _ _ ⟨rfl, rfl⟩
    (.of_forall (fun _ _ => trivial) _ _)
  rintro before scope ⟨released, closed⟩ -
  exact ⟨scope.balanced_iff_succeeds released closed, fun balanced => ⟨balanced.released, balanced.closed⟩⟩

/-- `BEGIN` fails, and the destructor releases a lock that was not taken. -/
theorem failed_begin_releases : ¬ ∀ depth scopes,
    transactionScopes.Throughout TransactionScope.Balanced { depth := depth } scopes := by
  intro balanced
  have first := (balanced 0 [⟨some false, [], true⟩]).1.released
  revert first
  decide

end Otserv.Database
