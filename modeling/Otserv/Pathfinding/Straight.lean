import Otserv.Pathfinding.Corners

/-!
# Paths without diagonals

Every turn of the search keeps that diagonal neighbors of the start wait (`turn_ahead`). So what
was found does not hang on a diagonal neighbor of the start, nor do its ancestors (`Settled`), and
no diagonal direction is rebuilt.
-/

namespace Otserv.Pathfinding

open Otserv.World

variable {request : Request}

/-! ## Turns -/

/-- Once the first node has been expanded and closed, diagonal neighbors wait for corners. -/
theorem Opening.ahead {table : AStarNodes} {found : Option (Nat × Position)}
    (noDiagonal : request.fpp.allowDiagonal = false) (guarded : request.Guarded)
    (opening : Opening request [] table)
    (onlyFirst : ∀ m endPos, found = some (m, endPos) → m = 0 ∧ endPos = request.startPos) :
    Ahead request (table.closeNode 0) found := by
  have rooted := opening.rooted
  have still {i : Nat} (other : i ≠ 0) :
      (table.closeNode 0).openNodes i = table.openNodes i := Function.update_of_ne other _ _
  refine ⟨opening.begun, fun i skewed => ?_,
    fun _ i member => (opening.near i member).mono (by decide), fun m endPos same => ?_⟩
  · have used : i ∈ table.used := skewed.used
    have skew : Skew request.startPos ((table.nodes i).pos request) := skewed.skew
    have notRoot : i ≠ 0 := by
      rintro rfl
      have isParent : (table.nodes 0).parent = some 0 := skewed.parent
      rw [rooted.root] at isParent
      cases isParent
    obtain ⟨⟨a, b⟩, member, there, opens⟩ := opening.opens i used notRoot
    obtain ⟨smallA, smallB⟩ := near_of_mem member
    rw [there] at skew
    have admits := opening.admits i used notRoot
    obtain ⟨stepA, stepB, -, -⟩ := skew_around smallA smallB skew
    have free := guarded a (by rcases stepA with rfl | rfl <;> decide) b
      (by rcases stepB with rfl | rfl <;> decide) opens skew
    obtain ⟨e, notFirst, corner⟩ :=
      opening.corner noDiagonal smallA smallB skew (there ▸ admits) free there
    refine ⟨?_, fun k member isParent => ?_, fun endPos same => notRoot (onlyFirst i endPos same).1,
      ?_, admits, e, ?_, corner.congr corner.used rfl rfl rfl⟩
    · rw [still notRoot]
      exact opening.isOpen i used
    · have isParent : table.parent k = some i := isParent
      by_cases isRoot : k = 0
      · rw [AStarNodes.parent, isRoot, rooted.root] at isParent
        cases isParent
      · rw [opening.parent k member isRoot] at isParent
        exact notRoot (Option.some.inj isParent).symm
    · change table.f i = _
      rw [opening.cost i used notRoot]
      refine congrArg (· + _) (if_pos ?_)
      have bothOne := skew
      rw [← there] at bothOne
      obtain ⟨columns, rows⟩ := bothOne
      simp only [Position.getX, Position.getY] at columns rows
      simp only [rooted.root]
      rw [Int.abs_eq_natAbs, Int.abs_eq_natAbs, columns, rows]
    · rw [still notFirst]
      exact opening.isOpen e corner.used
  · obtain ⟨rfl, rfl⟩ := onlyFirst m endPos same
    exact ⟨rooted.started, rooted.first_pos.symm⟩

variable {state : Request.Search}

theorem visit_spec {n : Nat} {leads : Request.Turn → Prop}
    (stop : ∀ bestMatch found,
      found = some (n, (state.table.nodes n).pos request) ∨ found = state.found →
      leads (.stop { table := state.table, bestMatch := bestMatch, found := found }))
    (next : ∀ bestMatch found after any,
      found = some (n, (state.table.nodes n).pos request) ∨ found = state.found →
      request.expand n (state.table.f n) (state.table.nodes n) any
        (request.neighbors state.table (state.table.nodes n)) state.table = some after →
      leads (.next { table := after.closeNode n, bestMatch := bestMatch, found := found }))
    (fail : leads .fail) : leads (request.visit state n) := by
  rw [Request.visit]
  generalize request.pathCondition.call request.startPos
    ⟨(state.table.nodes n).x, (state.table.nodes n).y, request.startPos.z⟩
    state.bestMatch = answer
  obtain ⟨holds, bestMatch⟩ := answer
  simp only
  generalize isFound : (if holds = true then
      some (n, (⟨(state.table.nodes n).x, (state.table.nodes n).y, request.startPos.z⟩ : Position))
    else state.found) = found
  have oneOfBoth : found = some (n, (state.table.nodes n).pos request) ∨ found = state.found := by
    rw [← isFound]
    split
    · exact .inl rfl
    · exact .inr rfl
  split
  · exact stop bestMatch found oneOfBoth
  · cases expanded : request.expand n (state.table.nodes n).f (state.table.nodes n) found.isSome
        (request.neighbors state.table (state.table.nodes n)) state.table with
    | none => exact fail
    | some after => exact next bestMatch found after _ oneOfBoth expanded

/-- Neither what was found nor a parent hangs on the first node by a skew step. -/
structure Settled (request : Request) (state : Request.Search) : Prop where
  rooted : Rooted request state.table
  found : ∀ m endPos, state.found = some (m, endPos) → m ∈ state.table.used ∧
    endPos = (state.table.nodes m).pos request ∧ ¬Skewed request state.table m
  leaf : ∀ i ∈ state.table.used, ∀ p, state.table.parent i = some p →
    ¬Skewed request state.table p

theorem Ahead.settled (ahead : Ahead request state.table state.found) :
    Settled request state where
  rooted := ahead.begun.rooted
  found := fun m endPos same => by
    obtain ⟨used, here⟩ := ahead.place m endPos same
    exact ⟨used, here, fun skewed => (ahead.waits m skewed).notFound endPos same⟩
  leaf := fun i member p isParent skewed => (ahead.waits p skewed).leaf i member isParent

/-- What a turn may lead to. -/
def Request.Turn.Clean (request : Request) : Request.Turn → Prop
  | .next after => Ahead request after.table after.found
  | .stop after => Settled request after
  | .fail => True

section

variable (noDiagonal : request.fpp.allowDiagonal = false)
include noDiagonal

/-- **One turn of the search.** What holds once the first node has been expanded goes on to
hold. -/
theorem turn_ahead {state : Request.Search} (ahead : Ahead request state.table state.found) :
    (request.turn state).Clean request := by
  rw [Request.turn]
  split
  · cases chosen : state.table.getBestNode with
    | none =>
      simp only
      split
      · exact ahead.settled
      · trivial
    | some n =>
      obtain ⟨used, -, -⟩ := ahead.begun.best chosen
      obtain ⟨notSkewed, -⟩ := ahead.best chosen
      refine visit_spec (fun bestMatch found isFound => ?_)
        (fun bestMatch found after any isFound expanded =>
          ahead.expand noDiagonal chosen isFound expanded) trivial
      refine { ahead.settled with found := fun m endPos same => ?_ }
      rcases isFound with now | before
      · obtain ⟨rfl, rfl⟩ := Prod.mk.inj (Option.some.inj (now.symm.trans same))
        exact ⟨used, rfl, notSkewed⟩
      · exact ahead.settled.found m endPos (before ▸ same)
  · exact ahead.settled

/-- The first turn expands the first node. -/
theorem turn_start (guarded : request.Guarded) : (request.turn request.start).Clean request := by
  have rooted := Rooted.start request
  have notSkewed (i : Nat) : ¬Skewed request request.start.table i := by
    intro skewed
    obtain rfl : i = 0 := Nat.lt_one_iff.mp (Finset.mem_range.mp skewed.used)
    cases skewed.parent
  have settled (found : Option (Nat × Position)) (bestMatch : Int)
      (isFound : ∀ m endPos, found = some (m, endPos) → m = 0 ∧ endPos = request.startPos) :
      Settled request
        { table := request.start.table, bestMatch := bestMatch, found := found } := by
    refine ⟨rooted, fun m endPos same => ?_, fun i _ p _ => notSkewed p⟩
    obtain ⟨rfl, rfl⟩ := isFound m endPos same
    exact ⟨rooted.started, rooted.first_pos.symm, notSkewed 0⟩
  rw [Request.turn]
  split
  · cases chosen : request.start.table.getBestNode with
    | none => trivial
    | some n =>
      obtain ⟨used, -⟩ := getBestNode_mem chosen
      obtain rfl : n = 0 := Nat.lt_one_iff.mp (Finset.mem_range.mp used)
      have onlyFirst {found : Option (Nat × Position)}
          (isFound : found = some (0, (request.start.table.nodes 0).pos request) ∨
            found = request.start.found) :
          ∀ m endPos, found = some (m, endPos) → m = 0 ∧ endPos = request.startPos := by
        intro m endPos same
        rcases isFound with now | before
        · obtain ⟨rfl, rfl⟩ := Prod.mk.inj (Option.some.inj (now.symm.trans same))
          exact ⟨rfl, rfl⟩
        · cases before.symm.trans same
      exact visit_spec
        (fun bestMatch found isFound => settled found bestMatch (onlyFirst isFound))
        (fun bestMatch found after any isFound expanded =>
          (opening_of_expand expanded).ahead noDiagonal guarded (onlyFirst isFound)) trivial
  · exact settled none 0 (fun m endPos never => by cases never)

/-- When the search ends, no diagonal neighbor of the start is on the way to what it found. -/
theorem search_settled :
    ∀ (fuel : Nat) {state after : Request.Search}, (request.turn state).Clean request →
      request.search fuel state = some (some after) → Settled request after := by
  intro fuel
  induction fuel with
  | zero =>
    intro state after _ ended
    cases ended
  | succ fuel ih =>
    intro state after clean ended
    rw [Request.search] at ended
    cases outcome : request.turn state with
    | next later =>
      rw [outcome] at ended clean
      exact ih (turn_ahead noDiagonal clean) ended
    | stop later =>
      rw [outcome] at ended clean
      cases ended
      exact clean
    | fail =>
      rw [outcome] at ended
      cases ended

end

/-! ## The rebuilt path -/

theorem rebuild_straight (settled : Settled request state)
    (steps : Nat) {i : Nat} (used : i ∈ state.table.used)
    (notSkewed : ¬Skewed request state.table i) {dirList dirs : List Direction}
    (straight : ∀ direction ∈ dirList, direction.isDiagonal = false)
    (rebuilt : Request.rebuild state.table steps (state.table.parent i)
      (state.table.nodes i).x.toNat (state.table.nodes i).y.toNat dirList = some dirs) :
    ∀ direction ∈ dirs, direction.isDiagonal = false := by
  have rooted := settled.rooted
  induction steps generalizing i dirList with
  | zero =>
    cases isParent : state.table.parent i with
    | none =>
      rw [isParent, Request.rebuild] at rebuilt
      cases rebuilt
      exact straight
    | some p =>
      rw [isParent, Request.rebuild] at rebuilt
      cases rebuilt
  | succ steps ih =>
    cases isParent : state.table.parent i with
    | none =>
      rw [isParent, Request.rebuild] at rebuilt
      cases rebuilt
      exact straight
    | some p =>
      have notRoot : i ≠ 0 := by
        rintro rfl
        rw [AStarNodes.parent, rooted.root] at isParent
        cases isParent
      obtain ⟨q, there, isParentToo, level⟩ := rooted.parents i used notRoot
      obtain rfl : p = q := Option.some.inj (isParent.symm.trans isParentToo)
      rw [isParent, Request.rebuild] at rebuilt
      refine ih there (settled.leaf i used p isParent) (fun direction member => ?_) rebuilt
      rcases List.mem_append.mp member with now | before
      · have isDirection := Option.mem_toList.mp now
        by_contra diagonal
        obtain ⟨columns, rows⟩ :=
          isDiagonal_of_directionOf isDirection (Bool.not_eq_false _ ▸ diagonal)
        have skew : Skew ((state.table.nodes p).pos request)
            ((state.table.nodes i).pos request) := ⟨columns, rows⟩
        by_cases isFirst : p = 0
        · subst isFirst
          rw [rooted.first_pos] at skew
          exact notSkewed ⟨used, isParent, skew⟩
        · exact level isFirst skew
      · exact straight direction before

theorem straight_of_guarded (noDiagonal : request.fpp.allowDiagonal = false)
    (guarded : request.Guarded) {fuel : Nat} {dirs : List Direction}
    (returned : request.getPathMatching fuel [] = some (some dirs)) :
    ∀ direction ∈ dirs, direction.isDiagonal = false := by
  rw [Request.getPathMatching] at returned
  cases ended : request.search fuel request.start with
  | none =>
    rw [ended] at returned
    cases returned
  | some result =>
    rw [ended] at returned
    cases result with
    | none => cases returned
    | some state =>
      have settled := search_settled noDiagonal fuel (turn_start noDiagonal guarded) ended
      cases found : state.found with
      | none =>
        simp only [found] at returned
        cases returned
      | some target =>
        obtain ⟨n, endPos⟩ := target
        obtain ⟨used, rfl, notSkewed⟩ := settled.found n endPos found
        simp only [found, Option.map_eq_some_iff] at returned
        obtain ⟨path, rebuilt, same⟩ := returned
        cases same
        exact rebuild_straight settled maxNodes used notSkewed
          (fun direction member => absurd member List.not_mem_nil) rebuilt

end Otserv.Pathfinding
