import Otserv.Pathfinding.NodeTable

/-!
# The paths that the search finds

The search comes to an end: a turn adds a node, lowers a cost or leaves a node closed
(`turn_sound`, `search_ends`). The chain of parents from what it found is finite, and the
directions that are rebuilt along it lead over walkable positions to the one that matched
(`getPathMatching_sound`).
-/

namespace Otserv.Pathfinding

open Otserv.Foundation Otserv.World

variable {request : Request}

/-! ## The search -/

variable {state : Request.Search} {table : AStarNodes} {n : Nat}

theorem better_mem (table : AStarNodes) (entries : List Nat) (best : Nat × Option Nat)
    (chosen : (entries.foldl table.better best).2 = some n) :
    best.2 = some n ∨ n ∈ entries ∧ table.openNodes n = true := by
  induction entries generalizing best with
  | nil => exact .inl chosen
  | cons i entries ih =>
    rcases ih _ chosen with now | ⟨member, isOpen⟩
    · rw [AStarNodes.better] at now
      split_ifs at now with better
      · cases now
        exact .inr ⟨List.mem_cons_self, better.1⟩
      · exact .inl now
    · exact .inr ⟨List.mem_cons_of_mem _ member, isOpen⟩

theorem getBestNode_mem (chosen : table.getBestNode = some n) :
    n ∈ table.used ∧ table.openNodes n = true := by
  rcases better_mem table _ _ chosen with never | ⟨member, isOpen⟩
  · cases never
  · exact ⟨Finset.mem_range.mpr (List.mem_range.mp member), isOpen⟩

theorem neighbors_subset (table : AStarNodes) (node : AStarNode) :
    request.neighbors table node ⊆ allNeighbors := by
  rw [Request.neighbors]
  cases node.parent with
  | none => exact .refl _
  | some parent =>
    exact fun offset member => dirNeighbors_subset _ (List.mem_of_mem_take member)

/-- What was found is a node, at the position that matched. -/
def Found (request : Request) (table : AStarNodes) (found : Option (Nat × Position)) : Prop :=
  ∀ n endPos, found = some (n, endPos) → n ∈ table.used ∧
    endPos = (table.nodes n).pos request ∧
    ∃ bestMatch, (request.pathCondition.call request.startPos endPos bestMatch).1 = true

theorem Found.extend {table after : AStarNodes} {found : Option (Nat × Position)}
    (isFound : Found request table found) (extends_ : Extends table after) :
    Found request after found := by
  intro n endPos same
  obtain ⟨used, here, holds⟩ := isFound n endPos same
  obtain ⟨sameX, sameY⟩ := extends_.same n used
  refine ⟨extends_.mem used, ?_, holds⟩
  rw [here, AStarNode.pos, AStarNode.pos, sameX, sameY]

/-- The invariant of the search. -/
structure SoundSearch (request : Request) (search : Request.Search) : Prop where
  table : Sound request search.table
  found : Found request search.table search.found

/-- The number of open nodes. -/
def AStarNodes.openCount (table : AStarNodes) : Nat :=
  (table.used.filter fun i => table.openNodes i = true).card

theorem openCount_closeNode_lt (used : n ∈ table.used)
    (isOpen : table.openNodes n = true) : (table.closeNode n).openCount < table.openCount := by
  apply Finset.card_lt_card
  rw [Finset.ssubset_iff_of_subset]
  · refine ⟨n, Finset.mem_filter.mpr ⟨used, isOpen⟩, fun member => ?_⟩
    have still := (Finset.mem_filter.mp member).2
    simp [AStarNodes.closeNode] at still
  · intro i member
    obtain ⟨there, still⟩ := Finset.mem_filter.mp member
    refine Finset.mem_filter.mpr ⟨there, ?_⟩
    by_cases here : i = n
    · rwa [here]
    · simpa [AStarNodes.closeNode, Function.update_of_ne here] using still

/-- A turn adds a node, lowers a cost, or leaves fewer nodes open. -/
def Nearer (after before : AStarNodes) : Prop :=
  Prod.Lex (· < ·) (Prod.Lex (· < ·) (· < ·))
    (maxNodes - after.curNode, after.total, after.openCount)
    (maxNodes - before.curNode, before.total, before.openCount)

theorem Grown.nearer {table after : AStarNodes} (grown : Grown table after)
    (room : after.curNode ≤ maxNodes) (used : n ∈ table.used)
    (isOpen : table.openNodes n = true) : Nearer (after.closeNode n) table := by
  rcases grown with rfl | more | ⟨same, less⟩
  · exact .right _ (.right _ (openCount_closeNode_lt used isOpen))
  · refine .left _ _ ?_
    change maxNodes - after.curNode < maxNodes - table.curNode
    omega
  · change Prod.Lex _ _ (maxNodes - after.curNode, after.total, _) _
    rw [same]
    exact .right _ (.left _ _ less)

/-- What a turn may lead to from a state. -/
def Request.Turn.Sound (request : Request) (state : Request.Search) : Request.Turn → Prop
  | .next after => SoundSearch request after ∧ Nearer after.table state.table
  | .stop after => SoundSearch request after
  | .fail => True

theorem visit_sound (sound : SoundSearch request state)
    (used : n ∈ state.table.used) (isOpen : state.table.openNodes n = true)
    (inner : Inner ((state.table.nodes n).pos request)) :
    (request.visit state n).Sound request state := by
  rw [Request.visit]
  generalize called : request.pathCondition.call request.startPos
    ⟨(state.table.nodes n).x, (state.table.nodes n).y, request.startPos.z⟩
    state.bestMatch = answer
  obtain ⟨holds, bestMatch⟩ := answer
  simp only
  -- what is found now, if the position matches
  generalize isFound : (if holds = true then
      some (n, (⟨(state.table.nodes n).x, (state.table.nodes n).y, request.startPos.z⟩ : Position))
    else state.found) = found
  have soundFound : Found request state.table found := by
    rw [← isFound]
    intro m endPos same
    split_ifs at same with holds
    · cases same
      exact ⟨used, rfl, state.bestMatch, by rw [called]; exact holds⟩
    · exact sound.found m endPos same
  by_cases last : holds = true ∧ bestMatch = 0
  · rw [if_pos last]
    exact ⟨sound.table, soundFound⟩
  · rw [if_neg last]
    cases expanded : request.expand n (state.table.nodes n).f (state.table.nodes n) found.isSome
        (request.neighbors state.table (state.table.nodes n)) state.table with
    | none => trivial
    | some table =>
      obtain ⟨stays, extends_, grown⟩ := expand_sound sound.table used inner
        (neighbors_subset _ _) expanded
      refine ⟨⟨stays.congr rfl rfl rfl, ?_⟩, grown.nearer stays.room used isOpen⟩
      exact (soundFound.extend extends_).extend ⟨Nat.le_refl _, fun _ _ => ⟨rfl, rfl⟩⟩

/-- **One turn of the search.** The invariant is kept, and a turn that is not the last comes
nearer to the end. -/
theorem turn_sound (away : request.AwayFromBorder)
    (sound : SoundSearch request state) : (request.turn state).Sound request state := by
  rw [Request.turn]
  by_cases goes : request.fpp.maxSearchDist ≠ 0 ∨ state.table.closedNodes < 100
  · rw [if_pos goes]
    cases best : state.table.getBestNode with
    | none =>
      simp only
      split
      · exact sound
      · trivial
    | some n =>
      obtain ⟨used, isOpen⟩ := getBestNode_mem best
      exact visit_sound sound used isOpen (away n
        ((Finset.mem_range.mp used).trans_le sound.table.room) _ (sound.table.reached n used))
  · rw [if_neg goes]
    exact sound

theorem nearer_wf : WellFounded Nearer :=
  InvImage.wf (fun table : AStarNodes => (maxNodes - table.curNode, table.total, table.openCount))
    (Prod.lex Nat.lt_wfRel (Prod.lex Nat.lt_wfRel Nat.lt_wfRel)).wf

theorem start_soundSearch (request : Request) : SoundSearch request request.start where
  table := start_sound request
  found := by
    intro n endPos never
    cases never

theorem search_ends (away : request.AwayFromBorder)
    (sound : SoundSearch request state) : ∃ fuel result, request.search fuel state = some result := by
  have ends : ∀ (table : AStarNodes) (state : Request.Search), state.table = table →
      SoundSearch request state → ∃ fuel result, request.search fuel state = some result := by
    intro table
    induction table using nearer_wf.induction with
    | _ table ih =>
      rintro state rfl sound
      have turned := turn_sound away sound
      cases outcome : request.turn state with
      | next after =>
        rw [outcome] at turned
        obtain ⟨fuel, result, found⟩ := ih after.table turned.2 after rfl turned.1
        exact ⟨fuel + 1, result, by rw [Request.search, outcome]; exact found⟩
      | stop after => exact ⟨1, some after, by rw [Request.search, outcome]⟩
      | fail => exact ⟨1, none, by rw [Request.search, outcome]⟩
  exact ends state.table state rfl sound

theorem search_sound (away : request.AwayFromBorder) :
    ∀ (fuel : Nat) {state after : Request.Search}, SoundSearch request state →
      request.search fuel state = some (some after) → SoundSearch request after := by
  intro fuel
  induction fuel with
  | zero =>
    intro state after _ ended
    cases ended
  | succ fuel ih =>
    intro state after sound ended
    have turned := turn_sound away sound
    rw [Request.search] at ended
    cases outcome : request.turn state with
    | next later =>
      rw [outcome] at ended turned
      exact ih turned.1 ended
    | stop later =>
      rw [outcome] at ended turned
      cases ended
      exact turned
    | fail =>
      rw [outcome] at ended
      cases ended

/-! ## Rebuilding the path -/

/-- The directions lead from a position to another, each one step on to a walkable
position next to it. -/
def Request.Leads (request : Request) : Position → List Direction → Position → Prop
  | pos, [], destination => pos = destination
  | pos, direction :: path, destination =>
    Adjacent pos (getNextPosition direction pos) ∧
      (request.canWalkTo (getNextPosition direction pos)).isSome ∧
      request.Leads (getNextPosition direction pos) path destination

theorem Request.Leads.snoc {pos middle next : Position} {path : List Direction}
    (leads : request.Leads pos path middle) {direction : Direction}
    (isNext : getNextPosition direction middle = next) (adjacent : Adjacent middle next)
    (walkable : (request.canWalkTo next).isSome) :
    request.Leads pos (path ++ [direction]) next := by
  induction path generalizing pos with
  | nil =>
    obtain rfl : pos = middle := leads
    refine ⟨?_, ?_, isNext⟩
    · rwa [isNext]
    · rwa [isNext]
  | cons first path ih => exact ⟨leads.1, leads.2.1, ih leads.2.2⟩

/-- The number of nodes of lower cost bounds the length of the chain of parents. -/
abbrev AStarNodes.rank (table : AStarNodes) (i : Nat) : Nat := Rising.rank table.used table.f i

theorem rebuild_leads (sound : Sound request table) {i : Nat} (used : i ∈ table.used) :
    ∃ path, request.Leads request.startPos path ((table.nodes i).pos request) ∧
      ∀ steps ≥ table.rank i, ∀ dirList,
        Request.rebuild table steps (table.parent i) (table.nodes i).x.toNat
          (table.nodes i).y.toNat dirList = some (path ++ dirList) := by
  -- by the rank, along the chain of parents
  induction isRank : table.rank i using Nat.strong_induction_on generalizing i with
  | _ count ih =>
    by_cases isRoot : i = 0
    · subst isRoot
      refine ⟨[], ?_, fun steps _ dirList => ?_⟩
      · rw [sound.root]
        rfl
      · rw [AStarNodes.parent, sound.root, Request.rebuild]
        rfl
    · obtain ⟨parent, isParent, offset, member, off⟩ := sound.adjacent i used isRoot
      have there := (sound.rising i used parent isParent).1
      have lower : table.rank parent < count := isRank ▸ sound.rising.rank_lt used isParent
      obtain ⟨path, leads, rebuilt⟩ := ih (table.rank parent) lower there rfl
      obtain ⟨direction, isDirection, hasOffset⟩ := directionOf_eq member
      have isNext : getNextPosition direction ((table.nodes parent).pos request) =
          (table.nodes i).pos request := getNextPosition_eq (by rwa [hasOffset])
      refine ⟨path ++ [direction], leads.snoc isNext ⟨offset, member, off⟩
        (sound.walkable i used isRoot), fun steps enough dirList => ?_⟩
      obtain ⟨steps, rfl⟩ : ∃ less, steps = less + 1 := ⟨steps - 1, by omega⟩
      have offX : ((table.nodes parent).x.toNat : Int) - (table.nodes i).x.toNat =
          -offset.1 := by
        have := off.1
        simp only [AStarNode.pos] at this
        omega
      have offY : ((table.nodes parent).y.toNat : Int) - (table.nodes i).y.toNat =
          -offset.2 := by
        have := off.2.1
        simp only [AStarNode.pos] at this
        omega
      rw [isParent, Request.rebuild]
      rw [offX, offY, isDirection]
      have rest := rebuilt steps (by omega) ([direction] ++ dirList)
      rw [List.append_assoc]
      exact rest

/-! ## The states that are reached -/

namespace Request

/-- The states of the search between its turns. -/
inductive Reaches (request : Request) : Search → Prop
  | start : Reaches request request.start
  | next {state after : Search} (reached : Reaches request state)
      (turned : request.turn state = .next after) : Reaches request after

/-- The tables of the search: those between the turns, and those while a node is
expanded. -/
inductive Table (request : Request) : AStarNodes → Prop
  | between {state : Search} (reached : Reaches request state) : Table request state.table
  | within {state : Search} (reached : Reaches request state) {n : Nat}
      (best : state.table.getBestNode = some n) {found : Bool} {offsets : List (Int × Int)}
      (some_ : offsets <+: request.neighbors state.table (state.table.nodes n))
      {table : AStarNodes}
      (expanded : request.expand n (state.table.f n) (state.table.nodes n) found offsets
        state.table = some table) : Table request table

end Request

theorem Request.Reaches.sound (away : request.AwayFromBorder)
    (reached : request.Reaches state) : SoundSearch request state := by
  induction reached with
  | start => exact start_soundSearch request
  | next reached turned ih =>
    have turn := turn_sound away ih
    rw [turned] at turn
    exact turn.1

theorem Request.Table.sound (away : request.AwayFromBorder)
    (isTable : request.Table table) : Sound request table := by
  cases isTable with
  | between reached => exact (reached.sound away).table
  | within reached best some_ expanded =>
    have sound := (reached.sound away).table
    obtain ⟨used, -⟩ := getBestNode_mem best
    have inner := away _ ((Finset.mem_range.mp used).trans_le sound.room) _
      (sound.reached _ used)
    exact (expand_sound sound used inner
      (fun offset member => neighbors_subset _ _ (some_.subset member)) expanded).1

/-- **Paths are walkable and lead to a match.** In every table of the search costs rise from
parents to children, so no node is its own ancestor. The search comes to an end, and the
directions it returns lead from the start, step by step over walkable positions, to a
position that matched. -/
theorem getPathMatching_sound (away : request.AwayFromBorder) (dirList : List Direction) :
    (∀ table, request.Table table → Rising table.used table.parent table.f ∧
      ∀ i ∈ table.used, ¬ Relation.TransGen (fun child above => above ∈ table.parent child) i i) ∧
    (∃ fuel answer, request.getPathMatching fuel dirList = some answer) ∧
    ∀ fuel dirs, request.getPathMatching fuel dirList = some (some dirs) →
      ∃ path endPos bestMatch, dirs = path ++ dirList ∧
        request.Leads request.startPos path endPos ∧
        (request.pathCondition.call request.startPos endPos bestMatch).1 = true := by
  have rebuilt {state : Request.Search} (sound : SoundSearch request state) {n : Nat}
      {endPos : Position} (found : state.found = some (n, endPos)) :
      ∃ path, request.Leads request.startPos path endPos ∧
        Request.rebuild state.table maxNodes (state.table.nodes n).parent endPos.x.toNat
          endPos.y.toNat dirList = some (path ++ dirList) := by
    obtain ⟨used, rfl, -⟩ := sound.found n endPos found
    obtain ⟨path, leads, rebuilt⟩ := rebuild_leads sound.table used
    have enough : state.table.rank n ≤ maxNodes := by
      have less := @Rising.rank_lt_card _ _ state.table.f _ used
      rw [Finset.card_range] at less
      exact less.le.trans sound.table.room
    exact ⟨path, leads, rebuilt maxNodes enough dirList⟩
  refine ⟨fun table isTable => ?_, ?_, fun fuel dirs returned => ?_⟩
  · have rising := (isTable.sound away).rising
    exact ⟨rising, fun i used => rising.acyclic used⟩
  · obtain ⟨fuel, result, ended⟩ := search_ends away (start_soundSearch request)
    refine ⟨fuel, ?_⟩
    rw [Request.getPathMatching, ended]
    cases result with
    | none => exact ⟨none, rfl⟩
    | some state =>
      have sound := search_sound away fuel (start_soundSearch request) ended
      cases found : state.found with
      | none => exact ⟨none, by simp only [found]⟩
      | some target =>
        obtain ⟨path, -, isRebuilt⟩ := rebuilt sound found
        exact ⟨some (path ++ dirList), by simp only [found, isRebuilt, Option.map_some]⟩
  · rw [Request.getPathMatching] at returned
    cases ended : request.search fuel request.start with
    | none =>
      rw [ended] at returned
      cases returned
    | some result =>
      rw [ended] at returned
      cases result with
      | none => cases returned
      | some state =>
        have sound := search_sound away fuel (start_soundSearch request) ended
        cases found : state.found with
        | none =>
          simp only [found] at returned
          cases returned
        | some target =>
          obtain ⟨n, endPos⟩ := target
          obtain ⟨path, leads, isRebuilt⟩ := rebuilt sound found
          obtain ⟨-, -, bestMatch, holds⟩ := sound.found n endPos found
          simp only [found, isRebuilt, Option.map_some, Option.some.injEq] at returned
          exact ⟨path, endPos, bestMatch, returned.symm, leads, holds⟩

/-! ## A path of one step -/

def westTile : Position := ⟨100, 100, 7⟩

def eastTile : Position := ⟨101, 100, 7⟩

/-- Two tiles, of which a creature stands on the western one and looks for the other. -/
def twoTiles : Request where
  getTile pos :=
    if pos = westTile then some { address := 0, accepts := true }
    else if pos = eastTile then some { address := 1, accepts := true }
    else none
  creature :=
    { walker := { position := westTile, useCacheMap := false }
      tile := some 0
      isImmune := fun _ => false
      hasCondition := fun _ => false }
  pathCondition :=
    { call := fun _ pos bestMatch => (pos = eastTile, bestMatch)
      isInRange := fun _ _ => true }
  fpp := {}

theorem twoTiles_away : twoTiles.AwayFromBorder := by
  intro steps _ pos reached
  have oneOfBoth : pos = westTile ∨ pos = eastTile := by
    cases reached with
    | start => exact .inl rfl
    | step reached adjacent walkable =>
      by_contra neither
      rw [not_or] at neither
      have noTile : twoTiles.getTile pos = none := by
        simp only [twoTiles, neither.1, neither.2, if_false]
      rw [Request.canWalkTo, noTile] at walkable
      split_ifs at walkable <;> cases walkable
  rcases oneOfBoth with rfl | rfl
  · exact ⟨by decide, by decide, by decide, by decide⟩
  · exact ⟨by decide, by decide, by decide, by decide⟩

/-- The creature is led to the east. -/
theorem getPathMatching_sound_east :
    ∃ path endPos bestMatch, [Direction.east] = path ++ [] ∧
      twoTiles.Leads twoTiles.startPos path endPos ∧
      (twoTiles.pathCondition.call twoTiles.startPos endPos bestMatch).1 = true :=
  (getPathMatching_sound twoTiles_away []).2.2 3 [.east] (by decide +kernel)

end Otserv.Pathfinding
