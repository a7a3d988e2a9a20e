import Otserv.World.WalkCache

/-!
# The search for a path

`getPathMatching` looks for a path from a creature to a position that meets a condition.
Its nodes lie in a table of fixed size; a node that is reached at a lower cost gets another
parent and is opened again. When the search is over, the path is rebuilt from the
coordinates along the parents.

The condition is any function of the start, the tested position and the best match so far.
Of a tile there is what the search asks for: whether `queryAdd` lets the creature in, and
what `getTileWalkCost` looks at. Costs are natural numbers: 512 nodes keep them far below
what the code can count.
-/

namespace Otserv.Pathfinding

open Otserv.World
open Function (update)

/-! ## The table of nodes -/

def maxNodes : Nat := 512

def mapNormalWalkCost : Nat := 10

def mapDiagonalWalkCost : Nat := 25

/-- `AStarNode`, with the place of its parent in the table. -/
structure AStarNode where
  parent : Option Nat := none
  f : Nat := 0
  x : UInt16 := 0
  y : UInt16 := 0

structure AStarNodes where
  nodes : Nat → AStarNode
  openNodes : Nat → Bool
  nodeTable : UInt32 → Option Nat
  curNode : Nat
  closedNodes : Int

namespace AStarNodes

/-- The key of a position in `nodeTable`. -/
def key (x y : UInt32) : UInt32 := (x <<< 16) ||| y

/-- The constructor. -/
def new (x y : UInt16) : AStarNodes where
  nodes := update (fun _ => {}) 0 { x := x, y := y }
  openNodes := update (fun _ => false) 0 true
  nodeTable := update (fun _ => none) (key x.toUInt32 y.toUInt32) (some 0)
  curNode := 1
  closedNodes := 0

variable (table : AStarNodes)

def createOpenNode (parent : Nat) (x y : UInt16) (f : Nat) : Option AStarNodes :=
  if table.curNode ≥ maxNodes then none
  else some {
    nodes := update table.nodes table.curNode { parent := parent, f := f, x := x, y := y }
    openNodes := update table.openNodes table.curNode true
    nodeTable :=
      update table.nodeTable (key x.toUInt32 y.toUInt32) (some table.curNode)
    curNode := table.curNode + 1
    closedNodes := table.closedNodes }

/-- One turn of the loop of `getBestNode`, which keeps the best cost and the best node. -/
def better (best : Nat × Option Nat) (i : Nat) : Nat × Option Nat :=
  if table.openNodes i ∧ (table.nodes i).f < best.1 then ((table.nodes i).f, some i) else best

def getBestNode : Option Nat :=
  ((List.range table.curNode).foldl table.better (2147483647, none)).2

def closeNode (node : Nat) : AStarNodes :=
  { table with
    openNodes := update table.openNodes node false
    closedNodes := table.closedNodes + 1 }

def openNode (node : Nat) : AStarNodes :=
  if table.openNodes node then table
  else
    { table with
      openNodes := update table.openNodes node true
      closedNodes := table.closedNodes - 1 }

def getNodeByPosition (x y : UInt16) : Option Nat := table.nodeTable (key x.toUInt32 y.toUInt32)

/-- A node gets another parent and cost. -/
def reparent (node parent f : Nat) : AStarNodes :=
  { table with
    nodes := update table.nodes node
      { table.nodes node with f := f, parent := parent } }

end AStarNodes

/-! ## The creature and its surroundings -/

/-- A tile: whether `queryAdd` lets the creature in, whether a creature is seen on it, and
the combat type of its field. -/
structure PathTile where
  address : Nat
  accepts : Bool
  topVisibleCreature : Bool := false
  fieldItem : Option Nat := none

/-- The creature, with its walk cache, its own tile, and the combat types it is immune to
or has the condition of. -/
structure Pathfinder where
  walker : Walker
  tile : Option Nat
  isImmune : Nat → Bool
  hasCondition : Nat → Bool

/-- `FindPathParams`, as far as the search reads them itself. -/
structure FindPathParams where
  allowDiagonal : Bool := true
  keepDistance : Bool := false
  maxSearchDist : Int := 0

/-- `FrozenPathingConditionCall`: whether a position matches and the best match then, and
whether it is in range. -/
structure PathCondition where
  call : Position → Position → Int → Bool × Int
  isInRange : Position → Position → Bool

/-- What a search is about. -/
structure Request where
  getTile : Position → Option PathTile
  creature : Pathfinder
  pathCondition : PathCondition
  fpp : FindPathParams

inductive Direction where
  | north | east | south | west | southwest | southeast | northwest | northeast
deriving DecidableEq

/-- `getNextPosition`. -/
def getNextPosition (direction : Direction) (pos : Position) : Position :=
  match direction with
  | .north => { pos with y := pos.y - 1 }
  | .south => { pos with y := pos.y + 1 }
  | .west => { pos with x := pos.x - 1 }
  | .east => { pos with x := pos.x + 1 }
  | .southwest => { pos with x := pos.x - 1, y := pos.y + 1 }
  | .northwest => { pos with x := pos.x - 1, y := pos.y - 1 }
  | .northeast => { pos with x := pos.x + 1, y := pos.y - 1 }
  | .southeast => { pos with x := pos.x + 1, y := pos.y + 1 }

def dirNeighbors : Direction → List (Int × Int)
  | .north => [(-1, 0), (0, 1), (1, 0), (1, 1), (-1, 1)]
  | .east => [(-1, 0), (0, 1), (0, -1), (-1, -1), (-1, 1)]
  | .south => [(-1, 0), (1, 0), (0, -1), (-1, -1), (1, -1)]
  | .west => [(0, 1), (1, 0), (0, -1), (1, -1), (1, 1)]
  | .southwest => [(1, 0), (0, -1), (-1, -1), (1, -1), (1, 1)]
  | .southeast => [(-1, 0), (0, -1), (-1, -1), (1, -1), (-1, 1)]
  | .northwest => [(0, 1), (1, 0), (1, -1), (1, 1), (-1, 1)]
  | .northeast => [(-1, 0), (0, 1), (-1, -1), (1, 1), (-1, 1)]

def allNeighbors : List (Int × Int) :=
  [(-1, 0), (0, 1), (1, 0), (0, -1), (-1, -1), (1, -1), (1, 1), (-1, 1)]

namespace Request

variable (request : Request)

def startPos : Position := request.creature.walker.position

/-- `Map::canWalkTo`. -/
def canWalkTo (pos : Position) : Option PathTile :=
  let walkCache := request.creature.walker.getWalkCache pos
  if walkCache = 0 then none
  else if walkCache = 1 then request.getTile pos
  else
    match request.getTile pos with
    | none => none
    | some tile =>
      if request.creature.tile ≠ some tile.address then if tile.accepts then some tile else none
      else some tile

/-- `AStarNodes::getMapWalkCost`. -/
def getMapWalkCost (node : AStarNode) (pos : Position) : Nat :=
  if |(node.x.toNat : Int) - pos.x.toNat| = |(node.y.toNat : Int) - pos.y.toNat| then
    mapDiagonalWalkCost
  else mapNormalWalkCost

/-- `AStarNodes::getTileWalkCost`. There is a tile wherever there is a node. -/
def getTileWalkCost (tile : Option PathTile) : Nat :=
  match tile with
  | none => 0
  | some tile =>
    let cost := if tile.topVisibleCreature then mapNormalWalkCost * 3 else 0
    match tile.fieldItem with
    | none => cost
    | some combatType =>
      if !request.creature.isImmune combatType && !request.creature.hasCondition combatType then
        cost + mapNormalWalkCost * 18
      else cost

/-- The offsets of the neighbors that are tried from a node. -/
def neighbors (table : AStarNodes) (node : AStarNode) : List (Int × Int) :=
  match node.parent with
  | none => allNeighbors
  | some parent =>
    let offsetX : Int := (table.nodes parent).x.toNat - node.x.toNat
    let offsetY : Int := (table.nodes parent).y.toNat - node.y.toNat
    let direction : Direction :=
      if offsetY = 0 then if offsetX = -1 then .west else .east
      else if !request.fpp.allowDiagonal ∨ offsetX = 0 then
        if offsetY = -1 then .north else .south
      else if offsetY = -1 then if offsetX = -1 then .northwest else .northeast
      else if offsetX = -1 then .southwest else .southeast
    (dirNeighbors direction).take (if request.fpp.allowDiagonal then 5 else 3)

/-! ## The search -/

/-- The position that is off a node by an offset. -/
def neighborPos (node : AStarNode) (offset : Int × Int) : Position :=
  ⟨coordinate (node.x.toNat + offset.1), coordinate (node.y.toNat + offset.2),
    request.startPos.z⟩

/-- The neighbors of a node are opened. Without room for another node the rest is left
out, or the search fails when nothing was found yet. -/
def expand (n f : Nat) (node : AStarNode) (found : Bool) :
    List (Int × Int) → AStarNodes → Option AStarNodes
  | [], table => some table
  | offset :: offsets, table =>
    let pos := request.neighborPos node offset
    if request.fpp.maxSearchDist ≠ 0 ∧
        (Position.getDistanceX request.startPos pos > request.fpp.maxSearchDist ∨
          Position.getDistanceY request.startPos pos > request.fpp.maxSearchDist) then
      expand n f node found offsets table
    else if request.fpp.keepDistance && !request.pathCondition.isInRange request.startPos pos then
      expand n f node found offsets table
    else
      match table.getNodeByPosition pos.x pos.y with
      | some neighborNode =>
        let newf := f + getMapWalkCost node pos + request.getTileWalkCost (request.getTile pos)
        if (table.nodes neighborNode).f ≤ newf then expand n f node found offsets table
        else expand n f node found offsets
          ((table.reparent neighborNode n newf).openNode neighborNode)
      | none =>
        match request.canWalkTo pos with
        | none => expand n f node found offsets table
        | some tile =>
          let newf := f + getMapWalkCost node pos + request.getTileWalkCost (some tile)
          match table.createOpenNode n pos.x pos.y newf with
          | none => if found then some table else none
          | some table => expand n f node found offsets table

/-- The state of the search: the table, and what was found, with `endPos`. -/
structure Search where
  table : AStarNodes
  bestMatch : Int := 0
  found : Option (Nat × Position) := none

def start : Search where
  table := .new request.startPos.x request.startPos.y

/-- What a turn of the search leads to. -/
inductive Turn where
  | next (search : Search)
  | stop (search : Search)
  | fail

/-- The best node is tested and expanded. -/
def visit (search : Search) (n : Nat) : Turn :=
  let node := search.table.nodes n
  let pos : Position := ⟨node.x, node.y, request.startPos.z⟩
  let (holds, bestMatch) := request.pathCondition.call request.startPos pos search.bestMatch
  let found := if holds then some (n, pos) else search.found
  if holds ∧ bestMatch = 0 then
    .stop { table := search.table, bestMatch := bestMatch, found := found }
  else
    match request.expand n node.f node found.isSome (request.neighbors search.table node)
      search.table with
    | none => .fail
    | some table => .next { table := table.closeNode n, bestMatch := bestMatch, found := found }

/-- One turn of the search. -/
def turn (search : Search) : Turn :=
  if request.fpp.maxSearchDist ≠ 0 ∨ search.table.closedNodes < 100 then
    match search.table.getBestNode with
    | none => if search.found.isSome then .stop search else .fail
    | some n => request.visit search n
  else .stop search

/-- The search, for at most so many turns: nothing when they do not suffice, and otherwise
the last state, if any. -/
def search : Nat → Search → Option (Option Search)
  | 0, _ => none
  | fuel + 1, state =>
    match request.turn state with
    | .next state => search fuel state
    | .stop state => some (some state)
    | .fail => some none

/-- The direction from a parent to its child, by the offset from the child to the parent. -/
def directionOf (dx dy : Int) : Option Direction :=
  if dx = 1 ∧ dy = 1 then some .northwest
  else if dx = -1 ∧ dy = 1 then some .northeast
  else if dx = 1 ∧ dy = -1 then some .southwest
  else if dx = -1 ∧ dy = -1 then some .southeast
  else if dx = 1 then some .west
  else if dx = -1 then some .east
  else if dy = 1 then some .north
  else if dy = -1 then some .south
  else none

/-- The path is rebuilt along the parents, of which at most so many are followed. -/
def rebuild (table : AStarNodes) :
    Nat → Option Nat → Int → Int → List Direction → Option (List Direction)
  | _, none, _, _, dirList => some dirList
  | 0, some _, _, _, _ => none
  | steps + 1, some i, prevx, prevy, dirList =>
    let node := table.nodes i
    let dx := node.x.toNat - prevx
    let dy := node.y.toNat - prevy
    rebuild table steps node.parent node.x.toNat node.y.toNat
      ((directionOf dx dy).toList ++ dirList)

/-- `Map::getPathMatching`: nothing when the turns do not suffice, and otherwise the list of
directions if there is a path. -/
def getPathMatching (fuel : Nat) (dirList : List Direction) : Option (Option (List Direction)) :=
  match request.search fuel request.start with
  | none => none
  | some none => some none
  | some (some state) =>
    match state.found with
    | none => some none
    | some (n, endPos) =>
      (rebuild state.table maxNodes (state.table.nodes n).parent endPos.x.toNat endPos.y.toNat
        dirList).map some

end Request

end Otserv.Pathfinding
