import Otserv.World.Tiles

/-!
# The line of sight

`Map::checkSightLine` walks from one position to the column of another, and then up to its floor.
The distances to the straight line are formed in 32 bits. An `int32_t` that would overflow is
none, and so is what is formed of it.
-/

namespace Otserv.Sight

open World (Position)

/-- A value of 32 bits with sign. -/
abbrev Fits (value : Int) : Prop := -2147483648 ≤ value ∧ value < 2147483648

def int32 (value : Int) : Option Int := if Fits value then some value else none

structure SightTile where
  blockProjectile : Bool := false
  thingCount : Nat := 0
deriving DecidableEq

/-- The coefficients of the straight line. -/
structure Line where
  A : Int
  B : Int
  C : Int
deriving DecidableEq

variable (start destination : Position)

def mx : Int :=
  if start.x < destination.x then 1 else if start.x = destination.x then 0 else -1

def my : Int :=
  if start.y < destination.y then 1 else if start.y = destination.y then 0 else -1

def getLine : Option Line := do
  let A ← int32 (destination.getY - start.getY)
  let B ← int32 (start.getX - destination.getX)
  let horizontal ← int32 (A * destination.getX)
  let vertical ← int32 (B * destination.getY)
  let sum ← int32 (horizontal + vertical)
  let C ← int32 (-sum)
  return ⟨A, B, C⟩

/-- `std::abs` of what the equation of the line has for a point. -/
def Line.distance (line : Line) (x y : Int) : Option Int := do
  let horizontal ← int32 (line.A * x)
  let vertical ← int32 (line.B * y)
  let sum ← int32 (horizontal + vertical)
  let value ← int32 (sum + line.C)
  int32 value.natAbs

/-- An iteration of the walking loop, from `start`, with the directions that it has had from the
beginning. -/
def Line.move (line : Line) (mx my : Int) : Option Position := do
  let move_hor ← line.distance (start.getX + mx) start.getY
  let move_ver ← line.distance start.getX (start.getY + my)
  let move_cross ← line.distance (start.getX + mx) (start.getY + my)
  let start :=
    if start.y ≠ destination.y ∧
        (start.x = destination.x ∨ move_hor > move_ver ∨ move_hor > move_cross) then
      { start with y := .ofInt (start.getY + my) }
    else start
  let start :=
    if start.x ≠ destination.x ∧
        (start.y = destination.y ∨ move_ver > move_hor ∨ move_ver > move_cross) then
      { start with x := .ofInt (start.getX + mx) }
    else start
  return start

/-- Where the walking loop is after some iterations, or how it has ended. -/
inductive Walk where
  | overflow
  | blocked
  | arrived (start : Position)
  | onTheWay (start : Position)
deriving DecidableEq

variable (getTile : Position → Option SightTile)

/-- A tile that nothing is thrown through. -/
def blocks (pos : Position) : Bool := (getTile pos).any (·.blockProjectile)

/-- So many iterations of the walking loop. -/
def walk (line : Line) (mx my : Int) : Nat → Position → Walk
  | iterations, start =>
    if start.x = destination.x ∧ start.y = destination.y then .arrived start
    else
      match iterations with
      | 0 => .onTheWay start
      | iterations + 1 =>
        match line.move start destination mx my with
        | none => .overflow
        | some start =>
          if blocks getTile start then .blocked
          else walk line mx my iterations start

/-- The loop over the floors, with as many iterations as there are floors to go. -/
def jump : Nat → Position → Bool
  | 0, _ => true
  | floors + 1, start =>
    if (getTile start).any (·.thingCount > 0) then false
    else jump floors { start with z := start.z + 1 }

/-- The one of two positions that has the lower `z`. -/
def lower (fromPos toPos : Position) : Position := if fromPos.z > toPos.z then toPos else fromPos

/-- The other one. -/
def upper (fromPos toPos : Position) : Position := if fromPos.z > toPos.z then fromPos else toPos

/-- The steps from column to column, if each moves one coordinate only. -/
def columns : Nat :=
  (destination.getX - start.getX).natAbs + (destination.getY - start.getY).natAbs

/-- `Map::checkSightLine`, if no `int32_t` overflows and the walking loop ends in time. -/
def checkSightLine (fromPos toPos : Position) : Option Bool :=
  if fromPos = toPos then some true
  else
    let start := lower fromPos toPos
    let destination := upper fromPos toPos
    (getLine start destination).bind fun line =>
      match walk destination getTile line (mx start destination) (my start destination)
          (columns start destination) start with
      | .overflow => none
      | .blocked => some false
      | .arrived start => some (jump getTile (destination.z.toNat - start.z.toNat) start)
      | .onTheWay _ => none

end Otserv.Sight
