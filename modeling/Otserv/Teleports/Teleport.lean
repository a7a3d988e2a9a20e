import Otserv.Foundation.Ways
import Otserv.World.Tiles

/-!
# Teleports

A teleport hands what comes to its tile to the tile of its destination. That may have a teleport
again, which hands it on, so a teleport looks first whether the destinations lead back to itself
(`checkInfinityLoop`). Neither of the two loops has a bound: the fuel here is only to say that one
comes to its end.

Where an item lands that is sent to a tile is a matter of that tile, which may not take it and
whose stairs may carry it elsewhere; that is the `landing` of the item. A creature is put on the
tile it is sent to. Effects and the notifications of others are left out.
-/

namespace Otserv.Teleports

open World (Position)

/-- A tile, with the destination of its teleport. -/
structure Tile where
  teleport : Option Position := none
deriving DecidableEq

/-- The tiles there are. -/
abbrev Map := Position → Option Tile

inductive Thing where
  | creature
  | item (landing : Position → Option Position)

/-- Where a thing lands that is sent to a tile. -/
def Thing.landing : Thing → Position → Option Position
  | .creature, pos => some pos
  | .item landing, pos => landing pos

namespace Map

variable (map : Map)

/-- The destination of the teleport of a tile. -/
def destPos (pos : Position) : Option Position := (map pos).bind (·.teleport)

/-- `Teleport::checkInfinityLoop` of the teleport at a position. -/
def checkInfinityLoopWithin (position : Position) : Nat → Option Tile → Option Bool
  | 0, _ => none
  | _ + 1, none => some false
  | fuel + 1, some destTile =>
    match destTile.teleport with
    | some nextDestPos =>
      if position = nextDestPos then some true
      else checkInfinityLoopWithin position fuel (map nextDestPos)
    | none => some false

/-- What `Teleport::addThing` does with a thing: whether the teleport refuses it, and the tiles it
is moved to, by this teleport and by those that it comes to. -/
structure Journey where
  refused : Bool := false
  moves : List Position := []

/-- `Teleport::addThing` of the teleport at a position, and where there is none nothing. -/
def addThingWithin (thing : Thing) : Nat → Position → Option Journey
  | 0, _ => none
  | fuel + 1, position =>
    match map.destPos position with
    | none => some {}
    | some destPos =>
      match map destPos with
      | none => some {}
      | some destTile =>
        match map.checkInfinityLoopWithin position fuel (some destTile) with
        | none => none
        | some true => some { refused := true }
        | some false =>
          match thing.landing destPos with
          | none => some {}
          | some pos =>
            (addThingWithin thing fuel pos).map fun journey =>
              { moves := pos :: journey.moves }

end Map

end Otserv.Teleports
