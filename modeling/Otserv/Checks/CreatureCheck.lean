import Otserv.Foundation.BucketQueue
import Otserv.Foundation.Runs

/-!
# Creatures that are checked in turn

A creature that is to be checked is put in one of ten lists, and every tenth of a second one of
the lists is gone through. A creature leaves its list only when the list comes up, where
`removeCreatureCheck` has cleared the flag `creatureCheck` and nothing has set it again.

A list may grow while it is gone through: what a creature does when it thinks comes as operations
between the steps of the loop, which holds the place of its iterator. Beside the game it is
counted how often each creature was made to think in these loops, how often `checkCreatures` was
called, and how many references to a creature are held by others than the lists and the releases.
-/

namespace Otserv.Checks

open Foundation

abbrev EVENT_CREATURECOUNT : Nat := 10

structure Creature where
  creatureCheck : Bool := false
  inCheckCreaturesVector : Bool := false
  health : Int := 0
  referenceCounter : Nat := 0
  /-- The references of others. -/
  held : Nat := 0
  /-- How often the loops called `onThink`. -/
  thoughts : Nat := 0
deriving DecidableEq

/-- The list that is gone through, and the place of the iterator in it. -/
structure Loop where
  index : Fin EVENT_CREATURECOUNT
  place : Nat
deriving DecidableEq

structure Game where
  creatures : Nat → Creature
  checkCreatureLists : Fin EVENT_CREATURECOUNT → List Nat := fun _ => []
  toReleaseCreatures : List Nat := []
  /-- The argument of the call that is scheduled. -/
  scheduled : Fin EVENT_CREATURECOUNT := 0
  /-- The call that is going on. -/
  loop : Option Loop := none
  calls : Nat := 0

namespace Game

variable (game : Game) (creature : Nat)

def setCreature (value : Creature) : Game :=
  { game with creatures := Function.update game.creatures creature value }

def setList (index : Fin EVENT_CREATURECOUNT) (list : List Nat) : Game :=
  { game with checkCreatureLists := Function.update game.checkCreatureLists index list }

/-- `Game::addCreatureCheck`, with the number drawn by `uniform_random`. -/
def addCreatureCheck (creature : Nat) (random : Fin EVENT_CREATURECOUNT) : Game :=
  let value := { game.creatures creature with creatureCheck := true }
  if value.inCheckCreaturesVector then game.setCreature creature value
  else
    (game.setCreature creature
      { value with
        inCheckCreaturesVector := true
        referenceCounter := value.referenceCounter + 1 }).setList random
      (game.checkCreatureLists random ++ [creature])

def removeCreatureCheck : Game :=
  let value := game.creatures creature
  if value.inCheckCreaturesVector then
    game.setCreature creature { value with creatureCheck := false }
  else game

def releaseCreature : Game :=
  { game with toReleaseCreatures := game.toReleaseCreatures ++ [creature] }

def decrementReferenceCounter : Game :=
  let value := game.creatures creature
  game.setCreature creature { value with referenceCounter := value.referenceCounter - 1 }

/-- `Game::cleanup`, of the creatures. -/
def cleanup : Game :=
  { game.toReleaseCreatures.foldl decrementReferenceCounter game with toReleaseCreatures := [] }

/-- `Game::checkCreatures` up to its loop. -/
def checkCreatures : Game :=
  { game with
    scheduled := game.scheduled + 1
    loop := some ⟨game.scheduled, 0⟩
    calls := game.calls + 1 }

/-- The iterator goes on. -/
def advance (loop : Loop) : Game :=
  { game with loop := some { loop with place := loop.place + 1 } }

/-- The loop calls `onThink`. -/
def think : Game :=
  let value := game.creatures creature
  game.setCreature creature { value with thoughts := value.thoughts + 1 }

/-- The entry at the iterator is erased. -/
def unlist (loop : Loop) (creature : Nat) : Game :=
  let value := game.creatures creature
  let game := game.setCreature creature { value with inCheckCreaturesVector := false }
  (game.setList loop.index
    ((game.checkCreatureLists loop.index).eraseIdx loop.place)).releaseCreature creature

/-- One step of the loop in `Game::checkCreatures`, with what the creature does left to the
operations that follow. -/
def checkCreature (loop : Loop) : Game :=
  match (game.checkCreatureLists loop.index)[loop.place]? with
  | none => game
  | some creature =>
    if (game.creatures creature).creatureCheck then
      if 0 < (game.creatures creature).health then (game.advance loop).think creature
      else game.advance loop
    else game.unlist loop creature

end Game

/-- The last four are what else happens to a creature; `checkCreature` is a step of the loop and
`finish` what follows it. -/
inductive CheckOp where
  | addCreatureCheck (creature : Nat) (random : Fin EVENT_CREATURECOUNT)
  | removeCreatureCheck (creature : Nat)
  | checkCreatures
  | checkCreature
  | finish
  | setHealth (creature : Nat) (health : Int)
  | incrementReferenceCounter (creature : Nat)
  | decrementReferenceCounter (creature : Nat)
  | releaseCreature (creature : Nat)
  | cleanup
deriving DecidableEq

namespace CheckOp

/-- One call at a time is going on, and is finished at the end of its list; others give up the
references they hold. -/
def Legal (game : Game) : CheckOp → Prop
  | checkCreatures => game.loop = none
  | checkCreature =>
    ∃ loop ∈ game.loop, loop.place < (game.checkCreatureLists loop.index).length
  | finish => ∃ loop ∈ game.loop, loop.place = (game.checkCreatureLists loop.index).length
  | decrementReferenceCounter creature | releaseCreature creature =>
    0 < (game.creatures creature).held
  | addCreatureCheck .. | removeCreatureCheck _ | setHealth .. | incrementReferenceCounter _
  | cleanup => True

instance decidableLegal (game : Game) : ∀ op, Decidable (Legal game op)
  | checkCreatures => inferInstanceAs (Decidable (_ = _))
  | checkCreature | finish => inferInstanceAs (Decidable (∃ loop ∈ game.loop, _))
  | decrementReferenceCounter _ | releaseCreature _ => inferInstanceAs (Decidable (_ < _))
  | addCreatureCheck .. | removeCreatureCheck _ | setHealth .. | incrementReferenceCounter _
  | cleanup => .isTrue trivial

def apply (game : Game) : CheckOp → Game
  | addCreatureCheck creature random => game.addCreatureCheck creature random
  | removeCreatureCheck creature => game.removeCreatureCheck creature
  | checkCreatures => game.checkCreatures
  | checkCreature => (game.loop.map game.checkCreature).getD game
  | finish => { game.cleanup with loop := none }
  | setHealth creature health =>
    game.setCreature creature { game.creatures creature with health := health }
  | incrementReferenceCounter creature =>
    let value := game.creatures creature
    game.setCreature creature
      { value with held := value.held + 1, referenceCounter := value.referenceCounter + 1 }
  | decrementReferenceCounter creature =>
    let value := game.creatures creature
    (game.setCreature creature { value with held := value.held - 1 }).decrementReferenceCounter
      creature
  | releaseCreature creature =>
    let value := game.creatures creature
    (game.setCreature creature { value with held := value.held - 1 }).releaseCreature creature
  | cleanup => game.cleanup

end CheckOp

def checks : System Game CheckOp where
  legal := CheckOp.Legal
  step := CheckOp.apply

instance (game : Game) (op : CheckOp) : Decidable (checks.legal game op) :=
  CheckOp.decidableLegal game op

namespace Game

variable (game : Game)

/-- How often the creature stands in the lists. -/
def listings (creature : Nat) : Nat :=
  BucketQueue.count ⟨[], game.checkCreatureLists⟩ creature

end Game

end Otserv.Checks
