import Otserv.Foundation.Runs

/-!
# Masters and summons

A creature knows its master, and a master lists its summons; `setMaster` edits both, and the
summon holds a reference for being listed. The death of a monster or duelist, a monster that is
convinced and the destructor go through the summons in loops whose body calls `setMaster`, and so
erases the element that the loop stands on: what such a loop does then is not defined (`undefined`),
and the model lets it go on with the next one.

Of the reference counter there is what `setMaster` and the guardians hold. What else a creature
has is left out.
-/

namespace Otserv.Summons

open Foundation
open Function (update)

inductive Kind where
  | player | monster | duelist | npc
deriving DecidableEq

structure Game (Id : Type) where
  kind : Id → Kind
  health : Id → Int
  master : Id → Option Id := fun _ => none
  summons : Id → List Id := fun _ => []
  guardians : Id → List Id := fun _ => []
  /-- What the reference counter holds for being listed as a summon. -/
  references : Id → Int := fun _ => 0
  /-- What it holds for being a guardian. -/
  guardianReferences : Id → Int := fun _ => 0
  /-- Placed, and not removed since. -/
  inGame : Finset Id := ∅
  /-- A loop has gone on from an element that its body erased. -/
  undefined : Bool := false

namespace Game

variable {Id : Type} [DecidableEq Id] (game : Game Id) (creature : Id)

def incrementReferenceCounter : Game Id :=
  { game with
    references := update game.references creature (game.references creature + 1) }

def decrementReferenceCounter : Game Id :=
  { game with
    references := update game.references creature (game.references creature - 1) }

/-- The new master lists the creature, behind its other summons. -/
def pushSummon : Option Id → Game Id
  | none => game
  | some newMaster =>
    let game := game.incrementReferenceCounter creature
    { game with
      summons :=
        update game.summons newMaster (game.summons newMaster ++ [creature]) }

/-- The old master lists it no more. -/
def eraseSummon : Option Id → Game Id
  | none => game
  | some master =>
    if creature ∈ game.summons master then
      let game := game.decrementReferenceCounter creature
      { game with
        summons := update game.summons master ((game.summons master).erase creature) }
    else game

def setMaster (newMaster : Option Id) : Game Id :=
  if newMaster = none ∧ game.master creature = none then game
  else
    let game := game.pushSummon creature newMaster
    let game := game.eraseSummon creature (game.master creature)
    { game with master := update game.master creature newMaster }

def addGuardian (creature guardian : Id) : Game Id :=
  let game := game.setMaster guardian (some creature)
  { game with
    guardianReferences :=
      update game.guardianReferences guardian (game.guardianReferences guardian + 1)
    guardians := update game.guardians creature (game.guardians creature ++ [guardian]) }

def removeGuardian (creature guardian : Id) : Game Id :=
  if guardian ∈ game.guardians creature then
    let game := game.setMaster guardian none
    { game with
      guardianReferences :=
        update game.guardianReferences guardian (game.guardianReferences guardian - 1)
      guardians :=
        update game.guardians creature ((game.guardians creature).erase guardian) }
  else game

/-- `changeHealth` with all the health it has. -/
def drainHealth : Game Id :=
  { game with
    health := update game.health creature
      (max 0 (game.health creature + -game.health creature)) }

/-- A loop over the summons: it stands on an element while the body is run for it. -/
def forSummons (master : Id) (body : Game Id → Id → Game Id) : Game Id :=
  (game.summons master).foldl (fun game summon =>
    let after := body game summon
    if summon ∈ after.summons master then after else { after with undefined := true }) game

def clearSummons (master : Id) : Game Id :=
  { game with summons := update game.summons master [] }

/-- `Monster::death`, `Duelist::death`; other creatures keep their summons. -/
def death (creature : Id) : Game Id :=
  match game.kind creature with
  | .monster =>
    (game.forSummons creature fun game summon =>
      (game.drainHealth summon).setMaster summon none).clearSummons creature
  | .duelist =>
    (game.forSummons creature fun game summon =>
      ((game.drainHealth summon).setMaster summon none).decrementReferenceCounter
        summon).clearSummons creature
  | .player | .npc => game

/-- Whether `Monster::convinceCreature` goes on. -/
def convinces (monster creature : Id) (canConvinceAll isConvinceable : Bool) : Bool :=
  !(game.kind creature = .player && !canConvinceAll && !isConvinceable) &&
    match game.master monster with
    | none => true
    | some master => game.kind master ≠ .player && master ≠ creature

def convinceCreature (monster creature : Id) (canConvinceAll isConvinceable : Bool) : Game Id :=
  if game.convinces monster creature canConvinceAll isConvinceable then
    ((game.setMaster monster (some creature)).forSummons monster fun game summon =>
      (game.drainHealth summon).setMaster summon none).clearSummons monster
  else game

/-- The destructor. -/
def destroy : Game Id :=
  game.forSummons creature fun game summon => game.setMaster summon none

def placeCreature : Game Id :=
  { game with inGame := insert creature game.inGame }

/-- What `Game::removeCreature` does to the creature itself; `onRemoveCreature` takes a summon
from its master, if that one is in the game. -/
def removeOne : Game Id :=
  let game :=
    match game.master creature with
    | none => game
    | some master => if master ∈ game.inGame then game.setMaster creature none else game
  { game with inGame := game.inGame.erase creature }

theorem inGame_pushSummon (game : Game Id) (creature : Id) (newMaster : Option Id) :
    (game.pushSummon creature newMaster).inGame = game.inGame := by
  cases newMaster with
  | none => rfl
  | some newMaster => rfl

theorem inGame_eraseSummon (game : Game Id) (creature : Id) (master : Option Id) :
    (game.eraseSummon creature master).inGame = game.inGame := by
  cases master with
  | none => rfl
  | some master =>
    unfold eraseSummon
    dsimp only
    split <;> rfl

theorem inGame_setMaster (game : Game Id) (creature : Id) (newMaster : Option Id) :
    (game.setMaster creature newMaster).inGame = game.inGame := by
  unfold setMaster
  split
  · rfl
  · exact (inGame_eraseSummon _ _ _).trans (inGame_pushSummon _ _ _)

theorem inGame_removeOne (game : Game Id) (creature : Id) :
    (game.removeOne creature).inGame = game.inGame.erase creature := by
  unfold removeOne
  cases game.master creature with
  | none => rfl
  | some master =>
    dsimp only
    split
    · rw [inGame_setMaster]
    · rfl

/-- There are fewer creatures in the game when one was removed. -/
theorem card_removeOne_lt (game : Game Id) {creature : Id} (inGame : creature ∈ game.inGame) :
    (game.removeOne creature).inGame.card < game.inGame.card := by
  rw [inGame_removeOne]
  exact Finset.card_erase_lt_of_mem inGame

/-- `Game::removeCreature`, of one creature after the other: the summons of a creature that was
removed come next. -/
def removeCreatures (game : Game Id) : List Id → Game Id
  | [] => game
  | creature :: creatures =>
    if _ : creature ∈ game.inGame then
      (game.removeOne creature).removeCreatures
        ((game.removeOne creature).summons creature ++ creatures)
    else game.removeCreatures creatures
termination_by creatures => (game.inGame.card, creatures.length)
decreasing_by
  · exact Prod.Lex.left _ _ (game.card_removeOne_lt ‹_›)
  · exact Prod.Lex.right _ (Nat.lt_succ_self _)

end Game

inductive GameOp (Id : Type) where
  | setMaster (creature : Id) (newMaster : Option Id)
  | addGuardian (creature guardian : Id)
  | removeGuardian (creature guardian : Id)
  | convinceCreature (monster creature : Id) (canConvinceAll isConvinceable : Bool)
  | death (creature : Id)
  | placeCreature (creature : Id)
  | removeCreature (creature : Id)
  | destroy (creature : Id)

/-- A creature is destroyed when it is not in the game and is no summon. -/
def summoning (Id : Type) [DecidableEq Id] : System (Game Id) (GameOp Id) where
  legal game
    | .destroy creature => creature ∉ game.inGame ∧ game.master creature = none
    | _ => True
  step game
    | .setMaster creature newMaster => game.setMaster creature newMaster
    | .addGuardian creature guardian => game.addGuardian creature guardian
    | .removeGuardian creature guardian => game.removeGuardian creature guardian
    | .convinceCreature monster creature canConvinceAll isConvinceable =>
      game.convinceCreature monster creature canConvinceAll isConvinceable
    | .death creature => game.death creature
    | .placeCreature creature => game.placeCreature creature
    | .removeCreature creature => game.removeCreatures [creature]
    | .destroy creature => game.destroy creature

end Otserv.Summons
