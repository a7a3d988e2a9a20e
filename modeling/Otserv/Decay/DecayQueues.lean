import Otserv.Foundation.BucketQueue
import Otserv.Decay.DecayingItems

/-!
# The decay queues

Items that decay wait in `toDecayItems` until `Game::cleanup` files them into one of
four buckets, and `Game::checkDecay` takes one bucket after the other, every 250
milliseconds. An item that is queued is marked as decaying and has a reference counted
for the queue; what gives a reference up puts the item on `ToReleaseItems`, and
`cleanup` deletes an item with its last reference.

Items are known by their addresses. Where an item lies is only whether it has a parent:
what cylinders answer and do with an item is left to the caller (`Answers`,
`Addition`), and so is whether its parent is itself removed.
-/

namespace Otserv.Decay

open Otserv.Foundation Otserv.Items

/-- An item with its parent and its references. That `CreateItem`'s own reference has
not been released (`owned`) is known to no code, and only says whose a reference is. -/
structure Held where
  item : Item
  parented : Bool
  references : Nat
  owned : Bool

structure World where
  held : Nat → Option Held
  next : Nat
  toDecayItems : List Nat
  decayItems : Fin 4 → List Nat
  lastBucket : Fin 4
  toReleaseItems : List Nat

/-- What addThing makes of an item: it takes it, leaves it as it is, or gives it up, as
a tile does with a field where another cannot be replaced. -/
inductive Added where
  | placed | left | released
deriving DecidableEq

/-- What the cylinder of an item answers and does. -/
structure Answers where
  /-- The parent is not removed itself. -/
  rooted : Bool
  /-- `getThingIndex` finds the item. -/
  indexed : Bool
  canTransform : Bool
  added : Added
  /-- `updateThing` finds the item. -/
  updated : Bool
  /-- `replaceThing` puts the new item in place. -/
  inserted : Bool
  queryRemove : Bool
  canRemove : Bool
  /-- `removeThing` finds the item. -/
  taken : Bool

/-- What the cylinder an item is added to answers and does. -/
structure Addition where
  /-- There is no destination, it refuses the item, or this is a test. -/
  refused : Bool
  toItem : Option Nat
  maxQueryCount : Nat
  updated : Bool
  added : Added
  /-- The item has no attribute list when it is cloned. -/
  bare : Bool

/-- What is answered when an item's turn to decay comes. -/
structure Visit where
  answers : Nat → Answers
  depth : Nat

namespace World

/-- The two queues together. -/
def queues (world : World) : BucketQueue (Fin 4) Nat := ⟨world.toDecayItems, world.decayItems⟩

variable (world : World) (id : Nat)

/-- How often an item occurs in `toDecayItems` and the buckets taken together. -/
def occurrences : Nat := world.queues.count id

/-! ## Changes of one item -/

def modify (f : Held → Held) : World :=
  { world with held := Function.update world.held id ((world.held id).map f) }

def modifyItem (f : Item → Item) : World :=
  world.modify id fun held => { held with item := f held.item }

def setParent (parented : Bool) : World :=
  world.modify id fun held => { held with parented := parented }

variable (item : Item)

/-- A new item, with the reference `CreateItem` counts. -/
def allocate (parented : Bool) : World :=
  { world with
    held := Function.update world.held world.next
      (some { item := item, parented := parented, references := 1, owned := true })
    next := world.next + 1 }

/-- The lines that put an item in the queue: a reference, the mark, `toDecayItems`. -/
def pushToDecay : World :=
  { world.modify id fun held =>
      { held with references := held.references + 1, item := held.item.setDecaying .decaying } with
    toDecayItems := id :: world.toDecayItems }

/-- `Game::ReleaseItem`. -/
def releaseItem : World :=
  { world with toReleaseItems := world.toReleaseItems ++ [id] }

/-- `Game::ReleaseItem` with the reference of `CreateItem`. -/
def disown : World :=
  (world.modify id fun held => { held with owned := false }).releaseItem id

def setBucket (bucket : Fin 4) (entries : List Nat) : World :=
  { world with decayItems := Function.update world.decayItems bucket entries }

/-! ## Asking -/

def isRemoved (rooted : Bool) (id : Nat) : Bool :=
  match world.held id with
  | none => true
  | some held => !held.parented || !rooted

variable (game : Game)

def canDecay (world : World) (rooted : Bool) (id : Nat) : Bool :=
  match world.held id with
  | none => false
  | some held => held.item.canDecay game (world.isRemoved rooted id)

def getDuration : UInt32 :=
  match world.held id with
  | none => 0
  | some held => held.item.getDuration

def Marked : Prop := ∃ held ∈ world.held id, held.item.Marked

instance (world : World) (id : Nat) : Decidable (world.Marked id) :=
  inferInstanceAs (Decidable (∃ held ∈ world.held id, held.item.Marked))

/-! ## Cylinders -/

def updateThing (world : World) (id : Nat) (itemId count : UInt16) : World :=
  world.modifyItem id fun item => (item.setID game itemId).setSubType game count

def addThing (added : Added) (id : Nat) : World :=
  match added with
  | .placed => world.setParent id true
  | .left => world
  | .released => (world.setParent id false).disown id

def removeThing (world : World) (taken : Bool) (id count : Nat) : World :=
  match world.held id with
  | none => world
  | some held =>
    if !taken then world
    else if (game.items held.item.id).stackable ∧ count ≠ held.item.count.toNat then
      world.modifyItem id fun item => item.setItemCount (.ofNat (held.item.count.toNat - count))
    else world.setParent id false

/-! ## Creating, cloning and adding -/

/-- `Item::clone`, with the address of the clone. -/
def clone (game : Game) (bare : Bool) (world : World) (id : Nat) : World × Option Nat :=
  match (world.held id).bind fun held => held.item.copied game bare with
  | none => (world, none)
  | some copy =>
    let cloned := world.allocate copy false
    let copies := (world.held id).any fun held => !(bare && held.item.attributeless)
    if copies ∧ copy.getDuration > 0 then (cloned.pushToDecay world.next, some world.next)
    else (cloned, some world.next)

/-- `MAX_ITEM_COUNT`. -/
def maxItemCount : Nat := 10000

/-- The item that is added goes to a stack at the destination. An item that is found
there has a parent. -/
def mergesWith (world : World) (item : Item) (toItem : Option Nat) : Option (Nat × Item) :=
  toItem.bind fun other => (world.held other).bind fun stack =>
    if stack.parented ∧ (game.items item.id).stackable ∧ item.equals stack.item then
      some (other, stack.item)
    else none

/-- How many go on the stack, as the unsigned `MAX_ITEM_COUNT - getItemCount()` has it. -/
def merged (item stack : Item) (maxQueryCount : Nat) : Nat :=
  min ((maxItemCount + 2 ^ 32 - stack.count.toNat) % 2 ^ 32) (min item.count.toNat maxQueryCount)

/-- How many are left over. -/
def leftOver (item stack : Item) (maxQueryCount : Nat) : Nat :=
  min item.count.toNat maxQueryCount - merged item stack maxQueryCount

/-- `Game::internalAddItem`, and whether it succeeded. What is left over of a stack is
added as a clone, to the depth given; a deeper addition is refused. -/
def internalAddItem (game : Game) :
    Nat → (Nat → Addition) → World → Nat → World × Bool
  | 0, _, world, _ => (world, false)
  | depth + 1, additions, world, id =>
    match world.held id with
    | none => (world, false)
    | some held =>
      let addition := additions 0
      if addition.refused then (world, false)
      else
        let world :=
          match mergesWith game world held.item addition.toItem with
          | some (other, stack) =>
            let n := merged held.item stack addition.maxQueryCount
            let count := leftOver held.item stack addition.maxQueryCount
            let world :=
              if addition.updated then
                world.updateThing game other stack.id (.ofNat (stack.count.toNat + n))
              else world
            if count > 0 then
              if held.item.count.toNat ≠ count then
                match clone game addition.bare world id with
                | (world, none) => world
                | (world, some remainderItem) =>
                  let world := world.modifyItem remainderItem (·.setItemCount (.ofNat count))
                  match internalAddItem game depth (fun n => additions (n + 1)) world
                      remainderItem with
                  | (world, true) => world
                  | (world, false) => world.disown remainderItem
              else world.addThing addition.added id
            else world.disown id
          | none => world.addThing addition.added id
        (if world.getDuration id > 0 then world.pushToDecay id else world, true)

/-! ## Removing and transforming -/

/-- `Game::internalRemoveItem`. -/
def internalRemoveItem (game : Game) (answers : Answers) (world : World) (id : Nat)
    (count : Option Nat) : World :=
  match world.held id with
  | none => world
  | some held =>
    if !held.parented then world
    else if !answers.queryRemove then world
    else if !answers.canRemove then world
    else
      let world := world.removeThing game answers.taken id (count.getD held.item.count.toNat)
      if world.isRemoved answers.rooted id then
        let world :=
          if world.canDecay game answers.rooted id then
            world.setBucket 0 ((world.decayItems 0).filter (· ≠ id))
          else world
        world.disown id
      else world

variable (answers : Answers)

/-- A new item takes the place of the item. -/
def replaceThing (world : World) (id : Nat) (type count : UInt16) : World × Option Nat :=
  match Item.createItem game type count with
  | none => (world, none)
  | some newItem =>
    (((world.allocate newItem answers.inserted).setParent id false).disown id, some world.next)

/-- The item is taken from its place and put back on another layer. -/
def relayer (world : World) (id : Nat) (newId : UInt16) (newCount : Int) : World × Option Nat :=
  let world := if answers.taken then world.setParent id false else world
  let world := world.modifyItem id fun item =>
    let item := item.setID game newId
    if newCount ≠ -1 then item.setSubType game (.ofInt newCount) else item
  let world := world.addThing answers.added id
  if (world.held id).all fun held => !held.parented then (world.disown id, none)
  else (world, some id)

/-- The item keeps its place and gets its new type and count. -/
def changeInPlace (world : World) (id : Nat) (item : Item)
    (newId : UInt16) (newCount : Int) : World :=
  let curType := game.items item.id
  let newType := game.items newId
  let count := item.getSubType game
  let world :=
    if curType.id ≠ newType.id ∧ newType.group ≠ curType.group then
      world.modifyItem id (·.setDefaultSubtype game)
    else world
  let itemId := if curType.id ≠ newType.id then newId else item.id
  let count := if newCount ≠ -1 ∧ newType.hasSubType then .ofInt newCount else count
  if answers.updated then world.updateThing game id itemId count else world

/-- `Game::transformItem` of an item that is used up: its last count or charge. -/
def useUp (world : World) (id : Nat) (item : Item)
    (newId : UInt16) (again : World × Option Nat) : World × Option Nat :=
  let curType := game.items item.id
  if curType.stackable then (world.internalRemoveItem game answers id none, none)
  else
    let newItemId : Int :=
      if curType.id = (game.items newId).id then item.getDecayTo game else newId.toNat
    if newItemId < 0 then (world.internalRemoveItem game answers id none, none)
    else if newItemId ≠ newId.toNat then
      match replaceThing game answers world id (.ofInt newItemId) 1 with
      | (world, none) => (world, none)
      | (world, some newItem) =>
        if world.getDuration newItem > 0 ∧ ¬ world.Marked newItem then
          (world.pushToDecay newItem, some newItem)
        else (world, some newItem)
    else again

/-- The body of `Game::transformItem`, given what its call of itself does. -/
def transformItemBody (world : World) (id : Nat)
    (newId : UInt16) (again : World × Option Nat) (newCount : Int) : World × Option Nat :=
  match world.held id with
  | none => (world, none)
  | some held =>
    if held.item.id = newId ∧
        (newCount = -1 ∨ newCount = (held.item.getSubType game).toNat ∧ newCount ≠ 0) then
      (world, some id)
    else if !held.parented then (world, none)
    else if !answers.indexed then (world, some id)
    else if !answers.canTransform then (world, some id)
    else
      let newType := game.items newId
      if newType.id = 0 then (world, some id)
      else
        let curType := game.items held.item.id
        if curType.alwaysOnTop ≠ newType.alwaysOnTop then
          world.relayer game answers id newId newCount
        else if curType.type = newType.type then
          if newCount = 0 ∧ (curType.stackable ∨ held.item.hasAttribute .charges) then
            world.useUp game answers id held.item newId again
          else (world.changeInPlace game answers id held.item newId newCount, some id)
        else
          world.replaceThing game answers id newId (if newCount = -1 then 0 else .ofInt newCount)

/-- `Game::transformItem`. It calls itself at most once, then without a count. -/
def transformItem (game : Game) (answers : Answers) (world : World) (id : Nat) (newId : UInt16)
    (newCount : Int) : World × Option Nat :=
  transformItemBody game answers world id newId
    (transformItemBody game answers world id newId (world, some id) (-1)) newCount

/-! ## Decaying -/

/-- `Game::internalDecayItem`, given what `startDecay` does with the new item. -/
def internalDecayItem (game : Game) (answers : Answers) (next : World → Option Nat → World)
    (world : World) (id : Nat) : World :=
  match world.held id with
  | none => world
  | some held =>
    if (game.items held.item.id).decayTo ≠ 0 then
      let (world, newItem) :=
        world.transformItem game answers id (.ofInt (held.item.getDecayTo game)) (-1)
      next world newItem
    else world.internalRemoveItem game answers id none

/-- `Game::startDecay`. An item without a duration decays at once, and so may what it
decays to, to the depth given. -/
def startDecay (game : Game) : Nat → (Nat → Answers) → World → Option Nat → World
  | 0, _, world, _ => world
  | _ + 1, _, world, none => world
  | depth + 1, answers, world, some id =>
    if !world.canDecay game (answers 0).rooted id then world
    else if world.Marked id then world
    else if world.getDuration id > 0 then world.pushToDecay id
    else internalDecayItem game (answers 0)
      (startDecay game depth fun n => answers (n + 1)) world id

/-- `Game::internalDecayItem` of an item whose time is up. -/
def decay (visit : Visit) (world : World) (id : Nat) : World :=
  internalDecayItem game (visit.answers 0)
    (startDecay game visit.depth fun n => visit.answers (n + 1)) world id

/-- How much of its duration a check takes from an item. -/
def decreaseTime : Int := min 1000 item.getDuration.toInt32.toInt

/-- The duration after the check. -/
def remaining : Int := item.getDuration.toInt32.toInt - decreaseTime item

def newBucket (bucket : Fin 4) (duration : Int) : Fin 4 :=
  bucket + .ofNat 4 ((duration + 250 / 2) / 1000).toNat

/-- The loop of `Game::checkDecay` over the items of a bucket, of which some were kept
already. -/
def checkItems (game : Game) (visits : Nat → Visit) (bucket : Fin 4) :
    List Nat → List Nat → World → World
  | _, [], world => world
  | kept, id :: rest, world =>
    match world.held id with
    | none => checkItems game visits bucket (kept ++ [id]) rest world
    | some held =>
      let visit := visits id
      if !world.canDecay game (visit.answers 0).rooted id then
        let world := (world.modifyItem id (·.setDecaying .notDecaying)).releaseItem id
        checkItems game visits bucket kept rest (world.setBucket bucket (kept ++ rest))
      else
        let duration := remaining held.item
        let world := world.modifyItem id (·.decreaseDuration (decreaseTime held.item))
        if duration ≤ 0 then
          let world := world.setBucket bucket (kept ++ rest)
          checkItems game visits bucket kept rest ((world.decay game visit id).releaseItem id)
        else if duration < 1000 then
          let world := world.setBucket bucket (kept ++ rest)
          if newBucket bucket duration = bucket then
            checkItems game visits bucket kept rest ((world.decay game visit id).releaseItem id)
          else
            let after := newBucket bucket duration
            checkItems game visits bucket kept rest
              (world.setBucket after (world.decayItems after ++ [id]))
        else checkItems game visits bucket (kept ++ [id]) rest world

/-- `decrementReferenceCounter`. -/
def decrementReferenceCounter (world : World) (id : Nat) : World :=
  { world with
    held := Function.update world.held id ((world.held id).bind fun held =>
      if held.references = 1 then none else some { held with references := held.references - 1 }) }

/-- The bucket an item is filed in. -/
def bucketOf : Fin 4 :=
  let dur := world.getDuration id
  if dur ≥ 1000 then world.lastBucket
  else world.lastBucket + 1 + .ofNat 4 (dur.toNat / 1000)

/-- `Game::cleanup`. -/
def cleanup (world : World) : World :=
  let world := { world.toReleaseItems.foldl decrementReferenceCounter world with
    toReleaseItems := [] }
  let filed := world.queues.file world.bucketOf
  { world with toDecayItems := filed.pending, decayItems := filed.buckets }

/-- `Game::checkDecay`. -/
def checkDecay (game : Game) (visits : Nat → Visit) (world : World) : World :=
  let bucket := world.lastBucket + 1
  let world := checkItems game visits bucket [] (world.decayItems bucket) world
  { world with lastBucket := bucket }.cleanup

end World

end Otserv.Decay
