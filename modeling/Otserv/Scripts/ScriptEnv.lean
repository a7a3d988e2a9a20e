import Otserv.Foundation.Runs

/-!
# Script environments

A script runs in one of sixteen environments. Calling a script reserves the next one, and its
return resets it. An environment has a map of the numbers that its items are known by; the results
of queries and the temporary items are kept in maps that all environments share.

A result and an item are known by their addresses. A temporary item is new when it is added. Beside
the environments stand the number of those that are reserved and not yet reset, and what was
obtained inside each of them and not freed since: a result until it is removed, and the number of
an item until the item is removed or released. What transformations do with numbers is left out.
-/

namespace Otserv.Scripts

open Foundation

/-- The environments there are. -/
abbrev maxScriptEnv : Nat := 16

/-- From here on numbers are those of creatures. -/
abbrev firstCreatureUID : Nat := 268435456

/-- The numbers of the map's unique items end here. -/
abbrev lastUniqueId : Nat := 65535

structure ScriptEnvironment where
  localMap : List (Nat × Nat) := []
  lastUID : Nat := lastUniqueId
deriving DecidableEq

structure Item where
  /-- `Item::isRemoved`. -/
  isRemoved : Bool := false
  /-- The parent is the virtual cylinder. -/
  isVirtual : Bool := false
  uniqueId : Option Nat := none
deriving DecidableEq

inductive Thing where
  | item (item : Nat)
  | creature (creatureId : Nat)
deriving DecidableEq

/-- What was obtained inside an environment. -/
structure Frame where
  results : List (Nat × Nat) := []
  things : List (Nat × Nat) := []
  temps : List Nat := []
deriving DecidableEq

structure Lua where
  scriptEnvIndex : Int := -1
  scriptEnv : Nat → ScriptEnvironment := fun _ => {}
  tempResults : Nat → Option Nat := fun _ => none
  lastResultId : Nat := 0
  /-- The entries of an environment stand in the order they were added in. -/
  tempItems : List (Nat × Nat) := []
  items : Nat → Item := fun _ => {}
  uniqueItems : Nat → Option Nat := fun _ => none
  creatures : Nat → Bool := fun _ => false
  toReleaseItems : List Nat := []
  /-- The environments that are reserved and not yet reset. -/
  reserved : Nat := 0
  frames : Nat → Frame := fun _ => {}

namespace Lua

variable (lua : Lua)

/-- The environment of `getScriptEnv`. -/
def current : Nat := lua.scriptEnvIndex.toNat

variable (env : Nat)

def modifyEnv (change : ScriptEnvironment → ScriptEnvironment) : Lua :=
  { lua with
    scriptEnv := Function.update lua.scriptEnv env (change (lua.scriptEnv env)) }

variable (item : Nat)

def modifyItem (change : Item → Item) : Lua :=
  { lua with items := Function.update lua.items item (change (lua.items item)) }

/-- `LuaScriptInterface::reserveScriptEnv`. -/
def reserveScriptEnv : Bool × Lua :=
  let scriptEnvIndex := lua.scriptEnvIndex + 1
  (scriptEnvIndex < maxScriptEnv, { lua with scriptEnvIndex := scriptEnvIndex })

/-- The items that `ScriptEnvironment::resetEnv` releases. -/
def released : List Nat :=
  ((lua.tempItems.filter fun entry => entry.1 = env).map Prod.snd).filter fun item =>
    (lua.items item).isVirtual

/-- `ScriptEnvironment::resetEnv`. -/
def resetEnv (env : Nat) : Lua :=
  { lua.modifyEnv env fun environment => { environment with localMap := [] } with
    tempResults := fun _ => none
    tempItems := lua.tempItems.filter fun entry => entry.1 ≠ env
    toReleaseItems := lua.toReleaseItems ++ lua.released env }

/-- `LuaScriptInterface::resetScriptEnv`. -/
def resetScriptEnv : Lua :=
  { lua.resetEnv lua.current with scriptEnvIndex := lua.scriptEnvIndex - 1 }

/-- `ScriptEnvironment::addResult`, whose counter has thirty-two bits. -/
def addResult (result : Nat) : Nat × Lua :=
  let lastResultId := (lua.lastResultId + 1) % 2 ^ 32
  (lastResultId, { lua with
    lastResultId := lastResultId
    tempResults := Function.update lua.tempResults lastResultId (some result) })

/-- `ScriptEnvironment::removeResult`. -/
def removeResult (id : Nat) : Lua :=
  { lua with tempResults := Function.update lua.tempResults id none }

def getResultByID (id : Nat) : Option Nat := lua.tempResults id

/-- `ScriptEnvironment::addTempItem`. -/
def addTempItem (item : Nat) : Lua :=
  { lua with tempItems := lua.tempItems ++ [(lua.current, item)] }

/-- `ScriptEnvironment::removeTempItem`. -/
def removeTempItem (item : Nat) : Lua :=
  { lua with tempItems := lua.tempItems.eraseP fun entry => entry.2 = item }

/-- The end of `ScriptEnvironment::addThing`: an item gets the next number. -/
def number (item : Nat) : Nat × Lua :=
  let lastUID := ((lua.scriptEnv lua.current).lastUID + 1) % 2 ^ 32
  (lastUID, lua.modifyEnv lua.current fun environment =>
    { localMap := (lastUID, item) :: environment.localMap.filter fun entry => entry.1 ≠ lastUID
      lastUID := lastUID })

/-- `ScriptEnvironment::addThing` of an item. -/
def addThing (item : Nat) : Nat × Lua :=
  if (lua.items item).isRemoved then (0, lua)
  else match (lua.items item).uniqueId with
    | some uniqueId => (uniqueId, lua)
    | none =>
      match (lua.scriptEnv lua.current).localMap.find? fun entry => entry.2 = item with
      | some entry => (entry.1, lua)
      | none => lua.number item

/-- An item that is not removed. -/
def present : Option Thing :=
  if (lua.items item).isRemoved then none else some (.item item)

/-- `ScriptEnvironment::getThingByUID`. -/
def getThingByUID (env uid : Nat) : Option Thing :=
  if firstCreatureUID ≤ uid then if lua.creatures uid then some (.creature uid) else none
  else if uid ≤ lastUniqueId then (lua.uniqueItems uid).bind lua.present
  else
    ((lua.scriptEnv env).localMap.find? fun entry => entry.1 = uid).bind fun entry =>
      lua.present entry.2

/-- `Item::setUniqueId`, with `Game::addUniqueItem`. -/
def setUniqueId (item uniqueId : Nat) : Lua :=
  if (lua.items item).uniqueId.isSome || (lua.uniqueItems uniqueId).isSome then lua
  else
    { lua.modifyItem item fun item => { item with uniqueId := some uniqueId } with
      uniqueItems := Function.update lua.uniqueItems uniqueId (some item) }

/-- `Game::removeUniqueItem`, for an item that has a number. -/
def removeUniqueItem (uniqueId : Option Nat) : Lua :=
  match uniqueId with
  | none => lua
  | some uniqueId =>
    { lua with uniqueItems := Function.update lua.uniqueItems uniqueId none }

/-- An item is removed from the game: `Item::onRemoved` and `Game::ReleaseItem`. -/
def removeItem : Lua :=
  let lua := lua.modifyItem item fun item =>
    { item with isRemoved := true, isVirtual := false }
  let lua := (lua.removeTempItem item).removeUniqueItem (lua.items item).uniqueId
  { lua with toReleaseItems := lua.toReleaseItems ++ [item] }

/-! ## What is obtained and freed -/

def modifyFrame (change : Frame → Frame) : Lua :=
  { lua with frames := Function.update lua.frames env (change (lua.frames env)) }

/-- The result is freed, wherever it was obtained. -/
def freeResult (id : Nat) : Lua :=
  { lua with
    frames := fun env =>
      { lua.frames env with
        results := (lua.frames env).results.filter fun entry => entry.1 ≠ id } }

def freeThings (freed : Nat → Bool) : Lua :=
  { lua with
    frames := fun env =>
      { lua.frames env with
        things := (lua.frames env).things.filter fun entry => !freed entry.2 } }

/-- The item is temporary no more. -/
def freeTemp : Lua :=
  { lua with
    frames := fun env =>
      { lua.frames env with temps := (lua.frames env).temps.filter (· ≠ item) } }

/-- The environment of the script that runs. -/
def top : Nat := lua.reserved - 1

end Lua

inductive ScriptOp where
  | reserveScriptEnv
  | resetScriptEnv
  | addResult (result : Nat)
  | removeResult (id : Nat)
  | addTempItem (item : Nat)
  | removeTempItem (item : Nat)
  | addThing (item : Nat)
  | setUniqueId (item uniqueId : Nat)
  /-- The item comes into the virtual cylinder, or from there to another place. -/
  | setParent (item : Nat) (isVirtual : Bool)
  | removeItem (item : Nat)
  /-- What the item is in is removed from the game. -/
  | loseItem (item : Nat)

namespace ScriptOp

/-- A script asks while its environment is reserved; items that were released are not used any
more; and an item that gets temporary is new. -/
def Legal (lua : Lua) : ScriptOp → Prop
  | reserveScriptEnv | removeResult _ | removeTempItem _ => True
  | resetScriptEnv | addResult _ => 0 < lua.reserved
  | addTempItem item =>
    0 < lua.reserved ∧ item ∉ lua.tempItems.map Prod.snd ∧ item ∉ lua.toReleaseItems
  | addThing item => 0 < lua.reserved ∧ item ∉ lua.toReleaseItems
  | setUniqueId item uniqueId =>
    uniqueId ≤ lastUniqueId ∧ (lua.items item).isRemoved = false ∧
      item ∉ lua.toReleaseItems
  | setParent item _ | removeItem item =>
    (lua.items item).isRemoved = false ∧ item ∉ lua.toReleaseItems
  | loseItem item => (lua.items item).isVirtual = false ∧ item ∉ lua.toReleaseItems

instance decidableLegal (lua : Lua) : ∀ op, Decidable (Legal lua op)
  | reserveScriptEnv | removeResult _ | removeTempItem _ => .isTrue trivial
  | resetScriptEnv | addResult _ => inferInstanceAs (Decidable (_ < _))
  | addTempItem _ | setUniqueId _ _ => inferInstanceAs (Decidable (_ ∧ _ ∧ _))
  | addThing _ | setParent _ _ | removeItem _ | loseItem _ => inferInstanceAs (Decidable (_ ∧ _))

/-- A reservation that is refused is not one, and no reset belongs to it. -/
def apply (lua : Lua) : ScriptOp → Lua
  | reserveScriptEnv =>
    let (granted, after) := lua.reserveScriptEnv
    if granted then
      { after.modifyFrame lua.reserved fun _ => {} with reserved := lua.reserved + 1 }
    else after
  | resetScriptEnv =>
    let freed := lua.released lua.current
    { lua.resetScriptEnv.freeThings fun item => item ∈ freed with
      reserved := lua.reserved - 1 }
  | addResult result =>
    let (id, after) := lua.addResult result
    after.modifyFrame lua.top fun frame =>
      { frame with results := (id, result) :: frame.results }
  | removeResult id => (lua.removeResult id).freeResult id
  | addTempItem item =>
    (lua.addTempItem item).modifyFrame lua.top fun frame =>
      { frame with temps := frame.temps ++ [item] }
  | removeTempItem item => (lua.removeTempItem item).freeTemp item
  | addThing item =>
    let (uid, after) := lua.addThing item
    if (lua.items item).isRemoved then after
    else after.modifyFrame lua.top fun frame =>
      { frame with things := (uid, item) :: frame.things }
  | setUniqueId item uniqueId => lua.setUniqueId item uniqueId
  | setParent item isVirtual =>
    lua.modifyItem item fun item => { item with isVirtual := isVirtual }
  | removeItem item =>
    ((lua.removeItem item).freeThings (· = item)).freeTemp item
  | loseItem item =>
    (lua.modifyItem item fun item => { item with isRemoved := true }).freeThings (· = item)

end ScriptOp

def scriptSystem : System Lua ScriptOp where
  legal := ScriptOp.Legal
  step := ScriptOp.apply

instance (lua : Lua) (op : ScriptOp) : Decidable (scriptSystem.legal lua op) :=
  ScriptOp.decidableLegal lua op

end Otserv.Scripts
