import Otserv.Scripts.ScriptEnv

/-!
# Script environments over whole runs

The index should count the environments that are reserved, a reservation that is refused leave it,
what was obtained inside an environment stay valid until it is freed or the environment is reset,
and a temporary item be released once, at the reset of its environment, where it is still in the
virtual cylinder then (`Isolated`).

The index is raised by the reservation that is refused too. A reset clears the results of all
environments, not only of its own. And the counters of numbers are never set back: a number that
reaches those of creatures is not found any more, and the number of a result comes again after all
others (`script_environments_iff`).
-/

namespace Otserv.Scripts

open Foundation
open Function (update update_of_ne update_self)

structure Sound (lua : Lua) : Prop where
  balanced : lua.scriptEnvIndex + 1 = lua.reserved
  bounded : lua.reserved ≤ maxScriptEnv
  results : ∀ env < lua.reserved, ∀ entry ∈ (lua.frames env).results,
    lua.getResultByID entry.1 = some entry.2
  things : ∀ env < lua.reserved, ∀ entry ∈ (lua.frames env).things,
    lua.getThingByUID env entry.1 = some (.item entry.2)

/-- The items that a step should release: at a reset those temporary items of the environment that
are in the virtual cylinder. -/
def ScriptOp.releases (lua : Lua) : ScriptOp → List Nat
  | .resetScriptEnv =>
    (lua.frames lua.top).temps.filter fun item => (lua.items item).isVirtual
  | .removeItem item => [item]
  | .reserveScriptEnv | .addResult _ | .removeResult _ | .addTempItem _ | .removeTempItem _
  | .addThing _ | .setUniqueId _ _ | .setParent _ _ | .loseItem _ => []

structure Isolated (before : Lua) (op : ScriptOp) (after : Lua) : Prop extends Sound after where
  refused : op = .reserveScriptEnv → before.reserveScriptEnv.1 = false →
    after.scriptEnvIndex = before.scriptEnvIndex
  released : after.toReleaseItems = before.toReleaseItems ++ op.releases before
  once : after.toReleaseItems.Nodup

/-- There is an environment to reserve, no outer environment has a result at a reset, and the
counters do not run over. -/
def Sparing (lua : Lua) : ScriptOp → Prop
  | .reserveScriptEnv => lua.reserved < maxScriptEnv
  | .resetScriptEnv => ∀ env < lua.top, (lua.frames env).results = []
  | .addResult result =>
    ∀ env < lua.reserved, ∀ entry ∈ (lua.frames env).results,
      entry.1 = (lua.lastResultId + 1) % 2 ^ 32 → entry.2 = result
  | .addThing item =>
    (lua.items item).isRemoved = false → (lua.items item).uniqueId = none →
      (∀ entry ∈ (lua.scriptEnv lua.current).localMap, entry.2 ≠ item) →
        (lua.scriptEnv lua.current).lastUID + 1 < firstCreatureUID
  | .removeResult _ | .addTempItem _ | .removeTempItem _ | .setUniqueId _ _ | .setParent _ _
  | .removeItem _ | .loseItem _ => True

/-! ## The invariant -/

/-- The numbers of items, inside the environments and of the map. -/
structure Numbered (lua : Lua) : Prop where
  counter : ∀ env, lastUniqueId ≤ (lua.scriptEnv env).lastUID ∧
    (lua.scriptEnv env).lastUID < firstCreatureUID
  numbers : ∀ env, ∀ entry ∈ (lua.scriptEnv env).localMap,
    lastUniqueId < entry.1 ∧ entry.1 ≤ (lua.scriptEnv env).lastUID
  graph : ∀ env, ∀ entry ∈ (lua.scriptEnv env).localMap, ∀ other ∈ (lua.scriptEnv env).localMap,
    entry.1 = other.1 → entry = other
  unique : ∀ item uniqueId, (lua.items item).uniqueId = some uniqueId →
    uniqueId ≤ lastUniqueId ∧
      ((lua.items item).isRemoved = false → lua.uniqueItems uniqueId = some item)

/-- The temporary items, and those that are released. -/
structure Kept (lua : Lua) : Prop where
  temps : ∀ env < lua.reserved,
    (lua.tempItems.filter fun entry => entry.1 = env).map Prod.snd = (lua.frames env).temps
  idle : ∀ entry ∈ lua.tempItems, entry.1 < lua.reserved
  distinct : (lua.tempItems.map Prod.snd).Nodup
  waiting : ∀ entry ∈ lua.tempItems, entry.2 ∉ lua.toReleaseItems
  once : lua.toReleaseItems.Nodup

structure Invariant (lua : Lua) : Prop extends Sound lua, Numbered lua, Kept lua

section Numbers

variable {lua : Lua} {env uid item : Nat}

theorem present_eq_some {thing : Thing} :
    lua.present item = some thing ↔ (lua.items item).isRemoved = false ∧ thing = .item item := by
  rw [Lua.present]
  split
  · rename_i removed
    simp [removed]
  · rename_i there
    simp [there, eq_comm]

theorem getThingByUID_iff
    (graph : ∀ entry ∈ (lua.scriptEnv env).localMap, ∀ other ∈ (lua.scriptEnv env).localMap,
      entry.1 = other.1 → entry = other) :
    lua.getThingByUID env uid = some (.item item) ↔
      uid < firstCreatureUID ∧ (lua.items item).isRemoved = false ∧
        (uid ≤ lastUniqueId ∧ lua.uniqueItems uid = some item ∨
          lastUniqueId < uid ∧ (uid, item) ∈ (lua.scriptEnv env).localMap) := by
  rw [Lua.getThingByUID]
  by_cases isCreature : firstCreatureUID ≤ uid
  · have none : ¬uid < firstCreatureUID := Nat.not_lt.mpr isCreature
    split
    · simp [none]
    · simp [none]
  · rw [if_neg isCreature]
    have low := Nat.not_le.mp isCreature
    by_cases isUnique : uid ≤ lastUniqueId
    · rw [if_pos isUnique, Option.bind_eq_some_iff]
      constructor
      · rintro ⟨found, here, there⟩
        obtain ⟨stays, same⟩ := present_eq_some.mp there
        obtain rfl := Thing.item.inj same
        exact ⟨low, stays, .inl ⟨isUnique, here⟩⟩
      · rintro ⟨-, there, ⟨-, here⟩ | ⟨high, -⟩⟩
        · exact ⟨item, here, present_eq_some.mpr ⟨there, rfl⟩⟩
        · exact absurd isUnique (Nat.not_le.mpr high)
    · rw [if_neg isUnique, Option.bind_eq_some_iff]
      constructor
      · rintro ⟨entry, here, there⟩
        obtain ⟨stays, same⟩ := present_eq_some.mp there
        obtain rfl := Thing.item.inj same
        have number := List.find?_some here
        obtain rfl : entry.1 = uid := by simpa using number
        exact ⟨low, stays, .inr ⟨Nat.not_le.mp isUnique, List.mem_of_find?_eq_some here⟩⟩
      · rintro ⟨-, there, ⟨least, -⟩ | ⟨-, member⟩⟩
        · exact absurd least isUnique
        · cases found : (lua.scriptEnv env).localMap.find? fun entry => entry.1 = uid with
          | none => simpa using List.find?_eq_none.mp found _ member
          | some entry =>
            have number := List.find?_some found
            obtain rfl : entry = (uid, item) :=
              graph entry (List.mem_of_find?_eq_some found) _ member (by simpa using number)
            exact ⟨_, rfl, present_eq_some.mpr ⟨there, rfl⟩⟩

/-- The script that runs has the last environment. -/
theorem current_eq (balanced : lua.scriptEnvIndex + 1 = lua.reserved) : lua.current = lua.top := by
  rw [Lua.current, Lua.top]
  omega

theorem frames_modifyFrame (change : Frame → Frame) (each : Nat) :
    (lua.modifyFrame env change).frames each =
      if each = env then change (lua.frames each) else lua.frames each := by
  by_cases same : each = env
  · subst same
    rw [if_pos rfl]
    exact update_self ..
  · rw [if_neg same]
    exact update_of_ne same ..

theorem scriptEnv_modifyEnv (change : ScriptEnvironment → ScriptEnvironment) (each : Nat) :
    (lua.modifyEnv env change).scriptEnv each =
      if each = env then change (lua.scriptEnv each) else lua.scriptEnv each := by
  by_cases same : each = env
  · subst same
    rw [if_pos rfl]
    exact update_self ..
  · rw [if_neg same]
    exact update_of_ne same ..

theorem items_modifyItem (change : Item → Item) (each : Nat) :
    (lua.modifyItem item change).items each =
      if each = item then change (lua.items each) else lua.items each := by
  by_cases same : each = item
  · subst same
    rw [if_pos rfl]
    exact update_self ..
  · rw [if_neg same]
    exact update_of_ne same ..

end Numbers

/-! ## Reserving and resetting -/

section Nesting

variable {lua : Lua}

/-- What was obtained stays valid in a state that answers the same. -/
theorem Sound.congr (sound : Sound lua) {after : Lua}
    (balanced : after.scriptEnvIndex + 1 = after.reserved)
    (reserved : after.reserved ≤ lua.reserved)
    (results : ∀ env < after.reserved, ∀ entry ∈ (after.frames env).results,
      entry ∈ (lua.frames env).results ∧
        after.getResultByID entry.1 = lua.getResultByID entry.1)
    (things : ∀ env < after.reserved, ∀ entry ∈ (after.frames env).things,
      entry ∈ (lua.frames env).things ∧
        (lua.getThingByUID env entry.1 = some (.item entry.2) →
          after.getThingByUID env entry.1 = some (.item entry.2))) : Sound after where
  balanced := balanced
  bounded := Nat.le_trans reserved sound.bounded
  results env below entry member := by
    obtain ⟨old, same⟩ := results env below entry member
    rw [same]
    exact sound.results env (Nat.lt_of_lt_of_le below reserved) entry old
  things env below entry member := by
    obtain ⟨old, same⟩ := things env below entry member
    exact same (sound.things env (Nat.lt_of_lt_of_le below reserved) entry old)

theorem reserveScriptEnv_iff (balanced : lua.scriptEnvIndex + 1 = lua.reserved) :
    lua.reserveScriptEnv.1 = true ↔ lua.reserved < maxScriptEnv := by
  rw [Lua.reserveScriptEnv, decide_eq_true_iff]
  omega

theorem invariant_reserve (invariant : Invariant lua) (room : lua.reserved < maxScriptEnv) :
    Invariant (ScriptOp.reserveScriptEnv.apply lua) := by
  have after : ScriptOp.reserveScriptEnv.apply lua =
      { lua.reserveScriptEnv.2.modifyFrame lua.reserved fun _ => {} with
        reserved := lua.reserved + 1 } :=
    if_pos ((reserveScriptEnv_iff invariant.balanced).mpr room)
  rw [after]
  have frames (env : Nat) : (lua.modifyFrame lua.reserved fun _ => {}).frames env =
      if env = lua.reserved then {} else lua.frames env := frames_modifyFrame _ env
  have old {env : Nat} (below : env < lua.reserved + 1) (other : env ≠ lua.reserved) :
      env < lua.reserved := by omega
  refine ⟨⟨?_, room, ?_, ?_⟩,
    ⟨invariant.counter, invariant.numbers, invariant.graph, invariant.unique⟩,
    ⟨?_, ?_, invariant.distinct, invariant.waiting, invariant.once⟩⟩
  · have balanced := invariant.balanced
    change lua.scriptEnvIndex + 1 + 1 = ((lua.reserved + 1 : Nat) : Int)
    omega
  · intro env below entry member
    change entry ∈ ((lua.modifyFrame lua.reserved fun _ => {}).frames env).results at member
    rw [frames] at member
    split at member
    · cases member
    · rename_i other
      exact invariant.results env (old below other) entry member
  · intro env below entry member
    change entry ∈ ((lua.modifyFrame lua.reserved fun _ => {}).frames env).things at member
    rw [frames] at member
    split at member
    · cases member
    · rename_i other
      exact invariant.things env (old below other) entry member
  · intro env below
    change _ = ((lua.modifyFrame lua.reserved fun _ => {}).frames env).temps
    rw [frames]
    split
    · rename_i new
      have none : (lua.tempItems.filter fun entry => entry.1 = env) = [] := by
        refine List.filter_eq_nil_iff.mpr fun entry member => ?_
        have earlier := invariant.idle entry member
        simp only [decide_eq_true_eq]
        omega
      exact congrArg (List.map Prod.snd) none
    · rename_i other
      exact invariant.temps env (old below other)
  · intro entry member
    exact Nat.lt_succ_of_lt (invariant.idle entry member)

theorem isolated_reserve_iff (invariant : Invariant lua) :
    Isolated lua .reserveScriptEnv (ScriptOp.reserveScriptEnv.apply lua) ↔
      Sparing lua .reserveScriptEnv := by
  constructor
  · intro isolated
    by_contra full
    have refused : lua.reserveScriptEnv.1 = false := by
      rw [← Bool.not_eq_true, reserveScriptEnv_iff invariant.balanced]
      exact full
    have after : ScriptOp.reserveScriptEnv.apply lua = lua.reserveScriptEnv.2 :=
      if_neg fun granted => Bool.false_ne_true (refused.symm.trans granted)
    have stays := isolated.refused rfl refused
    rw [after] at stays
    change lua.scriptEnvIndex + 1 = lua.scriptEnvIndex at stays
    omega
  · intro room
    have next := invariant_reserve invariant room
    have granted := (reserveScriptEnv_iff invariant.balanced).mpr room
    refine ⟨next.toSound, fun _ refused => ?_, ?_, next.once⟩
    · rw [granted] at refused
      cases refused
    · have after : ScriptOp.reserveScriptEnv.apply lua =
          { lua.reserveScriptEnv.2.modifyFrame lua.reserved fun _ => {} with
            reserved := lua.reserved + 1 } := if_pos granted
      rw [after, ScriptOp.releases, List.append_nil]
      rfl

/-- The temporary items of the environment, as they are kept. -/
theorem released_eq (invariant : Invariant lua) (legal : 0 < lua.reserved) :
    lua.released lua.current = ScriptOp.resetScriptEnv.releases lua := by
  have below : lua.top < lua.reserved := by
    rw [Lua.top]
    omega
  rw [current_eq invariant.balanced, Lua.released, invariant.temps lua.top below]
  rfl

theorem mem_released {env item : Nat} (freed : item ∈ lua.released env) :
    ∃ entry ∈ lua.tempItems, entry.1 = env ∧ entry.2 = item := by
  obtain ⟨entry, member, same⟩ := List.mem_map.mp (List.mem_filter.mp freed).1
  obtain ⟨member, own⟩ := List.mem_filter.mp member
  exact ⟨entry, member, by simpa using own, same⟩

theorem kept_reset (invariant : Invariant lua) (legal : 0 < lua.reserved) :
    Kept (ScriptOp.resetScriptEnv.apply lua) := by
  have current := current_eq invariant.balanced
  have top : lua.top = lua.reserved - 1 := rfl
  refine ⟨fun env below => ?_, fun entry member => ?_, ?_, fun entry member => ?_, ?_⟩
  · change env < lua.reserved - 1 at below
    change ((lua.tempItems.filter fun entry => entry.1 ≠ lua.current).filter
      fun entry => entry.1 = env).map Prod.snd = (lua.frames env).temps
    rw [List.filter_filter, ← invariant.temps env (by omega)]
    congr 1
    refine List.filter_congr fun entry _ => ?_
    by_cases same : entry.1 = env
    · have other : entry.1 ≠ lua.current := by omega
      simp [same, same ▸ other]
    · simp [same]
  · obtain ⟨member, other⟩ := List.mem_filter.mp member
    have earlier := invariant.idle entry member
    have other : entry.1 ≠ lua.current := by simpa using other
    change entry.1 < lua.reserved - 1
    omega
  · exact invariant.distinct.sublist (List.filter_sublist.map _)
  · obtain ⟨member, other⟩ := List.mem_filter.mp member
    have other : entry.1 ≠ lua.current := by simpa using other
    change entry.2 ∉ lua.toReleaseItems ++ lua.released lua.current
    rw [List.mem_append, not_or]
    refine ⟨invariant.waiting entry member, fun freed => ?_⟩
    obtain ⟨twin, among, own, same⟩ := mem_released freed
    rw [List.inj_on_of_nodup_map invariant.distinct among member same] at own
    exact other own
  · refine invariant.once.append ?_ ?_
    · exact (invariant.distinct.sublist (List.filter_sublist.map _)).sublist List.filter_sublist
    · intro item already freed
      obtain ⟨entry, member, -, rfl⟩ := mem_released freed
      exact invariant.waiting entry member already

theorem scriptEnv_reset (env : Nat) : (ScriptOp.resetScriptEnv.apply lua).scriptEnv env =
    if env = lua.current then { lua.scriptEnv env with localMap := [] } else lua.scriptEnv env := by
  change (lua.modifyEnv lua.current fun environment =>
    { environment with localMap := [] }).scriptEnv env = _
  exact scriptEnv_modifyEnv _ env

theorem numbered_reset (invariant : Invariant lua) :
    Numbered (ScriptOp.resetScriptEnv.apply lua) := by
  refine ⟨fun env => ?_, fun env entry member => ?_, fun env entry member other among => ?_,
    invariant.unique⟩
  · rw [scriptEnv_reset]
    have bounds := invariant.counter env
    split
    · exact bounds
    · exact bounds
  · rw [scriptEnv_reset] at member ⊢
    split at member
    · cases member
    · rename_i apart
      rw [if_neg apart]
      exact invariant.numbers env entry member
  · rw [scriptEnv_reset] at member among
    split at member
    · cases member
    · rename_i apart
      rw [if_neg apart] at among
      exact invariant.graph env entry member other among

theorem sound_reset_iff (invariant : Invariant lua) (legal : 0 < lua.reserved) :
    Sound (ScriptOp.resetScriptEnv.apply lua) ↔ Sparing lua .resetScriptEnv := by
  have current := current_eq invariant.balanced
  have top : lua.top = lua.reserved - 1 := rfl
  constructor
  · intro sound env below
    refine List.eq_nil_iff_forall_not_mem.mpr fun entry member => ?_
    have valid := sound.results env (show env < lua.reserved - 1 by omega) entry member
    cases valid
  · intro none
    refine invariant.toSound.congr ?_ (Nat.sub_le ..) (fun env below entry member => ?_)
      fun env below entry member => ?_
    · have balanced := invariant.balanced
      change lua.scriptEnvIndex - 1 + 1 = ((lua.reserved - 1 : Nat) : Int)
      omega
    · change env < lua.reserved - 1 at below
      change entry ∈ (lua.frames env).results at member
      rw [none env (by omega)] at member
      cases member
    · change env < lua.reserved - 1 at below
      refine ⟨(List.mem_filter.mp member).1, fun valid => ?_⟩
      have envs : (ScriptOp.resetScriptEnv.apply lua).scriptEnv env = lua.scriptEnv env := by
        refine (scriptEnv_reset env).trans (if_neg ?_)
        omega
      rw [getThingByUID_iff (invariant.graph env)] at valid
      rw [getThingByUID_iff (envs ▸ invariant.graph env), envs]
      exact valid

end Nesting

/-! ## Results -/

section Results

variable {lua : Lua}

theorem sound_addResult_iff (invariant : Invariant lua) {result : Nat} :
    Sound ((ScriptOp.addResult result).apply lua) ↔ Sparing lua (.addResult result) := by
  have frames (env : Nat) : (((ScriptOp.addResult result).apply lua).frames env) =
      if env = lua.top then { lua.frames env with
        results := ((lua.lastResultId + 1) % 2 ^ 32, result) :: (lua.frames env).results }
      else lua.frames env := by
    change ((lua.addResult result).2.modifyFrame lua.top fun frame => { frame with
      results := ((lua.lastResultId + 1) % 2 ^ 32, result) :: frame.results }).frames env = _
    exact frames_modifyFrame _ env
  have self : ((ScriptOp.addResult result).apply lua).getResultByID
      ((lua.lastResultId + 1) % 2 ^ 32) = some result :=
    update_self ..
  have others {id : Nat} (other : id ≠ (lua.lastResultId + 1) % 2 ^ 32) :
      ((ScriptOp.addResult result).apply lua).getResultByID id = lua.getResultByID id :=
    update_of_ne other ..
  constructor
  · intro sound env below entry member same
    have still : entry ∈ (((ScriptOp.addResult result).apply lua).frames env).results := by
      rw [frames]
      split
      · exact List.mem_cons_of_mem _ member
      · exact member
    have valid := sound.results env below entry still
    rw [same, self] at valid
    exact (Option.some.inj valid).symm
  · intro sparing
    refine ⟨invariant.balanced, invariant.bounded, fun env below entry member => ?_,
      fun env below entry member => ?_⟩
    · have known : entry = ((lua.lastResultId + 1) % 2 ^ 32, result) ∨
          entry ∈ (lua.frames env).results := by
        rw [frames] at member
        split at member
        · exact List.mem_cons.mp member
        · exact .inr member
      rcases known with rfl | old
      · exact self
      · by_cases same : entry.1 = (lua.lastResultId + 1) % 2 ^ 32
        · rw [same, self, sparing env below entry old same]
        · rw [others same]
          exact invariant.results env below entry old
    · rw [frames] at member
      have old : entry ∈ (lua.frames env).things := by
        split at member
        · exact member
        · exact member
      exact invariant.things env below entry old

theorem Kept.of_frames (kept : Kept lua) {after : Lua} (reserved : after.reserved = lua.reserved)
    (tempItems : after.tempItems = lua.tempItems)
    (toReleaseItems : after.toReleaseItems = lua.toReleaseItems)
    (temps : ∀ env, (after.frames env).temps = (lua.frames env).temps) : Kept after := by
  refine ⟨fun env below => ?_, ?_, ?_, ?_, ?_⟩
  · rw [tempItems, temps]
    exact kept.temps env (reserved ▸ below)
  · rw [tempItems, reserved]
    exact kept.idle
  · rw [tempItems]
    exact kept.distinct
  · rw [tempItems, toReleaseItems]
    exact kept.waiting
  · rw [toReleaseItems]
    exact kept.once

theorem temps_modifyFrame {env : Nat} {change : Frame → Frame}
    (keeps : ∀ frame, (change frame).temps = frame.temps) (each : Nat) :
    ((lua.modifyFrame env change).frames each).temps = (lua.frames each).temps := by
  rw [frames_modifyFrame]
  split
  · exact keeps _
  · rfl

theorem invariant_addResult (invariant : Invariant lua) {result : Nat}
    (sound : Sound ((ScriptOp.addResult result).apply lua)) :
    Invariant ((ScriptOp.addResult result).apply lua) := by
  refine ⟨sound, ⟨invariant.counter, invariant.numbers, invariant.graph, invariant.unique⟩,
    invariant.toKept.of_frames rfl rfl rfl fun env => ?_⟩
  change (((lua.addResult result).2.modifyFrame lua.top fun frame => { frame with
    results := ((lua.lastResultId + 1) % 2 ^ 32, result) :: frame.results }).frames env).temps = _
  rw [temps_modifyFrame]
  · rfl
  · intro frame
    rfl

theorem invariant_removeResult (invariant : Invariant lua) (id : Nat) :
    Invariant ((ScriptOp.removeResult id).apply lua) := by
  refine ⟨invariant.toSound.congr invariant.balanced (Nat.le_refl _) (fun env _ entry member => ?_)
    fun env _ entry member => ⟨member, fun valid => valid⟩,
    ⟨invariant.counter, invariant.numbers, invariant.graph, invariant.unique⟩,
    invariant.toKept.of_frames rfl rfl rfl fun _ => rfl⟩
  obtain ⟨old, other⟩ := List.mem_filter.mp member
  exact ⟨old, update_of_ne (by simpa using other) ..⟩

end Results

/-! ## Temporary items -/

section TempItems

variable {lua : Lua} {item : Nat}

theorem eraseP_eq_filter {entries : List (Nat × Nat)} (distinct : (entries.map Prod.snd).Nodup) :
    entries.eraseP (fun entry => entry.2 = item) =
      entries.filter fun entry => entry.2 ≠ item := by
  induction entries with
  | nil => rfl
  | cons entry entries ih =>
    rw [List.map_cons, List.nodup_cons] at distinct
    by_cases here : entry.2 = item
    · rw [List.eraseP_cons_of_pos (by simpa using here),
        List.filter_cons_of_neg (by simpa using here), eq_comm, List.filter_eq_self]
      intro other member
      have apart : other.2 ≠ entry.2 := fun same =>
        distinct.1 (same ▸ List.mem_map_of_mem member)
      simpa [here] using apart
    · rw [List.eraseP_cons_of_neg (by simpa using here),
        List.filter_cons_of_pos (by simpa using here), ih distinct.2]

theorem invariant_addTempItem (invariant : Invariant lua)
    (legal : (ScriptOp.addTempItem item).Legal lua) :
    Invariant ((ScriptOp.addTempItem item).apply lua) := by
  obtain ⟨running, new, unreleased⟩ := legal
  have current := current_eq invariant.balanced
  have top : lua.top < lua.reserved := Nat.sub_lt running Nat.one_pos
  have frames (env : Nat) : (((ScriptOp.addTempItem item).apply lua).frames env) =
      if env = lua.top then { lua.frames env with temps := (lua.frames env).temps ++ [item] }
      else lua.frames env := by
    change ((lua.addTempItem item).modifyFrame lua.top fun frame => { frame with
      temps := frame.temps ++ [item] }).frames env = _
    exact frames_modifyFrame _ env
  have obtained (env : Nat) : (((ScriptOp.addTempItem item).apply lua).frames env).results =
        (lua.frames env).results ∧
      (((ScriptOp.addTempItem item).apply lua).frames env).things = (lua.frames env).things := by
    rw [frames]
    split
    · exact ⟨rfl, rfl⟩
    · exact ⟨rfl, rfl⟩
  refine ⟨invariant.toSound.congr invariant.balanced (Nat.le_refl _) (fun env _ entry member => ?_)
    fun env _ entry member => ?_,
    ⟨invariant.counter, invariant.numbers, invariant.graph, invariant.unique⟩,
    ⟨fun env below => ?_, fun entry member => ?_, ?_, fun entry member => ?_, invariant.once⟩⟩
  · exact ⟨(obtained env).1 ▸ member, rfl⟩
  · exact ⟨(obtained env).2 ▸ member, fun valid => valid⟩
  · change ((lua.tempItems ++ [(lua.current, item)]).filter fun entry => entry.1 = env).map
      Prod.snd = _
    rw [frames, List.filter_append, List.map_append, invariant.temps env below, current]
    by_cases same : env = lua.top
    · simp [same]
    · rw [if_neg same]
      simp [Ne.symm same]
  · rcases List.mem_append.mp member with old | added
    · exact invariant.idle entry old
    · rw [List.mem_singleton.mp added, current]
      exact top
  · change ((lua.tempItems ++ [(lua.current, item)]).map Prod.snd).Nodup
    rw [List.map_append]
    exact invariant.distinct.append (List.nodup_singleton item)
      (List.disjoint_singleton.mpr new)
  · rcases List.mem_append.mp member with old | added
    · exact invariant.waiting entry old
    · rw [List.mem_singleton.mp added]
      exact unreleased

/-- An item is temporary no more. -/
theorem Kept.free (kept : Kept lua) {after : Lua} (reserved : after.reserved = lua.reserved)
    (tempItems : after.tempItems = lua.tempItems.eraseP fun entry => entry.2 = item)
    (temps : ∀ env, (after.frames env).temps = (lua.frames env).temps.filter (· ≠ item))
    (toReleaseItems : after.toReleaseItems = lua.toReleaseItems ∨
      item ∉ lua.toReleaseItems ∧ after.toReleaseItems = lua.toReleaseItems ++ [item]) :
    Kept after := by
  rw [eraseP_eq_filter kept.distinct] at tempItems
  refine ⟨fun env below => ?_, fun entry member => ?_, ?_, fun entry member => ?_, ?_⟩
  · rw [tempItems, temps, ← kept.temps env (reserved ▸ below), List.filter_map, List.filter_filter,
      List.filter_filter]
    congr 1
    refine List.filter_congr fun entry _ => ?_
    exact Bool.and_comm ..
  · rw [tempItems] at member
    rw [reserved]
    exact kept.idle entry (List.mem_filter.mp member).1
  · rw [tempItems]
    exact kept.distinct.sublist (List.filter_sublist.map _)
  · rw [tempItems] at member
    obtain ⟨old, other⟩ := List.mem_filter.mp member
    have other : entry.2 ≠ item := by simpa using other
    rcases toReleaseItems with same | ⟨-, same⟩
    · rw [same]
      exact kept.waiting entry old
    · rw [same, List.mem_append, List.mem_singleton, not_or]
      exact ⟨kept.waiting entry old, other⟩
  · rcases toReleaseItems with same | ⟨new, same⟩
    · rw [same]
      exact kept.once
    · rw [same]
      exact kept.once.append (List.nodup_singleton item) (List.disjoint_singleton.mpr new)

theorem invariant_removeTempItem (invariant : Invariant lua) :
    Invariant ((ScriptOp.removeTempItem item).apply lua) :=
  ⟨invariant.toSound.congr invariant.balanced (Nat.le_refl _) (fun _ _ _ member => ⟨member, rfl⟩)
    fun _ _ _ member => ⟨member, fun valid => valid⟩,
    ⟨invariant.counter, invariant.numbers, invariant.graph, invariant.unique⟩,
    invariant.toKept.free rfl rfl (fun _ => rfl) (.inl rfl)⟩

end TempItems

/-! ## Items and their numbers -/

section Items

variable {lua : Lua} {item : Nat}

theorem addThing_cases (item : Nat) :
    (lua.items item).isRemoved = true ∧ lua.addThing item = (0, lua) ∨
      (lua.items item).isRemoved = false ∧
        ((∃ uniqueId, (lua.items item).uniqueId = some uniqueId ∧
            lua.addThing item = (uniqueId, lua)) ∨
          (lua.items item).uniqueId = none ∧
            ((∃ uid, (uid, item) ∈ (lua.scriptEnv lua.current).localMap ∧
                lua.addThing item = (uid, lua)) ∨
              (∀ entry ∈ (lua.scriptEnv lua.current).localMap, entry.2 ≠ item) ∧
                lua.addThing item = lua.number item)) := by
  rw [Lua.addThing]
  split
  · rename_i removed
    exact .inl ⟨removed, rfl⟩
  · rename_i there
    refine .inr ⟨by simpa using there, ?_⟩
    split
    · rename_i uniqueId has
      exact .inl ⟨uniqueId, has, rfl⟩
    · rename_i plain
      refine .inr ⟨plain, ?_⟩
      split
      · rename_i entry found
        have same := List.find?_some found
        obtain rfl : entry.2 = item := by simpa using same
        exact .inl ⟨entry.1, List.mem_of_find?_eq_some found, rfl⟩
      · rename_i none
        refine .inr ⟨fun entry member => ?_, rfl⟩
        simpa using List.find?_eq_none.mp none entry member

/-- The number of an item that is there is recorded. -/
theorem apply_addThing_of_present (there : (lua.items item).isRemoved = false) {uid : Nat}
    {after : Lua} (answer : lua.addThing item = (uid, after)) :
    (ScriptOp.addThing item).apply lua = after.modifyFrame lua.top fun frame =>
      { frame with things := (uid, item) :: frame.things } := by
  rw [ScriptOp.apply, answer]
  exact if_neg (by rw [there]; exact Bool.false_ne_true)

/-- An item that had a number already. -/
theorem invariant_known (invariant : Invariant lua) {uid : Nat}
    (denotes : lua.getThingByUID lua.top uid = some (.item item)) :
    Invariant (lua.modifyFrame lua.top fun frame =>
      { frame with things := (uid, item) :: frame.things }) := by
  have frames (env : Nat) : (lua.modifyFrame lua.top fun frame =>
      { frame with things := (uid, item) :: frame.things }).frames env =
      if env = lua.top then { lua.frames env with things := (uid, item) :: (lua.frames env).things }
      else lua.frames env := frames_modifyFrame _ env
  refine ⟨⟨invariant.balanced, invariant.bounded, fun env below entry member => ?_,
      fun env below entry member => ?_⟩,
    ⟨invariant.counter, invariant.numbers, invariant.graph, invariant.unique⟩,
    invariant.toKept.of_frames rfl rfl rfl fun env => ?_⟩
  · rw [frames] at member
    have old : entry ∈ (lua.frames env).results := by
      split at member
      · exact member
      · exact member
    exact invariant.results env below entry old
  · rw [frames] at member
    split at member
    · rename_i same
      subst same
      rcases List.mem_cons.mp member with rfl | old
      · exact denotes
      · exact invariant.things lua.top below entry old
    · exact invariant.things env below entry member
  · rw [frames]
    split
    · rfl
    · rfl

theorem lastUID_of_room (invariant : Invariant lua)
    (room : (lua.scriptEnv lua.current).lastUID + 1 < firstCreatureUID) :
    (lua.number item).1 = (lua.scriptEnv lua.current).lastUID + 1 ∧
      ((lua.scriptEnv lua.current).localMap.filter fun entry =>
        entry.1 ≠ (lua.scriptEnv lua.current).lastUID + 1) =
          (lua.scriptEnv lua.current).localMap := by
  constructor
  · change ((lua.scriptEnv lua.current).lastUID + 1) % 2 ^ 32 = _
    have small : (lua.scriptEnv lua.current).lastUID + 1 < 268435456 := room
    omega
  · refine List.filter_eq_self.mpr fun entry member => ?_
    have bounds := invariant.numbers lua.current entry member
    simp only [decide_eq_true_eq, ne_eq]
    omega

theorem scriptEnv_number (invariant : Invariant lua)
    (room : (lua.scriptEnv lua.current).lastUID + 1 < firstCreatureUID) (env : Nat) :
    (lua.number item).2.scriptEnv env =
      if env = lua.current then
        { localMap := ((lua.scriptEnv lua.current).lastUID + 1, item) ::
            (lua.scriptEnv lua.current).localMap
          lastUID := (lua.scriptEnv lua.current).lastUID + 1 }
      else lua.scriptEnv env := by
  obtain ⟨next, others⟩ := @lastUID_of_room lua item invariant room
  have uid : ((lua.scriptEnv lua.current).lastUID + 1) % 2 ^ 32 =
      (lua.scriptEnv lua.current).lastUID + 1 := next
  change (lua.modifyEnv lua.current fun environment =>
    { localMap := (((lua.scriptEnv lua.current).lastUID + 1) % 2 ^ 32, item) ::
        environment.localMap.filter fun entry =>
          entry.1 ≠ ((lua.scriptEnv lua.current).lastUID + 1) % 2 ^ 32
      lastUID := ((lua.scriptEnv lua.current).lastUID + 1) % 2 ^ 32 }).scriptEnv env = _
  rw [scriptEnv_modifyEnv]
  by_cases same : env = lua.current
  · subst same
    rw [if_pos rfl, if_pos rfl, uid, others]
  · rw [if_neg same, if_neg same]

theorem invariant_number (invariant : Invariant lua)
    (room : (lua.scriptEnv lua.current).lastUID + 1 < firstCreatureUID) :
    Invariant (lua.number item).2 := by
  have bounds := invariant.counter lua.current
  have numbered : Numbered (lua.number item).2 := by
    refine ⟨fun env => ?_, fun env entry member => ?_, fun env entry member other among => ?_,
      invariant.unique⟩
    · rw [scriptEnv_number invariant room]
      split
      · exact ⟨Nat.le_succ_of_le bounds.1, room⟩
      · exact invariant.counter env
    · rw [scriptEnv_number invariant room] at member ⊢
      split at member
      · rename_i same
        rw [if_pos same]
        rcases List.mem_cons.mp member with rfl | old
        · exact ⟨Nat.lt_succ_of_le bounds.1, Nat.le_refl _⟩
        · have old := invariant.numbers lua.current entry old
          exact ⟨old.1, Nat.le_succ_of_le old.2⟩
      · rename_i apart
        rw [if_neg apart]
        exact invariant.numbers env entry member
    · rw [scriptEnv_number invariant room] at member among
      split at member
      · rename_i here
        rw [if_pos here] at among
        intro same
        rcases List.mem_cons.mp member with rfl | first
        · rcases List.mem_cons.mp among with rfl | second
          · rfl
          · have old := invariant.numbers lua.current other second
            omega
        · rcases List.mem_cons.mp among with rfl | second
          · have old := invariant.numbers lua.current entry first
            omega
          · exact invariant.graph lua.current entry first other second same
      · rename_i apart
        rw [if_neg apart] at among
        exact invariant.graph env entry member other among
  refine ⟨invariant.toSound.congr invariant.balanced (Nat.le_refl _)
    (fun _ _ _ member => ⟨member, rfl⟩) fun env _ entry member => ⟨member, fun valid => ?_⟩,
    numbered, invariant.toKept.of_frames rfl rfl rfl fun _ => rfl⟩
  rw [getThingByUID_iff (invariant.graph env)] at valid
  rw [getThingByUID_iff (numbered.graph env)]
  refine ⟨valid.1, valid.2.1, valid.2.2.imp id fun own => ⟨own.1, ?_⟩⟩
  rw [scriptEnv_number invariant room]
  split
  · rename_i same
    exact List.mem_cons_of_mem _ (same ▸ own.2)
  · exact own.2

theorem lt_of_getThingByUID {env uid : Nat}
    (denotes : lua.getThingByUID env uid = some (.item item)) : uid < firstCreatureUID := by
  by_contra high
  rw [Lua.getThingByUID, if_pos (Nat.not_lt.mp high)] at denotes
  split at denotes
  · cases denotes
  · cases denotes

theorem invariant_addThing (invariant : Invariant lua)
    (sparing : Sparing lua (.addThing item)) : Invariant ((ScriptOp.addThing item).apply lua) := by
  have current := current_eq invariant.balanced
  rcases addThing_cases item with ⟨removed, answer⟩ |
    ⟨there, ⟨uniqueId, has, answer⟩ | ⟨plain, ⟨uid, known, answer⟩ | ⟨new, answer⟩⟩⟩
  · have after : (ScriptOp.addThing item).apply lua = lua := by
      rw [ScriptOp.apply, answer]
      exact if_pos removed
    rw [after]
    exact invariant
  · rw [apply_addThing_of_present there answer]
    obtain ⟨low, registered⟩ := invariant.unique item uniqueId has
    have small : uniqueId < firstCreatureUID :=
      Nat.lt_of_le_of_lt low (show lastUniqueId < firstCreatureUID by decide)
    exact invariant_known invariant ((getThingByUID_iff (invariant.graph _)).mpr
      ⟨small, there, .inl ⟨low, registered there⟩⟩)
  · rw [apply_addThing_of_present there answer]
    have bounds := invariant.numbers lua.current _ known
    have small := Nat.lt_of_le_of_lt bounds.2 (invariant.counter lua.current).2
    exact invariant_known invariant ((getThingByUID_iff (invariant.graph _)).mpr
      ⟨small, there, .inr ⟨bounds.1, current ▸ known⟩⟩)
  · rw [apply_addThing_of_present there (answer.trans (Prod.eta _).symm)]
    have room := sparing there plain new
    have next : Invariant (lua.number item).2 := invariant_number invariant room
    have uid := (@lastUID_of_room lua item invariant room).1
    have bounds := invariant.counter lua.current
    refine invariant_known next ((getThingByUID_iff (next.graph _)).mpr
      ⟨uid ▸ room, there, .inr ⟨?_, ?_⟩⟩)
    · rw [uid]
      exact Nat.lt_succ_of_le bounds.1
    · rw [uid, scriptEnv_number invariant room]
      have here : (lua.number item).2.top = lua.current := current.symm
      rw [if_pos here]
      exact List.mem_cons_self

theorem sparing_of_sound_addThing (invariant : Invariant lua) (legal : 0 < lua.reserved)
    (sound : Sound ((ScriptOp.addThing item).apply lua)) : Sparing lua (.addThing item) := by
  intro there plain new
  rcases addThing_cases item with ⟨removed, -⟩ |
    ⟨-, ⟨uniqueId, has, -⟩ | ⟨-, ⟨uid, known, -⟩ | ⟨-, answer⟩⟩⟩
  · rw [there] at removed
    cases removed
  · rw [plain] at has
    cases has
  · exact absurd rfl (new _ known)
  · rw [apply_addThing_of_present there (answer.trans (Prod.eta _).symm)] at sound
    have denotes := sound.things lua.top (Nat.sub_lt legal Nat.one_pos) ((lua.number item).1, item)
      (by
        rw [frames_modifyFrame, if_pos rfl]
        exact List.mem_cons_self)
    have low := lt_of_getThingByUID denotes
    change ((lua.scriptEnv lua.current).lastUID + 1) % 2 ^ 32 < 268435456 at low
    have small : (lua.scriptEnv lua.current).lastUID < 268435456 := (invariant.counter _).2
    change (lua.scriptEnv lua.current).lastUID + 1 < 268435456
    omega

/-- Another item than those whose numbers are asked for changes. -/
theorem Sound.of_items (sound : Sound lua) {after : Lua}
    (index : after.scriptEnvIndex = lua.scriptEnvIndex) (reserved : after.reserved = lua.reserved)
    (results : after.tempResults = lua.tempResults) (envs : after.scriptEnv = lua.scriptEnv)
    (graph : ∀ env, ∀ entry ∈ (lua.scriptEnv env).localMap,
      ∀ other ∈ (lua.scriptEnv env).localMap, entry.1 = other.1 → entry = other)
    (obtained : ∀ env, (after.frames env).results = (lua.frames env).results)
    (things : ∀ env, ∀ entry ∈ (after.frames env).things, entry ∈ (lua.frames env).things ∧
      ((lua.items entry.2).isRemoved = false → (after.items entry.2).isRemoved = false))
    (unique : ∀ env, ∀ entry ∈ (after.frames env).things,
      (lua.items entry.2).isRemoved = false → lua.uniqueItems entry.1 = some entry.2 →
        after.uniqueItems entry.1 = some entry.2) : Sound after := by
  refine sound.congr ?_ (Nat.le_of_eq reserved) (fun env _ entry member => ?_)
    fun env _ entry member => ⟨(things env entry member).1, fun valid => ?_⟩
  · rw [index, reserved]
    exact sound.balanced
  · rw [obtained] at member
    exact ⟨member, congrFun results entry.1⟩
  · rw [getThingByUID_iff (graph env)] at valid
    have same : (after.scriptEnv env).localMap = (lua.scriptEnv env).localMap := by rw [envs]
    rw [getThingByUID_iff (same ▸ graph env), same]
    obtain ⟨low, there, known⟩ := valid
    exact ⟨low, (things env entry member).2 there,
      known.imp (fun own => ⟨own.1, unique env entry member there own.2⟩) id⟩

theorem invariant_setParent (invariant : Invariant lua) (isVirtual : Bool) :
    Invariant ((ScriptOp.setParent item isVirtual).apply lua) := by
  have items (each : Nat) : (((ScriptOp.setParent item isVirtual).apply lua).items each).isRemoved =
        (lua.items each).isRemoved ∧
      (((ScriptOp.setParent item isVirtual).apply lua).items each).uniqueId =
        (lua.items each).uniqueId := by
    change ((lua.modifyItem item fun item => { item with isVirtual := isVirtual }).items
      each).isRemoved = _ ∧ ((lua.modifyItem item fun item =>
        { item with isVirtual := isVirtual }).items each).uniqueId = _
    rw [items_modifyItem]
    split
    · exact ⟨rfl, rfl⟩
    · exact ⟨rfl, rfl⟩
  refine ⟨invariant.toSound.of_items rfl rfl rfl rfl invariant.graph (fun _ => rfl)
      (fun env entry member => ⟨member, fun there => (items entry.2).1.trans there⟩)
      fun _ _ _ _ known => known,
    ⟨invariant.counter, invariant.numbers, invariant.graph, fun each uniqueId has => ?_⟩,
    invariant.toKept.of_frames rfl rfl rfl fun _ => rfl⟩
  rw [(items each).2] at has
  rw [(items each).1]
  exact invariant.unique each uniqueId has

theorem invariant_setUniqueId (invariant : Invariant lua) {uniqueId : Nat}
    (low : uniqueId ≤ lastUniqueId) :
    Invariant ((ScriptOp.setUniqueId item uniqueId).apply lua) := by
  rw [ScriptOp.apply, Lua.setUniqueId]
  split
  · exact invariant
  · rename_i free
    rw [Bool.or_eq_true, not_or, Bool.not_eq_true, Bool.not_eq_true, Option.isSome_eq_false_iff,
      Option.isSome_eq_false_iff, Option.isNone_iff_eq_none, Option.isNone_iff_eq_none] at free
    have items (each : Nat) : (lua.modifyItem item fun item =>
        { item with uniqueId := some uniqueId }).items each =
        if each = item then { lua.items each with uniqueId := some uniqueId }
        else lua.items each := items_modifyItem _ each
    have others {number other : Nat} (known : lua.uniqueItems number = some other) :
        update lua.uniqueItems uniqueId (some item) number = some other := by
      have apart : number ≠ uniqueId := by
        rintro rfl
        rw [free.2] at known
        cases known
      rw [update_of_ne apart]
      exact known
    refine ⟨invariant.toSound.of_items rfl rfl rfl rfl invariant.graph (fun _ => rfl)
        (fun env entry member => ⟨member, fun there => ?_⟩) fun _ _ _ _ known => others known,
      ⟨invariant.counter, invariant.numbers, invariant.graph, fun each number has => ?_⟩,
      invariant.toKept.of_frames rfl rfl rfl fun _ => rfl⟩
    · rw [items]
      split
      · exact there
      · exact there
    · rw [items] at has ⊢
      split at has
      · rename_i same
        obtain rfl := Option.some.inj has
        exact ⟨low, fun _ => same ▸ update_self ..⟩
      · rename_i apart
        rw [if_neg apart]
        obtain ⟨bound, known⟩ := invariant.unique each number has
        exact ⟨bound, fun there => others (known there)⟩

theorem invariant_loseItem (invariant : Invariant lua) :
    Invariant ((ScriptOp.loseItem item).apply lua) := by
  have items (each : Nat) : ((ScriptOp.loseItem item).apply lua).items each =
      if each = item then { lua.items each with isRemoved := true } else lua.items each := by
    change (lua.modifyItem item fun item => { item with isRemoved := true }).items each = _
    exact items_modifyItem _ each
  refine ⟨invariant.toSound.of_items rfl rfl rfl rfl invariant.graph (fun _ => rfl)
      (fun env entry member => ?_) fun _ _ _ _ known => known,
    ⟨invariant.counter, invariant.numbers, invariant.graph, fun each uniqueId has => ?_⟩,
    invariant.toKept.of_frames rfl rfl rfl fun _ => rfl⟩
  · obtain ⟨old, other⟩ := List.mem_filter.mp member
    refine ⟨old, fun there => ?_⟩
    rw [items, if_neg (by simpa using other)]
    exact there
  · rw [items] at has ⊢
    split at has
    · rename_i same
      rw [if_pos same]
      exact ⟨(invariant.unique each uniqueId has).1, fun there => by cases there⟩
    · rename_i apart
      rw [if_neg apart]
      exact invariant.unique each uniqueId has

theorem removeItem_eq (item : Nat) :
    lua.removeItem item =
      { lua.modifyItem item fun item => { item with isRemoved := true, isVirtual := false } with
        tempItems := lua.tempItems.eraseP fun entry => entry.2 = item
        uniqueItems := fun uniqueId =>
          if (lua.items item).uniqueId = some uniqueId then none else lua.uniqueItems uniqueId
        toReleaseItems := lua.toReleaseItems ++ [item] } := by
  have kept : ((lua.modifyItem item fun item =>
      { item with isRemoved := true, isVirtual := false }).items item).uniqueId =
        (lua.items item).uniqueId := by
    rw [items_modifyItem, if_pos rfl]
  unfold Lua.removeItem Lua.removeUniqueItem
  dsimp only [Lua.removeTempItem]
  rw [kept]
  cases (lua.items item).uniqueId with
  | none => simp [Lua.modifyItem]
  | some number =>
    simp only [Lua.modifyItem, Option.some.injEq]
    congr 1
    funext uniqueId
    by_cases same : uniqueId = number
    · subst same
      rw [update_self, if_pos rfl]
    · rw [update_of_ne same, if_neg (Ne.symm same)]

theorem invariant_removeItem (invariant : Invariant lua)
    (legal : (ScriptOp.removeItem item).Legal lua) :
    Invariant ((ScriptOp.removeItem item).apply lua) := by
  obtain ⟨there, unreleased⟩ := legal
  have items (each : Nat) : (lua.modifyItem item fun item =>
      { item with isRemoved := true, isVirtual := false }).items each =
      if each = item then { lua.items each with isRemoved := true, isVirtual := false }
      else lua.items each := items_modifyItem _ each
  -- the item's own number among the unique ones denotes no other item
  have others {number other : Nat} (apart : other ≠ item)
      (known : lua.uniqueItems number = some other) :
      (if (lua.items item).uniqueId = some number then none else lua.uniqueItems number) =
        some other := by
    have notOwn : (lua.items item).uniqueId ≠ some number := by
      intro own
      rw [(invariant.unique item number own).2 there] at known
      exact apart (Option.some.inj known).symm
    rw [if_neg notOwn]
    exact known
  rw [ScriptOp.apply, removeItem_eq]
  refine ⟨invariant.toSound.of_items rfl rfl rfl rfl invariant.graph (fun _ => rfl)
      (fun env entry member => ?_) fun env entry member _ known => ?_,
    ⟨invariant.counter, invariant.numbers, invariant.graph, fun each uniqueId has => ?_⟩,
    invariant.toKept.free rfl rfl (fun _ => rfl) (.inr ⟨unreleased, rfl⟩)⟩
  · obtain ⟨old, other⟩ := List.mem_filter.mp member
    refine ⟨old, fun stays => ?_⟩
    change ((lua.modifyItem item fun item =>
      { item with isRemoved := true, isVirtual := false }).items entry.2).isRemoved = false
    rw [items, if_neg (by simpa using other)]
    exact stays
  · obtain ⟨-, other⟩ := List.mem_filter.mp member
    exact others (by simpa using other) known
  · change ((lua.modifyItem item fun item =>
      { item with isRemoved := true, isVirtual := false }).items each).uniqueId = _ at has
    change uniqueId ≤ lastUniqueId ∧ (((lua.modifyItem item fun item =>
      { item with isRemoved := true, isVirtual := false }).items each).isRemoved = false →
        (if (lua.items item).uniqueId = some uniqueId then none
          else lua.uniqueItems uniqueId) = some each)
    rw [items] at has ⊢
    split at has
    · rename_i same
      rw [if_pos same]
      exact ⟨(invariant.unique each uniqueId has).1, fun gone => by cases gone⟩
    · rename_i apart
      rw [if_neg apart]
      obtain ⟨bound, known⟩ := invariant.unique each uniqueId has
      exact ⟨bound, fun stays => others apart (known stays)⟩

end Items

/-! ## Runs -/

variable {lua : Lua}

variable {op : ScriptOp}

theorem invariant_apply (invariant : Invariant lua) (legal : op.Legal lua)
    (sparing : Sparing lua op) : Invariant (op.apply lua) := by
  cases op with
  | reserveScriptEnv => exact invariant_reserve invariant sparing
  | resetScriptEnv =>
    exact ⟨(sound_reset_iff invariant legal).mpr sparing, numbered_reset invariant,
      kept_reset invariant legal⟩
  | addResult result =>
    exact invariant_addResult invariant ((sound_addResult_iff invariant).mpr sparing)
  | removeResult id => exact invariant_removeResult invariant id
  | addTempItem item => exact invariant_addTempItem invariant legal
  | removeTempItem item => exact invariant_removeTempItem invariant
  | addThing item => exact invariant_addThing invariant sparing
  | setUniqueId item uniqueId => exact invariant_setUniqueId invariant legal.1
  | setParent item isVirtual => exact invariant_setParent invariant isVirtual
  | removeItem item => exact invariant_removeItem invariant legal
  | loseItem item => exact invariant_loseItem invariant

theorem toReleaseItems_apply (invariant : Invariant lua) (legal : op.Legal lua) :
    (op.apply lua).toReleaseItems = lua.toReleaseItems ++ op.releases lua := by
  cases op with
  | resetScriptEnv => exact congrArg _ (released_eq invariant legal)
  | removeItem item =>
    rw [ScriptOp.apply, removeItem_eq]
    rfl
  | reserveScriptEnv =>
    rw [ScriptOp.releases, List.append_nil, ScriptOp.apply]
    dsimp only
    split
    · rfl
    · rfl
  | addThing item =>
    have same : (lua.addThing item).2.toReleaseItems = lua.toReleaseItems := by
      rcases addThing_cases item with ⟨-, answer⟩ |
        ⟨-, ⟨uniqueId, -, answer⟩ | ⟨-, ⟨uid, -, answer⟩ | ⟨-, answer⟩⟩⟩
      · rw [answer]
      · rw [answer]
      · rw [answer]
      · rw [answer]
        rfl
    rw [ScriptOp.releases, List.append_nil, ScriptOp.apply]
    dsimp only
    split
    · exact same
    · exact same
  | setUniqueId item uniqueId =>
    rw [ScriptOp.releases, List.append_nil, ScriptOp.apply, Lua.setUniqueId]
    split
    · rfl
    · rfl
  | addResult _ => exact (List.append_nil _).symm
  | removeResult _ => exact (List.append_nil _).symm
  | addTempItem _ => exact (List.append_nil _).symm
  | removeTempItem _ => exact (List.append_nil _).symm
  | setParent _ _ => exact (List.append_nil _).symm
  | loseItem _ => exact (List.append_nil _).symm

theorem sparing_of_isolated (invariant : Invariant lua) (legal : op.Legal lua)
    (isolated : Isolated lua op (op.apply lua)) : Sparing lua op := by
  cases op with
  | reserveScriptEnv => exact (isolated_reserve_iff invariant).mp isolated
  | resetScriptEnv => exact (sound_reset_iff invariant legal).mp isolated.toSound
  | addResult result => exact (sound_addResult_iff invariant).mp isolated.toSound
  | addThing item => exact sparing_of_sound_addThing invariant legal.1 isolated.toSound
  | removeResult _ => trivial
  | addTempItem _ => trivial
  | removeTempItem _ => trivial
  | setUniqueId _ _ => trivial
  | setParent _ _ => trivial
  | removeItem _ => trivial
  | loseItem _ => trivial

theorem isolated_apply (invariant : Invariant lua) (legal : op.Legal lua)
    (sparing : Sparing lua op) : Isolated lua op (op.apply lua) := by
  have after := invariant_apply invariant legal sparing
  refine ⟨after.toSound, fun reserves refused => ?_, toReleaseItems_apply invariant legal,
    after.once⟩
  subst reserves
  exact ((isolated_reserve_iff invariant).mpr sparing).refused rfl refused

theorem invariant_empty : Invariant {} where
  balanced := rfl
  bounded := Nat.zero_le _
  results _ below := absurd below (Nat.not_lt_zero _)
  things _ below := absurd below (Nat.not_lt_zero _)
  counter _ := ⟨Nat.le_refl _, show lastUniqueId < firstCreatureUID by decide⟩
  numbers _ _ member := by cases member
  graph _ _ member := by cases member
  unique _ _ has := by cases has
  temps _ below := absurd below (Nat.not_lt_zero _)
  idle _ member := by cases member
  distinct := List.nodup_nil
  waiting _ member := by cases member
  once := List.nodup_nil

end Otserv.Scripts
