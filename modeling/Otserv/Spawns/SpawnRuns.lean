import Otserv.Spawns.Spawn

/-!
# Slots that are empty wait for a check

While a slot has no monster on the map a `checkSpawn` event should be pending, no slot have
two monsters, and the spawn hold one reference to each of its monsters (`Sound`).

The event is missing after a monster could not be placed at startup, after a monster was
convinced, or removed by a script's leave, and after a check that left slots empty while as
many monsters have strayed from the zone: these are counted as if they filled the slots.
Every other run is sound (`spawns_sound_iff`).
-/

namespace Otserv.Spawns

open Foundation
open World (Position)
open List (filter_map mem_filter mem_map_of_mem countP_congr mem_map any_eq_true length_map mem_cons
  map_cons filter_cons nodup_cons map_nil mem_filterMap filter_congr filter_filter cons_ne_nil)
open Function (comp_apply update_self update_of_ne)

variable (zone : Zone)

/-- While a slot has no monster on the map, a check is pending. -/
def EmptySlotsWait : Prop :=
  ∀ sb ∈ zone.spawnMap,
    (∀ entry ∈ zone.spawnedMap, entry.1 = sb.spawnId → (zone.monsters entry.2).removed = true) →
      zone.events ≠ []

structure Sound (zone : Zone) : Prop where
  waits : EmptySlotsWait zone
  /-- A slot has one monster at most. -/
  one : ∀ entry ∈ zone.spawnedMap, ∀ other ∈ zone.spawnedMap, entry.1 ≠ 0 → entry.1 = other.1 →
    entry = other
  /-- Every monster is kept once, with one reference. -/
  held : ∀ entry ∈ zone.spawnedMap, zone.references entry.2 = 1 ∧
    zone.spawnedMap.countP (fun other => other.2 = entry.2) = 1

namespace Zone

variable (zone : Zone)

/-- The slot has a monster in the zone. -/
def occupied (spawnId : Nat) : Bool :=
  zone.spawnedMap.any fun entry => entry.1 = spawnId ∧
    (zone.monsters entry.2).removed = false ∧ zone.isInSpawnZone (zone.monsters entry.2).position

def vacant : List SpawnBlock := zone.spawnMap.filter fun sb => !zone.occupied sb.spawnId

/-- The slot's interval is over. -/
def isDue (now : Nat → Int) (sb : SpawnBlock) : Bool :=
  now sb.spawnId ≥ sb.lastSpawn + sb.interval.toNat

/-- The slots that a check fills: at most `RATE_SPAWN` of those that are due are tried. -/
def filled (rate : UInt32) (now : Nat → Int) (placed : Nat → Option Position) : List SpawnBlock :=
  ((zone.vacant.filter (isDue now)).take (max rate.toNat 1)).filter fun sb =>
    (placed sb.spawnId).isSome

/-- The slots that a check leaves empty. -/
def leftEmpty (rate : UInt32) (now : Nat → Int) (placed : Nat → Option Position) :
    List SpawnBlock :=
  zone.vacant.filter fun sb => sb ∉ zone.filled rate now placed

/-- The monsters on the map that have strayed from the zone. -/
def strays : List (Nat × Nat) :=
  zone.spawnedMap.filter fun entry => (zone.monsters entry.2).removed = false ∧
    (entry.1 = 0 ∨ zone.isInSpawnZone (zone.monsters entry.2).position = false)

end Zone

/-- A check leaves no slot empty, or more than there are strays; and no monster of a slot is
convinced, or removed with a script that answers `true`, while no check is pending. -/
def Waits : Op → Prop
  | .checkSpawn _ rate now placed =>
    zone.leftEmpty rate now placed = [] ∨
      zone.strays.length < (zone.leftEmpty rate now placed).length
  | .convince monster =>
    zone.events ≠ [] ∨ ∀ entry ∈ zone.spawnedMap, entry.2 = monster → entry.1 = 0
  | .remove monster handled =>
    handled = false ∨ zone.events ≠ [] ∨
      ∀ entry ∈ zone.spawnedMap, entry.2 = monster → entry.1 = 0
  | .walk _ _ => True

/-! ## The roster -/

/-- The slots, and the monsters that are kept for them. -/
structure Roster (zone : Zone) : Prop where
  nodup : (zone.spawnMap.map SpawnBlock.spawnId).Nodup
  nonzero : 0 ∉ zone.spawnMap.map SpawnBlock.spawnId
  known : ∀ entry ∈ zone.spawnedMap, entry.1 ≠ 0 →
    entry.1 ∈ zone.spawnMap.map SpawnBlock.spawnId
  slots : ((zone.spawnedMap.map Prod.fst).filter (· ≠ 0)).Nodup
  monsters : (zone.spawnedMap.map Prod.snd).Nodup
  old : ∀ entry ∈ zone.spawnedMap, entry.2 ≤ zone.lastMonster
  references : ∀ monster, zone.references monster = (zone.spawnedMap.map Prod.snd).count monster
  owned : ∀ entry ∈ zone.spawnedMap, (zone.monsters entry.2).removed = false →
    (zone.monsters entry.2).spawn = true

structure Invariant (zone : Zone) : Prop extends Roster zone where
  events : zone.events = if zone.checkSpawnEvent = 0 then [] else [zone.checkSpawnEvent]
  waits : EmptySlotsWait zone

namespace Roster

variable {zone : Zone}

theorem eq_of_slot (roster : Roster zone) : ∀ entry ∈ zone.spawnedMap,
    ∀ other ∈ zone.spawnedMap, entry.1 ≠ 0 → entry.1 = other.1 → entry = other := by
  intro entry member other otherMember some_ same
  have nodup : ((zone.spawnedMap.filter fun found => found.1 ≠ 0).map Prod.fst).Nodup := by
    have slots := roster.slots
    rwa [filter_map] at slots
  have kept : ∀ found ∈ zone.spawnedMap, found.1 ≠ 0 →
      found ∈ zone.spawnedMap.filter fun found => found.1 ≠ 0 := fun found inside isSlot =>
    mem_filter.mpr ⟨inside, decide_eq_true isSlot⟩
  exact List.inj_on_of_nodup_map nodup (kept entry member some_)
    (kept other otherMember (same ▸ some_)) same

theorem held (roster : Roster zone) : ∀ entry ∈ zone.spawnedMap,
    zone.references entry.2 = 1 ∧
      zone.spawnedMap.countP (fun other => other.2 = entry.2) = 1 := by
  intro entry member
  have once : (zone.spawnedMap.map Prod.snd).count entry.2 = 1 :=
    List.count_eq_one_of_mem roster.monsters (mem_map_of_mem member)
  refine ⟨(roster.references entry.2).trans once, ?_⟩
  rw [List.count, List.countP_map] at once
  rw [← once]
  refine countP_congr fun other _ => ?_
  simp

/-- Slots without an entry. -/
theorem length_lt_iff (roster : Roster zone) :
    zone.spawnedMap.length < zone.spawnMap.length ↔
      zone.spawnedMap.countP (fun entry => entry.1 = 0) <
        (zone.spawnMap.filter fun sb =>
          !zone.spawnedMap.any fun entry => entry.1 = sb.spawnId).length := by
  have same : ((zone.spawnedMap.map Prod.fst).filter (· ≠ 0)).Perm
      ((zone.spawnMap.map SpawnBlock.spawnId).filter fun id =>
        zone.spawnedMap.any fun entry => entry.1 = id) := by
    refine (List.perm_ext_iff_of_nodup roster.slots (roster.nodup.filter _)).mpr fun id => ?_
    simp only [mem_filter, mem_map, any_eq_true, decide_eq_true_eq]
    constructor
    · rintro ⟨⟨entry, member, rfl⟩, some_⟩
      exact ⟨mem_map.mp (roster.known entry member some_), entry, member, rfl⟩
    · rintro ⟨⟨sb, inside, isId⟩, entry, member, rfl⟩
      refine ⟨⟨entry, member, rfl⟩, fun zero => roster.nonzero ?_⟩
      exact mem_map.mpr ⟨sb, inside, isId.trans zero⟩
  have counts := same.length_eq
  rw [filter_map, filter_map, length_map, length_map,
    ← List.countP_eq_length_filter, ← List.countP_eq_length_filter] at counts
  have entries := @List.length_eq_countP_add_countP _
    (fun entry : Nat × Nat => decide (entry.1 = 0)) zone.spawnedMap
  have slots := @List.length_eq_countP_add_countP _
    (fun sb : SpawnBlock => zone.spawnedMap.any fun entry => entry.1 = sb.spawnId) zone.spawnMap
  have strayed : zone.spawnedMap.countP (fun entry => decide ¬decide (entry.1 = 0) = true) =
      zone.spawnedMap.countP ((fun key : Nat => decide (key ≠ 0)) ∘ Prod.fst) :=
    countP_congr fun entry _ => by simp
  have empty : zone.spawnMap.countP (fun sb =>
        decide ¬(zone.spawnedMap.any fun entry => entry.1 = sb.spawnId) = true) =
      zone.spawnMap.countP fun sb => !zone.spawnedMap.any fun entry => entry.1 = sb.spawnId :=
    countP_congr fun sb _ => by simp
  have filled : zone.spawnMap.countP ((fun id : Nat =>
        zone.spawnedMap.any fun entry => entry.1 = id) ∘ SpawnBlock.spawnId) =
      zone.spawnMap.countP fun sb => zone.spawnedMap.any fun entry => entry.1 = sb.spawnId := rfl
  rw [← List.countP_eq_length_filter]
  omega

/-! ## Filling slots -/

theorem spawnId_spawnMonster (zone : Zone) (spawnId : Nat) (position : Position) (now : Int) :
    (zone.spawnMonster spawnId position now).spawnMap.map SpawnBlock.spawnId =
      zone.spawnMap.map SpawnBlock.spawnId := by
  simp only [Zone.spawnMonster, List.map_map]
  refine List.map_congr_left fun sb _ => ?_
  simp only [comp_apply]
  split <;> rfl

theorem spawnMonster (roster : Roster zone) {spawnId : Nat}
    (isSlot : spawnId ∈ zone.spawnMap.map SpawnBlock.spawnId)
    (empty : ∀ entry ∈ zone.spawnedMap, entry.1 ≠ spawnId) (position : Position) (now : Int) :
    Roster (zone.spawnMonster spawnId position now) := by
  have nonzero : spawnId ≠ 0 := fun zero => roster.nonzero (zero ▸ isSlot)
  have ids := spawnId_spawnMonster zone spawnId position now
  have isNew : zone.lastMonster + 1 ∉ zone.spawnedMap.map Prod.snd := by
    intro inside
    obtain ⟨entry, member, same⟩ := mem_map.mp inside
    have old := roster.old entry member
    omega
  constructor
  · rw [ids]
    exact roster.nodup
  · rw [ids]
    exact roster.nonzero
  · intro entry member some_
    rw [ids]
    rcases mem_cons.mp member with rfl | old
    · exact isSlot
    · exact roster.known entry old some_
  · have notKey : spawnId ∉ (zone.spawnedMap.map Prod.fst).filter (· ≠ 0) := by
      intro inside
      obtain ⟨entry, member, same⟩ := mem_map.mp (mem_filter.mp inside).1
      exact empty entry member same
    simp only [Zone.spawnMonster, map_cons]
    rw [filter_cons, if_pos (decide_eq_true nonzero)]
    exact nodup_cons.mpr ⟨notKey, roster.slots⟩
  · exact nodup_cons.mpr ⟨isNew, roster.monsters⟩
  · intro entry member
    rcases mem_cons.mp member with rfl | old
    · exact Nat.le_refl _
    · exact Nat.le_succ_of_le (roster.old entry old)
  · intro monster
    simp only [Zone.spawnMonster, map_cons]
    by_cases same : monster = zone.lastMonster + 1
    · rw [same, update_self, List.count_cons_self, roster.references]
    · rw [update_of_ne same, List.count_cons_of_ne (Ne.symm same), roster.references]
  · intro entry member
    simp only [Zone.spawnMonster]
    rcases mem_cons.mp member with rfl | old
    · rw [update_self]
      exact fun _ => rfl
    · have apart : entry.2 ≠ zone.lastMonster + 1 := fun same =>
        isNew (mem_map.mpr ⟨entry, old, same⟩)
      rw [update_of_ne apart]
      exact roster.owned entry old

/-- What filling a slot changes: the slot may have a monster now, and it is on the map. -/
structure Filled (spawnId : Nat) (success : Bool) (zone after : Zone) : Prop where
  roster : Roster after
  ids : after.spawnMap.map SpawnBlock.spawnId = zone.spawnMap.map SpawnBlock.spawnId
  keys : ∀ id, (∃ entry ∈ after.spawnedMap, entry.1 = id) ↔
    (∃ entry ∈ zone.spawnedMap, entry.1 = id) ∨ id = spawnId ∧ success = true
  zeros : after.spawnedMap.countP (fun entry => entry.1 = 0) =
    zone.spawnedMap.countP fun entry => entry.1 = 0
  alive : (∀ entry ∈ zone.spawnedMap, (zone.monsters entry.2).removed = false) →
    ∀ entry ∈ after.spawnedMap, (after.monsters entry.2).removed = false
  events : after.events = zone.events
  checkSpawnEvent : after.checkSpawnEvent = zone.checkSpawnEvent

theorem fill (roster : Roster zone) {spawnId : Nat}
    (isSlot : spawnId ∈ zone.spawnMap.map SpawnBlock.spawnId)
    (empty : ∀ entry ∈ zone.spawnedMap, entry.1 ≠ spawnId) (now : Nat → Int)
    (placed : Nat → Option Position) :
    Filled spawnId (placed spawnId).isSome zone (zone.fill now placed spawnId) := by
  have nonzero : spawnId ≠ 0 := fun zero => roster.nonzero (zero ▸ isSlot)
  unfold Zone.fill
  cases isPlaced : placed spawnId with
  | none =>
    refine ⟨roster, rfl, fun id => ?_, rfl, id, rfl, rfl⟩
    simp only [Option.isSome_none, Bool.false_eq_true, and_false, or_false]
  | some position =>
    refine ⟨roster.spawnMonster isSlot empty position _, spawnId_spawnMonster _ _ _ _,
      fun id => ?_, ?_, fun alive entry member => ?_, rfl, rfl⟩
    · simp only [Zone.spawnMonster, mem_cons, exists_eq_or_imp, Option.isSome_some, and_true]
      rw [or_comm, eq_comm]
    · exact List.countP_cons_of_neg (by simpa using nonzero)
    · simp only [Zone.spawnMonster]
      rcases mem_cons.mp member with rfl | old
      · rw [update_self]
      · have apart : entry.2 ≠ zone.lastMonster + 1 := by
          have below := roster.old entry old
          omega
        rw [update_of_ne apart]
        exact alive entry old

end Roster

/-- What filling some slots changes. -/
structure Respawned (slots : List SpawnBlock) (zone after : Zone) : Prop where
  roster : Roster after
  ids : after.spawnMap.map SpawnBlock.spawnId = zone.spawnMap.map SpawnBlock.spawnId
  keys : ∀ id, (∃ entry ∈ after.spawnedMap, entry.1 = id) ↔
    (∃ entry ∈ zone.spawnedMap, entry.1 = id) ∨ id ∈ slots.map SpawnBlock.spawnId
  zeros : after.spawnedMap.countP (fun entry => entry.1 = 0) =
    zone.spawnedMap.countP fun entry => entry.1 = 0
  alive : (∀ entry ∈ zone.spawnedMap, (zone.monsters entry.2).removed = false) →
    ∀ entry ∈ after.spawnedMap, (after.monsters entry.2).removed = false
  events : after.events = zone.events
  checkSpawnEvent : after.checkSpawnEvent = zone.checkSpawnEvent

namespace Respawned

variable {zone between after : Zone}

theorem none (roster : Roster zone) : Respawned [] zone zone where
  roster := roster
  ids := rfl
  keys := fun id => by simp only [map_nil, List.not_mem_nil, or_false]
  zeros := rfl
  alive := id
  events := rfl
  checkSpawnEvent := rfl

theorem cons {sb : SpawnBlock} {placed : Nat → Option Position} {slots : List SpawnBlock}
    (first : Roster.Filled sb.spawnId (placed sb.spawnId).isSome zone between)
    (rest : Respawned (slots.filter fun sb => (placed sb.spawnId).isSome) between after) :
    Respawned ((sb :: slots).filter fun sb => (placed sb.spawnId).isSome) zone after where
  roster := rest.roster
  ids := rest.ids.trans first.ids
  keys := by
    intro id
    rw [rest.keys, first.keys, or_assoc]
    rw [filter_cons]
    split
    · next success => simp only [success, and_true, map_cons, mem_cons]
    · next fails => simp only [fails, Bool.false_eq_true, and_false, false_or]
  zeros := rest.zeros.trans first.zeros
  alive := fun alive => rest.alive (first.alive alive)
  events := rest.events.trans first.events
  checkSpawnEvent := rest.checkSpawnEvent.trans first.checkSpawnEvent

end Respawned

/-! ## Cleanup -/

/-- What a cleanup does: the monsters on the map are kept, those outside of the zone under the
id zero. -/
structure Cleaned (zone after : Zone) : Prop where
  roster : Roster after
  slots : after.spawnMap = zone.spawnMap
  keys : ∀ id, id ≠ 0 →
    ((∃ entry ∈ after.spawnedMap, entry.1 = id) ↔ zone.occupied id = true)
  zeros : after.spawnedMap.countP (fun entry => entry.1 = 0) = zone.strays.length
  alive : ∀ entry ∈ after.spawnedMap, (after.monsters entry.2).removed = false
  events : after.events = zone.events
  checkSpawnEvent : after.checkSpawnEvent = zone.checkSpawnEvent

namespace Zone

variable (zone : Zone)

theorem of_cleaned {entry kept : Nat × Nat} (cleaned : zone.cleaned entry = some kept) :
    (zone.monsters entry.2).removed = false ∧ kept.2 = entry.2 ∧
      (kept.1 = 0 ∧ (entry.1 = 0 ∨ zone.isInSpawnZone (zone.monsters entry.2).position = false) ∨
        kept.1 = entry.1 ∧ zone.isInSpawnZone (zone.monsters entry.2).position = true) := by
  unfold Zone.cleaned at cleaned
  split at cleaned
  · cases cleaned
  next onMap =>
  refine ⟨Bool.eq_false_iff.mpr onMap, ?_⟩
  split at cleaned
  · next out =>
    cases cleaned
    exact ⟨rfl, .inl ⟨rfl, .inr (by simpa using out.1)⟩⟩
  · next inside =>
    cases cleaned
    refine ⟨rfl, ?_⟩
    by_cases isZero : entry.1 = 0
    · exact .inl ⟨isZero, .inl isZero⟩
    · refine .inr ⟨rfl, ?_⟩
      cases isIn : zone.isInSpawnZone (zone.monsters entry.2).position with
      | true => rfl
      | false => exact absurd ⟨by rw [isIn]; rfl, isZero⟩ inside

variable (entries : List (Nat × Nat))

theorem cleaned_monsters :
    (entries.filterMap zone.cleaned).map Prod.snd =
      (entries.map Prod.snd).filter fun monster => !(zone.monsters monster).removed := by
  induction entries with
  | nil => rfl
  | cons entry rest ih =>
    rw [map_cons, filter_cons, ← ih]
    cases cleaned : zone.cleaned entry with
    | none =>
      have gone : (zone.monsters entry.2).removed = true := by
        unfold Zone.cleaned at cleaned
        split at cleaned
        · assumption
        · split at cleaned <;> cases cleaned
      rw [List.filterMap_cons_none cleaned, gone]
      rfl
    | some kept =>
      obtain ⟨onMap, same, -⟩ := zone.of_cleaned cleaned
      rw [List.filterMap_cons_some cleaned, map_cons, same, onMap]
      rfl

theorem cleaned_slots :
    (((entries.filterMap zone.cleaned).map Prod.fst).filter (· ≠ 0)).Sublist
      ((entries.map Prod.fst).filter (· ≠ 0)) := by
  induction entries with
  | nil => exact .refl _
  | cons entry rest ih =>
    have longer : ((rest.map Prod.fst).filter (· ≠ 0)).Sublist
        (((entry :: rest).map Prod.fst).filter (· ≠ 0)) :=
      (List.sublist_cons_self _ _).filter _
    cases cleaned : zone.cleaned entry with
    | none =>
      rw [List.filterMap_cons_none cleaned]
      exact ih.trans longer
    | some kept =>
      obtain ⟨-, -, moved | stays⟩ := zone.of_cleaned cleaned
      · rw [List.filterMap_cons_some cleaned, map_cons,
          List.filter_cons_of_neg (by simpa using moved.1)]
        exact ih.trans longer
      · rw [List.filterMap_cons_some cleaned, map_cons, map_cons, stays.1,
          filter_cons, filter_cons]
        split
        · exact ih.cons_cons _
        · exact ih

theorem occupied_iff {id : Nat} : zone.occupied id = true ↔ ∃ entry ∈ zone.spawnedMap,
    entry.1 = id ∧ (zone.monsters entry.2).removed = false ∧
      zone.isInSpawnZone (zone.monsters entry.2).position = true := by
  simp only [Zone.occupied, any_eq_true, decide_eq_true_eq]

theorem cleaned_of_mem {entry : Nat × Nat} (onMap : (zone.monsters entry.2).removed = false)
    (inside : zone.isInSpawnZone (zone.monsters entry.2).position = true) :
    zone.cleaned entry = some entry := by
  simp [Zone.cleaned, onMap, inside]

theorem cleaned_zero (entry : Nat × Nat) :
    ((zone.cleaned entry).map fun kept => decide (kept.1 = 0)).getD false =
      decide ((zone.monsters entry.2).removed = false ∧
        (entry.1 = 0 ∨ zone.isInSpawnZone (zone.monsters entry.2).position = false)) := by
  cases onMap : (zone.monsters entry.2).removed <;>
    cases inside : zone.isInSpawnZone (zone.monsters entry.2).position <;>
      by_cases isZero : entry.1 = 0 <;>
        simp [Zone.cleaned, onMap, inside, isZero]

end Zone

theorem Roster.cleanup {zone : Zone} (roster : Roster zone) : Cleaned zone zone.cleanup where
  roster := by
    constructor
    · exact roster.nodup
    · exact roster.nonzero
    · intro kept member some_
      obtain ⟨entry, inside, cleaned⟩ := mem_filterMap.mp member
      obtain ⟨-, -, moved | stays⟩ := zone.of_cleaned cleaned
      · exact absurd moved.1 some_
      · rw [stays.1]
        exact roster.known entry inside (stays.1 ▸ some_)
    · exact (zone.cleaned_slots zone.spawnedMap).nodup roster.slots
    · show ((zone.spawnedMap.filterMap zone.cleaned).map Prod.snd).Nodup
      rw [zone.cleaned_monsters]
      exact roster.monsters.filter _
    · intro kept member
      obtain ⟨entry, inside, cleaned⟩ := mem_filterMap.mp member
      rw [(zone.of_cleaned cleaned).2.1]
      exact roster.old entry inside
    · intro monster
      show zone.references monster - zone.spawnedMap.countP _ =
        ((zone.spawnedMap.filterMap zone.cleaned).map Prod.snd).count monster
      rw [zone.cleaned_monsters, roster.references]
      cases onMap : (zone.monsters monster).removed with
      | true =>
        have all : (zone.spawnedMap.countP fun entry =>
            entry.2 = monster ∧ true = true) = (zone.spawnedMap.map Prod.snd).count monster := by
          rw [List.count, List.countP_map]
          exact countP_congr fun entry _ => by simp
        rw [all, Nat.sub_self, List.count_eq_zero_of_not_mem fun member => ?_]
        have kept := (mem_filter.mp member).2
        rw [onMap] at kept
        cases kept
      | false =>
        rw [List.count_filter (by rw [onMap]; rfl),
          List.countP_eq_zero.mpr fun entry _ => by simp, Nat.sub_zero]
    · intro kept member
      obtain ⟨entry, inside, cleaned⟩ := mem_filterMap.mp member
      rw [(zone.of_cleaned cleaned).2.1]
      exact roster.owned entry inside
  slots := rfl
  keys := by
    intro id isSlot
    rw [zone.occupied_iff]
    constructor
    · rintro ⟨kept, member, rfl⟩
      obtain ⟨entry, inside, cleaned⟩ := mem_filterMap.mp member
      obtain ⟨onMap, -, moved | stays⟩ := zone.of_cleaned cleaned
      · exact absurd moved.1 isSlot
      · exact ⟨entry, inside, stays.1.symm, onMap, stays.2⟩
    · rintro ⟨entry, member, same, onMap, inside⟩
      exact ⟨entry, mem_filterMap.mpr ⟨entry, member, zone.cleaned_of_mem onMap inside⟩,
        same⟩
  zeros := by
    show (zone.spawnedMap.filterMap zone.cleaned).countP _ = _
    rw [List.countP_filterMap, Zone.strays, ← List.countP_eq_length_filter]
    exact countP_congr fun entry _ => by rw [zone.cleaned_zero]
  alive := by
    intro kept member
    obtain ⟨entry, inside, cleaned⟩ := mem_filterMap.mp member
    obtain ⟨onMap, same, -⟩ := zone.of_cleaned cleaned
    rw [same]
    exact onMap
  events := rfl
  checkSpawnEvent := rfl

/-! ## Checks -/

theorem any_congr_keys {first second : List (Nat × Nat)} {id : Nat}
    (same : (∃ entry ∈ first, entry.1 = id) ↔ ∃ entry ∈ second, entry.1 = id) :
    (first.any fun entry => entry.1 = id) = second.any fun entry => entry.1 = id := by
  rw [Bool.eq_iff_iff]
  simpa only [any_eq_true, decide_eq_true_eq] using same

/-- The slots without an entry that are due. -/
def Zone.open_ (now : Nat → Int) (rest : List SpawnBlock) : List SpawnBlock :=
  rest.filter fun sb =>
    !(zone.spawnedMap.any fun entry => entry.1 = sb.spawnId) && Zone.isDue now sb

/-- **The loop of `checkSpawn`** tries as many of the open slots as `RATE_SPAWN` allows. -/
theorem respawn_spec (rate : UInt32) (now : Nat → Int) (placed : Nat → Option Position)
    (rest : List SpawnBlock) : ∀ (spawnCount : Nat) (zone : Zone), Roster zone →
      (∀ sb ∈ rest, sb.spawnId ∈ zone.spawnMap.map SpawnBlock.spawnId) →
      (rest.map SpawnBlock.spawnId).Nodup → spawnCount < max rate.toNat 1 →
      Respawned (((zone.open_ now rest).take (max rate.toNat 1 - spawnCount)).filter fun sb =>
        (placed sb.spawnId).isSome) zone (Zone.respawn rate now placed rest spawnCount zone) := by
  induction rest with
  | nil =>
    intro spawnCount zone roster _ _ _
    rw [Zone.open_, List.filter_nil, List.take_nil]
    exact .none roster
  | cons sb rest ih =>
    intro spawnCount zone roster known nodup below
    obtain ⟨apart, nodup⟩ := nodup_cons.mp nodup
    have later := fun sb inside => known sb (List.mem_cons_of_mem _ inside)
    rw [Zone.respawn, Zone.open_, filter_cons]
    by_cases taken : (zone.spawnedMap.any fun entry => entry.1 = sb.spawnId) = true
    · simp only [taken, if_true, Bool.not_true, Bool.false_and, Bool.false_eq_true, if_false]
      exact ih spawnCount zone roster later nodup below
    simp only [taken, Bool.not_false, Bool.true_and, Bool.false_eq_true, if_false]
    by_cases due : Zone.isDue now sb = true
    · have isDue : now sb.spawnId ≥ sb.lastSpawn + sb.interval.toNat := of_decide_eq_true due
      rw [if_pos isDue, if_pos due]
      have empty : ∀ entry ∈ zone.spawnedMap, entry.1 ≠ sb.spawnId := by
        intro entry member same
        exact taken (any_eq_true.mpr ⟨entry, member, decide_eq_true same⟩)
      have filled := roster.fill (known sb List.mem_cons_self) empty now placed
      have more : max rate.toNat 1 - spawnCount = max rate.toNat 1 - (spawnCount + 1) + 1 := by
        omega
      rw [more, List.take_succ_cons]
      split
      · next full =>
        have none : max rate.toNat 1 - (spawnCount + 1) = 0 := by omega
        rw [none, List.take_zero]
        exact .cons filled (.none filled.roster)
      · next goesOn =>
        have sameOpen : zone.open_ now rest =
            (zone.fill now placed sb.spawnId).open_ now rest := by
          refine filter_congr fun other inside => ?_
          have other_ne : other.spawnId ≠ sb.spawnId := fun same =>
            apart (same ▸ mem_map_of_mem inside)
          have same : (∃ entry ∈ zone.spawnedMap, entry.1 = other.spawnId) ↔
              ∃ entry ∈ (zone.fill now placed sb.spawnId).spawnedMap,
                entry.1 = other.spawnId := by
            rw [filled.keys, or_iff_left fun both => other_ne both.1]
          rw [any_congr_keys same]
        rw [Zone.open_] at sameOpen
        rw [sameOpen]
        exact .cons filled (ih (spawnCount + 1) _ filled.roster
          (fun sb inside => filled.ids ▸ later sb inside) nodup (by omega))
    · have notDue : ¬now sb.spawnId ≥ sb.lastSpawn + sb.interval.toNat := fun is =>
        due (decide_eq_true is)
      rw [if_neg notDue, if_neg due]
      exact ih spawnCount zone roster later nodup below

/-! ## The check -/

theorem vacant_filter_isDue {zone after : Zone} (cleaned : Cleaned zone after)
    (nonzero : 0 ∉ zone.spawnMap.map SpawnBlock.spawnId) (now : Nat → Int) :
    after.open_ now after.spawnMap = zone.vacant.filter (Zone.isDue now) := by
  rw [Zone.open_, Zone.vacant, filter_filter, cleaned.slots]
  refine filter_congr fun sb inside => ?_
  have isSlot : sb.spawnId ≠ 0 := fun zero =>
    nonzero (mem_map.mpr ⟨sb, inside, zero⟩)
  have same : (after.spawnedMap.any fun entry => entry.1 = sb.spawnId) =
      zone.occupied sb.spawnId := by
    rw [Bool.eq_iff_iff, ← cleaned.keys _ isSlot]
    simp only [any_eq_true, decide_eq_true_eq]
  rw [same, Bool.and_comm]

/-- A zone after the loop of `checkSpawn`. -/
theorem Roster.checked {zone : Zone} (roster : Roster zone) (rate : UInt32) (now : Nat → Int)
    (placed : Nat → Option Position) :
    Respawned (zone.filled rate now placed) zone.cleanup
      (Zone.respawn rate now placed zone.cleanup.spawnMap 0 zone.cleanup) := by
  have cleaned := roster.cleanup
  have spec := respawn_spec rate now placed zone.cleanup.spawnMap 0 zone.cleanup cleaned.roster
    (fun sb inside => mem_map_of_mem inside) cleaned.roster.nodup (by omega)
  rwa [vacant_filter_isDue cleaned roster.nonzero, Nat.sub_zero] at spec

variable {monster : Nat} {rate : UInt32} {now : Nat → Int} {placed : Nat → Option Position}

theorem mem_filled {zone : Zone} {sb : SpawnBlock}
    (member : sb ∈ zone.filled rate now placed) : sb ∈ zone.spawnMap := by
  have taken := List.mem_of_mem_take (mem_filter.mp member).1
  exact (mem_filter.mp (mem_filter.mp taken).1).1

theorem Roster.empty_iff {zone after : Zone} (roster : Roster zone) {between : Zone}
    (cleaned : Cleaned zone between)
    (checked : Respawned (zone.filled rate now placed) between after) {sb : SpawnBlock}
    (inside : sb ∈ zone.spawnMap) :
    (∀ entry ∈ after.spawnedMap, entry.1 ≠ sb.spawnId) ↔
      sb ∈ zone.leftEmpty rate now placed := by
  have isSlot : sb.spawnId ≠ 0 := fun zero =>
    roster.nonzero (mem_map.mpr ⟨sb, inside, zero⟩)
  have isFilled : sb.spawnId ∈ (zone.filled rate now placed).map SpawnBlock.spawnId ↔
      sb ∈ zone.filled rate now placed := by
    constructor
    · intro member
      obtain ⟨other, filled, same⟩ := mem_map.mp member
      have isSame := List.inj_on_of_nodup_map roster.nodup (mem_filled filled) inside same
      exact isSame ▸ filled
    · exact fun member => mem_map_of_mem member
  have hasEntry := (checked.keys sb.spawnId).trans (or_congr (cleaned.keys _ isSlot) isFilled)
  have noEntry : (∀ entry ∈ after.spawnedMap, entry.1 ≠ sb.spawnId) ↔
      ¬∃ entry ∈ after.spawnedMap, entry.1 = sb.spawnId := by
    simp only [not_exists, not_and, ne_eq]
  rw [noEntry, hasEntry, Zone.leftEmpty, Zone.vacant, mem_filter, mem_filter]
  simp [inside]

theorem length_filter_ids {first second : List SpawnBlock}
    (same : first.map SpawnBlock.spawnId = second.map SpawnBlock.spawnId) (p : Nat → Bool) :
    (first.filter fun sb => p sb.spawnId).length =
      (second.filter fun sb => p sb.spawnId).length := by
  have lengths := congrArg (fun ids => (ids.filter p).length) same
  simp only [filter_map, length_map] at lengths
  exact lengths

/-- **A check asks for another** if it leaves more slots empty than there are strays. -/
theorem Roster.rearms_iff {zone after : Zone} (roster : Roster zone) {between : Zone}
    (cleaned : Cleaned zone between)
    (checked : Respawned (zone.filled rate now placed) between after) :
    after.spawnedMap.length < after.spawnMap.length ↔
      zone.strays.length < (zone.leftEmpty rate now placed).length := by
  rw [checked.roster.length_lt_iff, checked.zeros, cleaned.zeros]
  have ids : after.spawnMap.map SpawnBlock.spawnId = zone.spawnMap.map SpawnBlock.spawnId := by
    rw [checked.ids, cleaned.slots]
  rw [length_filter_ids ids fun id => !after.spawnedMap.any fun entry => entry.1 = id]
  have same : (zone.spawnMap.filter fun sb =>
      !after.spawnedMap.any fun entry => entry.1 = sb.spawnId) =
        zone.leftEmpty rate now placed := by
    rw [Zone.leftEmpty, Zone.vacant, filter_filter]
    refine filter_congr fun sb inside => ?_
    rw [Bool.eq_iff_iff]
    have empty := roster.empty_iff cleaned checked inside
    rw [Zone.leftEmpty, Zone.vacant, filter_filter, mem_filter] at empty
    simpa [inside] using empty
  rw [same]

theorem emptySlotsWait_iff {zone : Zone}
    (alive : ∀ entry ∈ zone.spawnedMap, (zone.monsters entry.2).removed = false) :
    EmptySlotsWait zone ↔ zone.events ≠ [] ∨ ∀ id ∈ zone.spawnMap.map SpawnBlock.spawnId,
      ¬∀ entry ∈ zone.spawnedMap, entry.1 ≠ id := by
  rw [List.forall_mem_map]
  constructor
  · intro waits
    refine or_iff_not_imp_left.mpr fun none sb inside empty => none ?_
    exact waits sb inside fun entry member same => absurd same (empty entry member)
  · rintro (pending | full) sb inside dead
    · exact pending
    · refine absurd (fun entry member same => ?_) (full sb inside)
      have removed := dead entry member same
      rw [alive entry member] at removed
      cases removed

/-! ## One step -/

theorem Roster.sound_iff {zone : Zone} (roster : Roster zone) : Sound zone ↔ EmptySlotsWait zone :=
  ⟨Sound.waits, fun waits => ⟨waits, roster.eq_of_slot, roster.held⟩⟩

/-- The pending events are the one in `checkSpawnEvent`. -/
def OneEvent : Prop :=
  zone.events = if zone.checkSpawnEvent = 0 then [] else [zone.checkSpawnEvent]

theorem oneEvent_addEvent {zone : Zone} (none : zone.events = []) : OneEvent zone.addEvent := by
  rw [OneEvent, Zone.addEvent, if_neg (Nat.succ_ne_zero _), none]

theorem Roster.addEvent {zone : Zone} (roster : Roster zone) : Roster zone.addEvent :=
  { roster with }

/-- **A check** leaves a roster, and another check pending or every slot full as `Waits` says. -/
theorem Invariant.checkSpawn {zone : Zone} (invariant : Invariant zone) {event : Nat}
    (pending : event ∈ zone.events) (rate : UInt32) (now : Nat → Int)
    (placed : Nat → Option Position) :
    let after := { zone with events := zone.events.erase event }.checkSpawn rate now placed
    Roster after ∧ OneEvent after ∧
      (EmptySlotsWait after ↔ Waits zone (.checkSpawn event rate now placed)) := by
  intro after
  have none : zone.events.erase event = [] := by
    rw [invariant.events] at pending ⊢
    split at pending
    · cases pending
    · next isPending =>
      rw [if_neg isPending, List.mem_singleton.mp pending, List.erase_cons_head]
  let fired : Zone := { zone with events := zone.events.erase event, checkSpawnEvent := 0 }
  have roster : Roster fired := { invariant.toRoster with }
  have cleaned := roster.cleanup
  have checked := roster.checked rate now placed
  generalize isBetween : Zone.respawn rate now placed fired.cleanup.spawnMap 0 fired.cleanup =
    between at checked
  have isAfter : after =
      if between.spawnedMap.length < between.spawnMap.length then between.addEvent else between := by
    rw [← isBetween]
    rfl
  have events : between.events = [] := checked.events.trans (cleaned.events.trans none)
  have rearms := roster.rearms_iff cleaned checked
  have full : (∀ id ∈ between.spawnMap.map SpawnBlock.spawnId,
      ¬∀ entry ∈ between.spawnedMap, entry.1 ≠ id) ↔ zone.leftEmpty rate now placed = [] := by
    have ids : between.spawnMap.map SpawnBlock.spawnId = zone.spawnMap.map SpawnBlock.spawnId := by
      rw [checked.ids, cleaned.slots]
    rw [ids, List.forall_mem_map, List.eq_nil_iff_forall_not_mem]
    constructor
    · intro allFull sb left
      have inside : sb ∈ zone.spawnMap := (mem_filter.mp (mem_filter.mp left).1).1
      exact allFull sb inside ((roster.empty_iff cleaned checked inside).mpr left)
    · intro noneLeft sb inside empty
      exact noneLeft sb ((roster.empty_iff cleaned checked inside).mp empty)
  have alive := checked.alive cleaned.alive
  rw [isAfter]
  by_cases less : between.spawnedMap.length < between.spawnMap.length
  · rw [if_pos less]
    refine ⟨checked.roster.addEvent, oneEvent_addEvent events, ?_⟩
    have pendingAfter : between.addEvent.events ≠ [] := cons_ne_nil _ _
    exact ⟨fun _ => .inr (rearms.mp less), fun _ _ _ _ => pendingAfter⟩
  · rw [if_neg less]
    refine ⟨checked.roster, ?_, ?_⟩
    · rw [OneEvent, events, checked.checkSpawnEvent, cleaned.checkSpawnEvent]
      rfl
    · rw [emptySlotsWait_iff alive, full, events]
      have notMore : ¬zone.strays.length < (zone.leftEmpty rate now placed).length :=
        fun more => less (rearms.mpr more)
      simp only [Waits, ne_eq, not_true_eq_false, false_or, notMore, or_false]

theorem Roster.update {zone : Zone} (roster : Roster zone) (monster : Nat) (state : Monster)
    (owned : ∀ entry ∈ zone.spawnedMap, entry.2 = monster → state.removed = false →
      state.spawn = true) :
    Roster { zone with monsters := Function.update zone.monsters monster state } := by
  refine { roster with owned := fun entry member => ?_ }
  by_cases same : entry.2 = monster
  · simp only [same, update_self]
    exact owned entry member same
  · simp only [update_of_ne same]
    exact roster.owned entry member

theorem Invariant.emptySlotsWait_iff_of_gone {zone after : Zone} (invariant : Invariant zone)
    (slots : after.spawnMap = zone.spawnMap) (events : after.events = zone.events)
    (entries : ∀ entry, (entry ∈ after.spawnedMap ∧ (after.monsters entry.2).removed = false) ↔
      entry ∈ zone.spawnedMap ∧ (zone.monsters entry.2).removed = false ∧ entry.2 ≠ monster) :
    EmptySlotsWait after ↔ zone.events ≠ [] ∨
      ∀ entry ∈ zone.spawnedMap, entry.2 = monster → entry.1 = 0 := by
  constructor
  · intro waits
    refine or_iff_not_imp_left.mpr fun none entry member same => ?_
    by_contra isSlot
    obtain ⟨sb, inside, isId⟩ := mem_map.mp (invariant.known entry member isSlot)
    rw [← events] at none
    refine none (waits sb (slots ▸ inside) fun other otherMember ofSlot => ?_)
    by_contra stays
    obtain ⟨old, -, other_ne⟩ := (entries other).mp ⟨otherMember, Bool.eq_false_iff.mpr stays⟩
    have isSame := invariant.eq_of_slot entry member other old isSlot
      (isId.symm.trans ofSlot.symm)
    exact other_ne (isSame ▸ same)
  · rintro (pending | stray) sb inside dead
    · exact events ▸ pending
    · rw [events]
      rw [slots] at inside
      refine invariant.waits sb inside fun entry member ofSlot => ?_
      by_contra stays
      have alive := Bool.eq_false_iff.mpr stays
      have entry_ne : entry.2 ≠ monster := fun same =>
        invariant.nonzero (mem_map.mpr ⟨sb, inside, ofSlot ▸ stray entry member same⟩)
      obtain ⟨kept, onMapStill⟩ := (entries entry).mpr ⟨member, alive, entry_ne⟩
      rw [dead entry kept ofSlot] at onMapStill
      cases onMapStill

theorem mem_of_removed (monster : Nat) (entry : Nat × Nat) :
    (entry ∈ zone.spawnedMap ∧ (Function.update zone.monsters monster
        { zone.monsters monster with removed := true } entry.2).removed = false) ↔
      entry ∈ zone.spawnedMap ∧ (zone.monsters entry.2).removed = false ∧ entry.2 ≠ monster := by
  by_cases same : entry.2 = monster
  · simp [same]
  · rw [update_of_ne same, and_iff_left same]

theorem Invariant.onRemoveCreature {zone : Zone} (invariant : Invariant zone)
    (onMap : (zone.monsters monster).removed = false) (handled : Bool) :
    Roster (zone.onRemoveCreature monster handled) ∧
      OneEvent (zone.onRemoveCreature monster handled) ∧
        (EmptySlotsWait (zone.onRemoveCreature monster handled) ↔
          Waits zone (.remove monster handled)) := by
  generalize isGone : { zone with
    monsters := Function.update zone.monsters monster
      { zone.monsters monster with removed := true } } = gone
  have roster : Roster gone := isGone ▸ invariant.toRoster.update monster
    { zone.monsters monster with removed := true } fun _ _ _ => nofun
  have oneEvent : OneEvent gone := isGone ▸ invariant.events
  have waits : EmptySlotsWait gone ↔ zone.events ≠ [] ∨
      ∀ entry ∈ zone.spawnedMap, entry.2 = monster → entry.1 = 0 := by
    rw [← isGone]
    exact invariant.emptySlotsWait_iff_of_gone rfl rfl (mem_of_removed zone monster)
  have isAfter : zone.onRemoveCreature monster handled = if handled then gone
      else if (gone.monsters monster).spawn then gone.startSpawnCheck else gone := by
    rw [← isGone]
    rfl
  rw [isAfter]
  cases handled with
  | true => exact ⟨roster, oneEvent, by simpa [Waits] using waits⟩
  | false =>
    simp only [Bool.false_eq_true, if_false, Waits, true_or, iff_true]
    split
    · rw [Zone.startSpawnCheck]
      split
      · next none =>
        have noEvents : gone.events = [] := by
          rw [OneEvent, if_pos none] at oneEvent
          exact oneEvent
        exact ⟨roster.addEvent, oneEvent_addEvent noEvents,
          fun _ _ _ => cons_ne_nil _ _⟩
      · next pending =>
        refine ⟨roster, oneEvent, fun _ _ _ => ?_⟩
        rw [oneEvent, if_neg pending]
        exact cons_ne_nil _ _
    · next notOwned =>
      refine ⟨roster, oneEvent, waits.mpr (.inr fun entry member same => ?_)⟩
      -- A monster that is on the map and kept by the spawn belongs to it.
      have spawn := invariant.owned entry member (same ▸ onMap)
      rw [← isGone] at notOwned
      simp only [update_self] at notOwned
      exact absurd (same ▸ spawn) notOwned

theorem map_snd_eraseP (entries : List (Nat × Nat)) (monster : Nat) :
    (entries.eraseP fun entry => entry.2 = monster).map Prod.snd =
      (entries.map Prod.snd).erase monster := by
  rw [List.erase_eq_eraseP, List.eraseP_map]
  congr 2
  funext entry
  rw [comp_apply, Bool.beq_comm]
  rfl

theorem Roster.mem_removeMonster {zone : Zone} (roster : Roster zone) (monster : Nat)
    (entry : Nat × Nat) : entry ∈ (zone.removeMonster monster).spawnedMap ↔
      entry ∈ zone.spawnedMap ∧ entry.2 ≠ monster := by
  unfold Zone.removeMonster
  split
  · by_cases same : entry.2 = monster
    · refine iff_of_false (fun member => ?_) fun both => both.2 same
      have isMember : entry.2 ∈
          (zone.spawnedMap.eraseP fun entry => entry.2 = monster).map Prod.snd :=
        mem_map_of_mem member
      rw [map_snd_eraseP, same] at isMember
      exact roster.monsters.not_mem_erase isMember
    · rw [and_iff_left same]
      exact List.mem_eraseP_of_neg (by simpa using same)
  · next absent =>
    refine (and_iff_left_of_imp fun member same => absent ?_).symm
    exact any_eq_true.mpr ⟨entry, member, decide_eq_true same⟩

theorem Roster.removeMonster {zone : Zone} (roster : Roster zone) (monster : Nat) :
    Roster (zone.removeMonster monster) := by
  unfold Zone.removeMonster
  split
  · have fewer : (zone.spawnedMap.eraseP fun entry => entry.2 = monster).Sublist zone.spawnedMap :=
      List.eraseP_sublist
    constructor
    · exact roster.nodup
    · exact roster.nonzero
    · exact fun entry member => roster.known entry (fewer.subset member)
    · exact ((fewer.map Prod.fst).filter _).nodup roster.slots
    · exact (fewer.map Prod.snd).nodup roster.monsters
    · exact fun entry member => roster.old entry (fewer.subset member)
    · intro other
      show Function.update zone.references monster (zone.references monster - 1) other =
        ((zone.spawnedMap.eraseP fun entry => entry.2 = monster).map Prod.snd).count other
      rw [map_snd_eraseP]
      by_cases same : other = monster
      · rw [same, update_self, List.count_erase_self, roster.references]
      · rw [update_of_ne same, List.count_erase_of_ne same, roster.references]
    · exact fun entry member => roster.owned entry (fewer.subset member)
  · exact roster

theorem removeMonster_slots (monster : Nat) :
    (zone.removeMonster monster).spawnMap = zone.spawnMap ∧
      (zone.removeMonster monster).monsters = zone.monsters ∧
        (zone.removeMonster monster).events = zone.events ∧
          (zone.removeMonster monster).checkSpawnEvent = zone.checkSpawnEvent := by
  unfold Zone.removeMonster
  split <;> exact ⟨rfl, rfl, rfl, rfl⟩

theorem Invariant.convinceCreature {zone : Zone} (invariant : Invariant zone)
    (onMap : (zone.monsters monster).removed = false) :
    Roster (zone.convinceCreature monster) ∧ OneEvent (zone.convinceCreature monster) ∧
      (EmptySlotsWait (zone.convinceCreature monster) ↔ Waits zone (.convince monster)) := by
  unfold Zone.convinceCreature
  split
  · have member := invariant.mem_removeMonster monster
    obtain ⟨slots, monsters, events, checkSpawnEvent⟩ := removeMonster_slots zone monster
    refine ⟨(invariant.removeMonster monster).update monster _ fun entry inside same _ =>
      absurd same ((member entry).mp inside).2, ?_, ?_⟩
    · show (zone.removeMonster monster).events = _
      rw [events, invariant.events]
      rw [checkSpawnEvent]
    · refine invariant.emptySlotsWait_iff_of_gone slots events fun entry => ?_
      show entry ∈ (zone.removeMonster monster).spawnedMap ∧
        (Function.update (zone.removeMonster monster).monsters monster _ entry.2).removed = false ↔ _
      rw [member, monsters]
      by_cases same : entry.2 = monster
      · simp [same]
      · simp [same]
  · next notOwned =>
    refine ⟨invariant.toRoster, invariant.events, iff_of_true invariant.waits ?_⟩
    refine .inr fun entry member same => ?_
    have spawn := invariant.owned entry member (same ▸ onMap)
    exact absurd (same ▸ spawn) notOwned

theorem Invariant.walk {zone : Zone} (invariant : Invariant zone) (monster : Nat)
    (position : Position) :
    Roster (zone.walk monster position) ∧ OneEvent (zone.walk monster position) ∧
      EmptySlotsWait (zone.walk monster position) := by
  have still : ∀ other, (Function.update zone.monsters monster
      { zone.monsters monster with position := position } other).removed =
        (zone.monsters other).removed := by
    intro other
    by_cases same : other = monster
    · rw [same, update_self]
    · rw [update_of_ne same]
  refine ⟨invariant.toRoster.update monster _ fun entry member same onMap => ?_,
    invariant.events, fun sb inside dead => ?_⟩
  · exact same ▸ invariant.owned entry member (same ▸ onMap)
  · refine invariant.waits sb inside fun entry member ofSlot => ?_
    rw [← still]
    exact dead entry member ofSlot

/-- **One step** keeps the roster, and leaves a check pending or every slot full as `Waits`
says. -/
theorem Invariant.step {zone : Zone} (invariant : Invariant zone) {op : Op}
    (legal : system.legal zone op) :
    Roster (system.step zone op) ∧ OneEvent (system.step zone op) ∧
      (EmptySlotsWait (system.step zone op) ↔ Waits zone op) := by
  cases op with
  | checkSpawn event rate now placed => exact invariant.checkSpawn legal rate now placed
  | remove monster handled => exact invariant.onRemoveCreature legal handled
  | convince monster => exact invariant.convinceCreature legal
  | walk monster position =>
    obtain ⟨roster, oneEvent, waits⟩ := invariant.walk monster position
    exact ⟨roster, oneEvent, iff_of_true waits trivial⟩

/-! ## The start -/

variable (slots : List (Position × UInt32))

theorem addMonster_numbered : ∀ spawn : Spawn,
    spawn.spawnMap.map SpawnBlock.spawnId = List.range' 1 spawn.spawnMap.length →
      ((slots.foldl (fun spawn slot => spawn.addMonster slot.1 slot.2) spawn).spawnMap.map
        SpawnBlock.spawnId) = List.range' 1 (slots.foldl (fun spawn slot =>
          spawn.addMonster slot.1 slot.2) spawn).spawnMap.length := by
  induction slots with
  | nil => exact fun _ numbered => numbered
  | cons slot rest ih =>
    intro spawn numbered
    refine ih (spawn.addMonster slot.1 slot.2) ?_
    simp only [Spawn.addMonster, List.map_append, map_cons, map_nil,
      List.length_append, List.length_cons, List.length_nil, numbered]
    rw [Nat.zero_add, List.range'_concat, Nat.one_mul, Nat.add_comm 1]

variable (centerPos : Position) (radius : Int)

theorem numbered_load (slots : List (Position × UInt32)) :
    (load centerPos radius slots).spawnMap.map SpawnBlock.spawnId =
      List.range' 1 (load centerPos radius slots).spawnMap.length :=
  addMonster_numbered slots _ rfl

theorem foldl_addMonster_spawnedMap : ∀ spawn : Spawn,
    (slots.foldl (fun spawn slot => spawn.addMonster slot.1 slot.2) spawn).spawnedMap =
        spawn.spawnedMap ∧
      (slots.foldl (fun spawn slot => spawn.addMonster slot.1 slot.2) spawn).checkSpawnEvent =
        spawn.checkSpawnEvent := by
  induction slots with
  | nil => exact fun _ => ⟨rfl, rfl⟩
  | cons slot rest ih => exact fun spawn => ih (spawn.addMonster slot.1 slot.2)

theorem Roster.load (centerPos : Position) (radius : Int) (slots : List (Position × UInt32)) :
    Roster (load centerPos radius slots) := by
  have none : (Spawns.load centerPos radius slots).spawnedMap = [] :=
    (foldl_addMonster_spawnedMap slots _).1
  have ids := numbered_load centerPos radius slots
  constructor
  · rw [ids]
    exact List.nodup_range'
  · rw [ids]
    intro inside
    have positive := (List.mem_range'_1.mp inside).1
    omega
  · rw [none]
    exact nofun
  · rw [none]
    exact List.nodup_nil
  · rw [none]
    exact List.nodup_nil
  · rw [none]
    exact nofun
  · rw [none]
    exact fun _ => rfl
  · exact nofun

/-- **Startup** fills the slots whose monsters can be placed. -/
theorem startup_spec (now : Nat → Int) (placed : Nat → Option Position)
    (rest : List SpawnBlock) : ∀ zone : Zone, Roster zone →
      (∀ sb ∈ rest, sb.spawnId ∈ zone.spawnMap.map SpawnBlock.spawnId ∧
        ∀ entry ∈ zone.spawnedMap, entry.1 ≠ sb.spawnId) →
      (rest.map SpawnBlock.spawnId).Nodup →
      Respawned (rest.filter fun sb => (placed sb.spawnId).isSome) zone
        (rest.foldl (fun zone sb => zone.fill now placed sb.spawnId) zone) := by
  induction rest with
  | nil => exact fun zone roster _ _ => .none roster
  | cons sb rest ih =>
    intro zone roster isOpen nodup
    obtain ⟨apart, nodup⟩ := nodup_cons.mp nodup
    obtain ⟨isSlot, empty⟩ := isOpen sb List.mem_cons_self
    have filled := roster.fill isSlot empty now placed
    refine .cons filled (ih _ filled.roster (fun other inside => ?_) nodup)
    have later := isOpen other (List.mem_cons_of_mem _ inside)
    refine ⟨filled.ids ▸ later.1, fun entry member same => ?_⟩
    rcases (filled.keys other.spawnId).mp ⟨entry, member, same⟩ with ⟨old, oldMember, ofSlot⟩ | new
    · exact later.2 old oldMember ofSlot
    · exact apart (new.1 ▸ mem_map_of_mem inside)

/-- A spawn after startup. -/
def started (slots : List (Position × UInt32))
    (now : Nat → Int) (placed : Nat → Option Position) : Zone :=
  (load centerPos radius slots).startup now placed

theorem started_spec (slots : List (Position × UInt32))
    (now : Nat → Int) (placed : Nat → Option Position) :
    Roster (started centerPos radius slots now placed) ∧
      OneEvent (started centerPos radius slots now placed) ∧
        (EmptySlotsWait (started centerPos radius slots now placed) ↔
          ∀ sb ∈ (load centerPos radius slots).spawnMap, (placed sb.spawnId).isSome) := by
  have roster := Roster.load centerPos radius slots
  obtain ⟨none, noCheck⟩ := foldl_addMonster_spawnedMap slots
    { centerPos := centerPos, radius := radius }
  have noEntry : (load centerPos radius slots).spawnedMap = [] := none
  have checked := startup_spec now placed (load centerPos radius slots).spawnMap
    (load centerPos radius slots) roster
    (fun sb inside => ⟨mem_map_of_mem inside, by rw [noEntry]; exact nofun⟩) roster.nodup
  generalize isStarted : started centerPos radius slots now placed = start
  rw [started, Zone.startup] at isStarted
  rw [isStarted] at checked
  have alive := checked.alive (by rw [noEntry]; exact nofun)
  have events : start.events = [] := checked.events
  refine ⟨checked.roster, ?_, ?_⟩
  · rw [OneEvent, events, checked.checkSpawnEvent]
    exact (if_pos noCheck).symm
  · rw [emptySlotsWait_iff alive, events, checked.ids, List.forall_mem_map]
    simp only [ne_eq, not_true_eq_false, false_or]
    refine forall₂_congr fun sb inside => ?_
    have hasEntry : (¬∀ entry ∈ start.spawnedMap, ¬entry.1 = sb.spawnId) ↔
        ∃ entry ∈ start.spawnedMap, entry.1 = sb.spawnId := by
      simp only [not_forall, not_not, exists_prop]
    rw [hasEntry, checked.keys, noEntry]
    simp only [List.not_mem_nil, false_and, exists_false, false_or, mem_map, mem_filter]
    constructor
    · rintro ⟨other, ⟨-, isPlaced⟩, same⟩
      exact same ▸ isPlaced
    · exact fun isPlaced => ⟨sb, ⟨inside, isPlaced⟩, rfl⟩

/-! ## Runs -/

/-- **No slot is abandoned** exactly where every monster of startup is placed, a check leaves no
slot empty or more than there are strays, and no monster of a slot is convinced or removed by
a script's leave while no check is pending. -/
theorem spawns_sound_iff (centerPos : Position) (radius : Int) (slots : List (Position × UInt32))
    (now : Nat → Int) (placed : Nat → Option Position) {ops : List Op}
    (legal : system.Legal (started centerPos radius slots now placed) ops) :
    Sound (started centerPos radius slots now placed) ∧
        system.Throughout (fun _ _ after => Sound after)
          (started centerPos radius slots now placed) ops ↔
      (∀ sb ∈ (load centerPos radius slots).spawnMap, (placed sb.spawnId).isSome) ∧
        system.Throughout (fun before op _ => Waits before op)
          (started centerPos radius slots now placed) ops := by
  obtain ⟨roster, oneEvent, waits⟩ := started_spec centerPos radius slots now placed
  rw [roster.sound_iff, waits]
  refine and_congr_right fun allPlaced => ?_
  have initial : Invariant (started centerPos radius slots now placed) :=
    ⟨roster, oneEvent, waits.mpr allPlaced⟩
  have step : ∀ before op, Invariant before → system.legal before op →
      (Sound (system.step before op) ↔ Waits before op) ∧
        (Sound (system.step before op) → Invariant (system.step before op)) := by
    intro before op invariant allowed
    obtain ⟨roster, oneEvent, waits⟩ := invariant.step allowed
    rw [roster.sound_iff]
    exact ⟨waits, fun wait => ⟨roster, oneEvent, wait⟩⟩
  exact System.Throughout.iff_of_invariant step initial legal

instance : ∀ (zone : Zone) (op : Op), Decidable (system.legal zone op)
  | zone, .checkSpawn event _ _ _ => inferInstanceAs (Decidable (event ∈ zone.events))
  | zone, .remove monster _ | zone, .convince monster | zone, .walk monster _ =>
    inferInstanceAs (Decidable ((zone.monsters monster).removed = false))

/-- The middle of the zone. -/
def center : Position := ⟨100, 100, 7⟩

/-- Two slots in the middle, each filled again after a minute. -/
def wolves (placed : Nat → Option Position) : Zone :=
  started center 3 [(center, 60000), (center, 60000)] (fun _ => 0) placed

/-- A wolf dies and another takes its place. -/
def dies : List Op :=
  [.remove 1 false, .checkSpawn 1 1 (fun _ => 60000) fun _ => some center]

theorem spawns_sound_iff_wolves :
    Sound (wolves fun _ => some center) ∧
        system.Throughout (fun _ _ after => Sound after) (wolves fun _ => some center) dies ↔
      (∀ sb ∈ (load center 3 [(center, 60000), (center, 60000)]).spawnMap,
          ((fun _ => some center : Nat → Option Position) sb.spawnId).isSome) ∧
        system.Throughout (fun before op _ => Waits before op) (wolves fun _ => some center)
          dies :=
  spawns_sound_iff center 3 [(center, 60000), (center, 60000)] (fun _ => 0) (fun _ => some center)
    (by decide)

/-- A wolf strays from the zone and the other one dies: the check fills the first slot and then
counts two monsters, for two slots. -/
def strays : List Op :=
  [.walk 1 ⟨200, 100, 7⟩, .remove 2 false, .checkSpawn 1 1 (fun _ => 60000) fun _ => some center]

/-- A slot is abandoned where the monsters of startup could not be placed, after one has
strayed, and after one was convinced. -/
theorem slot_abandoned :
    ¬Sound (wolves fun _ => none) ∧
      (system.Legal (wolves fun _ => some center) strays ∧
        ¬Sound (system.run (wolves fun _ => some center) strays)) ∧
      system.Legal (wolves fun _ => some center) [.convince 1] ∧
        ¬Sound (system.run (wolves fun _ => some center) [.convince 1]) := by
  refine ⟨fun sound => ?_, ⟨by decide, fun sound => ?_⟩, by decide, fun sound => ?_⟩
  · exact sound.waits ⟨1, center, 0, 60000⟩ (by decide) (by decide) (by decide)
  · exact sound.waits ⟨2, center, 0, 60000⟩ (by decide) (by decide) (by decide)
  · exact sound.waits ⟨1, center, 0, 60000⟩ (by decide) (by decide) (by decide)

end Otserv.Spawns
