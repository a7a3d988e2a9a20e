import Otserv.World.SpectatorCache

/-!
# What `getSpectators` answers over whole runs

The operations are placing, moving and removing a creature and asking for
spectators. They keep the leaves, the tiles and the creatures' positions in step
(`Coherent`), so that a scan of the map is a scan of its creatures
(`mem_uncached_iff`).

As long as the calls that fill a cache are made with a vector of creatures the
call selects itself, each cache holds what an uncached call would answer
(`CachesRight`, `getSpectators_answers_of_own_scan`).
-/

namespace Otserv.World

open Otserv.Foundation
open Function (update update_of_ne update_self)

/-- A creature is on the map when a leaf lists it. -/
def OnMap (map : Map Unit) (creature : Creature) : Prop :=
  ∃ leaf, creature ∈ (map.leaves leaf).creatureList

/-- Each creature on the map is listed once, in the leaf of its position, and
the players among them in the leaf's list of players. -/
structure LeavesCoherent (map : Map Unit) (position : Creature → Position) : Prop where
  linked : map.WellLinked
  nodup : ∀ leaf, (map.leaves leaf).creatureList.Nodup
  nodupPlayers : ∀ leaf, (map.leaves leaf).playerList.Nodup
  players : ∀ leaf creature, creature ∈ (map.leaves leaf).playerList ↔
    creature ∈ (map.leaves leaf).creatureList ∧ creature.isPlayer = true
  home : ∀ leaf creature, creature ∈ (map.leaves leaf).creatureList →
    map.leafOf (position creature) = some leaf

/-- The creatures of a tile are on the map, at the tile's position. -/
structure TilesCoherent (map : Map Unit) (position : Creature → Position)
    (creatures : Position → List Creature) : Prop where
  nodup : ∀ pos, (creatures pos).Nodup
  standing : ∀ pos creature, creature ∈ creatures pos → position creature = pos ∧ OnMap map creature

structure Coherent (world : LiveMap) : Prop where
  leaves : LeavesCoherent world.map world.position
  tiles : TilesCoherent world.map world.position world.creatures

/-! ## The uncached scan -/

/-- What an uncached call returns for an empty vector. -/
def uncached (world : LiveMap) (call : SpectatorsCall) : List Creature :=
  if mapMaxLayers ≤ call.centerPos.z.toNat then []
  else getSpectatorsInternal world.map world.position [] call.centerPos call.range
    call.onlyPlayers

/-- The creature is on the map, of the kind asked for, and within the ranges. -/
def Selected (world : LiveMap) (call : SpectatorsCall) (creature : Creature) : Prop :=
  OnMap world.map creature ∧ (call.onlyPlayers = true → creature.isPlayer = true) ∧
    InShiftedRange call.centerPos call.range (world.position creature)

/-- The creatures on the map, leaf by leaf. -/
def creaturesOnMap (map : Map Unit) : List Creature :=
  (List.range map.allocated).flatMap fun leaf => (map.leaves leaf).creatureList

variable {world : LiveMap} {map : Map Unit} {position : Creature → Position} {pos : Position}
  {creature : Creature}

theorem LeavesCoherent.leaf_lt (coherent : LeavesCoherent map position) {leaf : Nat}
    (member : creature ∈ (map.leaves leaf).creatureList) : leaf < map.allocated := by
  have found := coherent.home leaf creature member
  rw [leafOf_eq_leafAt coherent.linked] at found
  exact coherent.linked.allocated _ leaf found

theorem LeavesCoherent.mem_creaturesOnMap
    (coherent : LeavesCoherent map position) (creature : Creature) :
    creature ∈ creaturesOnMap map ↔ OnMap map creature := by
  simp only [creaturesOnMap, List.mem_flatMap, List.mem_range, OnMap]
  constructor
  · rintro ⟨leaf, -, member⟩
    exact ⟨leaf, member⟩
  · rintro ⟨leaf, member⟩
    exact ⟨leaf, coherent.leaf_lt member, member⟩

theorem LeavesCoherent.mem_leaf_iff
    (coherent : LeavesCoherent map position) (leaf : Nat) (creature : Creature) :
    creature ∈ (map.leaves leaf).creatureList ↔
      OnMap map creature ∧ map.leafOf (position creature) = some leaf := by
  constructor
  · exact fun member => ⟨⟨leaf, member⟩, coherent.home leaf creature member⟩
  · rintro ⟨⟨other, member⟩, found⟩
    have same := coherent.home other creature member
    rw [found, Option.some.injEq] at same
    exact same ▸ member

theorem LeavesCoherent.placed
    (coherent : LeavesCoherent map position) : Placed map position (creaturesOnMap map) := by
  have distinct : (creaturesOnMap map).Nodup := by
    refine List.nodup_flatMap.mpr ⟨fun leaf _ => coherent.nodup leaf, ?_⟩
    refine List.nodup_range.imp fun {first second} different creature inFirst inSecond => ?_
    have same := (coherent.home first creature inFirst).symm.trans
      (coherent.home second creature inSecond)
    exact different (Option.some.inj same)
  refine ⟨distinct, fun creature member => ?_, fun cell leaf found => ?_, fun cell leaf found => ?_⟩
  · obtain ⟨leaf, listed⟩ := (coherent.mem_creaturesOnMap creature).mp member
    rw [coherent.home leaf creature listed]
    rfl
  · refine (List.perm_ext_iff_of_nodup (coherent.nodup leaf) (distinct.filter _)).mpr
      fun creature => ?_
    rw [List.mem_filter, coherent.mem_creaturesOnMap, coherent.mem_leaf_iff, decide_eq_true_iff]
  · refine (List.perm_ext_iff_of_nodup (coherent.nodupPlayers leaf)
      ((distinct.filter _).filter _)).mpr fun creature => ?_
    rw [List.mem_filter, List.mem_filter, coherent.mem_creaturesOnMap, coherent.players,
      coherent.mem_leaf_iff, decide_eq_true_iff]

/-- The walk adds the selected creatures to those of the vector. -/
theorem LeavesCoherent.mem_getSpectatorsInternal_iff
    (coherent : LeavesCoherent world.map world.position) (spectators : List Creature)
    (call : SpectatorsCall) (creature : Creature) :
    creature ∈ getSpectatorsInternal world.map world.position spectators call.centerPos
        call.range call.onlyPlayers ↔
      creature ∈ spectators ∨ Selected world call creature := by
  obtain ⟨appended, equation, perm⟩ := getSpectatorsInternal_of_wellLinked coherent.linked
    coherent.placed spectators call.centerPos call.range call.onlyPlayers
  rw [equation, List.mem_append, perm.mem_iff, scan, List.mem_filter,
    coherent.mem_creaturesOnMap, Selected]
  cases call.onlyPlayers <;> simp

/-- **The uncached scan selects from the creatures on the map.** -/
theorem mem_uncached_iff (coherent : LeavesCoherent world.map world.position)
    (call : SpectatorsCall) (creature : Creature) :
    creature ∈ uncached world call ↔
      call.centerPos.z.toNat < mapMaxLayers ∧ Selected world call creature := by
  unfold uncached
  split
  · rename_i outside
    simp only [List.not_mem_nil, false_iff, not_and]
    omega
  · rename_i inside
    rw [coherent.mem_getSpectatorsInternal_iff]
    simp only [List.not_mem_nil, false_or]
    exact ⟨fun selected => ⟨by omega, selected⟩, fun both => both.2⟩

/-! ## One call -/

/-- The default call at a position. -/
def defaultCall (centerPos : Position) (onlyPlayers : Bool) : SpectatorsCall where
  centerPos := centerPos
  multifloor := true
  onlyPlayers := onlyPlayers

/-- Each cache holds what default calls select now. -/
structure CachesRight (world : LiveMap) : Prop where
  all : ∀ centerPos cached, world.spectatorCache centerPos = some cached →
    ∀ creature, creature ∈ cached ↔ Selected world (defaultCall centerPos false) creature
  players : ∀ centerPos cached, world.playersSpectatorCache centerPos = some cached →
    ∀ creature, creature ∈ cached ↔ Selected world (defaultCall centerPos true) creature

/-- The call stores its vector: it is a default call that neither cache answers. -/
def FillsCache (world : LiveMap) (call : SpectatorsCall) : Prop :=
  call.centerPos.z.toNat < mapMaxLayers ∧ call.cacheable = true ∧
    (call.onlyPlayers = true → world.playersSpectatorCache call.centerPos = none) ∧
    world.spectatorCache call.centerPos = none

theorem mem_addSpectators_iff (creature : Creature) :
    ∀ (added spectators : List Creature),
      creature ∈ addSpectators spectators added ↔ creature ∈ spectators ∨ creature ∈ added
  | [], spectators => by simp [addSpectators]
  | first :: added, spectators => by
      have rest := mem_addSpectators_iff creature added
        (if first ∈ spectators then spectators else spectators ++ [first])
      rw [addSpectators, List.foldl_cons, ← addSpectators, rest]
      by_cases present : first ∈ spectators
      · rw [if_pos present, List.mem_cons]
        constructor
        · rintro (inVector | later)
          · exact .inl inVector
          · exact .inr (.inr later)
        · rintro (inVector | rfl | later)
          · exact .inl inVector
          · exact .inl present
          · exact .inr later
      · rw [if_neg present, List.mem_append, List.mem_singleton, List.mem_cons, or_assoc]

theorem mem_addCached_iff (creature : Creature) (spectators cached : List Creature) :
    creature ∈ addCached spectators cached ↔ creature ∈ spectators ∨ creature ∈ cached := by
  unfold addCached
  split
  · rename_i empty
    rw [List.isEmpty_iff.mp empty]
    simp
  · exact mem_addSpectators_iff creature cached spectators

theorem selected_of_cacheable (world : LiveMap) {call : SpectatorsCall}
    (cacheable : call.cacheable = true) (creature : Creature) :
    Selected world call creature ↔
      Selected world (defaultCall call.centerPos call.onlyPlayers) creature := by
  have same : call.range = (defaultCall call.centerPos call.onlyPlayers).range := by
    simp only [SpectatorsCall.cacheable, Bool.decide_and, Bool.and_eq_true, decide_eq_true_eq,
      Bool.decide_eq_true] at cacheable
    obtain ⟨minX, maxX, minY, maxY, floors⟩ := cacheable
    have whole : call.range = ⟨call.range.minRangeX, call.range.maxRangeX, call.range.minRangeY,
      call.range.maxRangeY, call.range.minRangeZ, call.range.maxRangeZ⟩ := rfl
    rw [whole, minX, maxX, minY, maxY]
    simp [SpectatorsCall.range, defaultCall, floors]
  rw [Selected, Selected, same]
  rfl

/-- Same map, same positions, same tiles: only the caches may differ. -/
structure SamePlaces (world after : LiveMap) : Prop where
  map : after.map = world.map
  position : after.position = world.position
  creatures : after.creatures = world.creatures

theorem SamePlaces.coherent {world after : LiveMap} (same : SamePlaces world after)
    (coherent : Coherent world) : Coherent after where
  leaves := by
    rw [same.map, same.position]
    exact coherent.leaves
  tiles := by
    rw [same.map, same.position, same.creatures]
    exact coherent.tiles

theorem samePlaces_getSpectators (world : LiveMap) (spectators : List Creature)
    (call : SpectatorsCall) : SamePlaces world (getSpectators world spectators call).1 := by
  unfold getSpectators
  dsimp only
  repeat' split
  all_goals exact ⟨rfl, rfl, rfl⟩

theorem CachesRight.storeAll (right : CachesRight world) {centerPos : Position}
    {stored : List Creature}
    (answers : ∀ creature, creature ∈ stored ↔
      Selected world (defaultCall centerPos false) creature) :
    CachesRight { world with
      spectatorCache := update world.spectatorCache centerPos (some stored) } where
  all pos cached found := by
    dsimp only at found
    by_cases here : pos = centerPos
    · subst here
      rw [update_self, Option.some.injEq] at found
      exact found ▸ answers
    · rw [update_of_ne here] at found
      exact right.all pos cached found
  players := right.players

theorem CachesRight.storePlayers (right : CachesRight world)
    {centerPos : Position} {stored : List Creature}
    (answers : ∀ creature, creature ∈ stored ↔
      Selected world (defaultCall centerPos true) creature) :
    CachesRight { world with
      playersSpectatorCache :=
        update world.playersSpectatorCache centerPos (some stored) } where
  all := right.all
  players pos cached found := by
    dsimp only at found
    by_cases here : pos = centerPos
    · subst here
      rw [update_self, Option.some.injEq] at found
      exact found ▸ answers
    · rw [update_of_ne here] at found
      exact right.players pos cached found

theorem selected_players_iff (world : LiveMap) (centerPos : Position) (creature : Creature) :
    Selected world (defaultCall centerPos true) creature ↔
      Selected world (defaultCall centerPos false) creature ∧ creature.isPlayer = true := by
  have same : (defaultCall centerPos true).range = (defaultCall centerPos false).range := rfl
  simp only [Selected, same]
  simp only [defaultCall, Bool.false_eq_true, false_implies, forall_const, true_and]
  constructor
  · rintro ⟨onMap, player, near⟩
    exact ⟨⟨onMap, near⟩, player⟩
  · rintro ⟨⟨onMap, near⟩, player⟩
    exact ⟨onMap, player, near⟩

/-- The vector holds what was in it and what the call selects. -/
def Answered (world : LiveMap) (spectators : List Creature) (call : SpectatorsCall)
    (result : List Creature) : Prop :=
  ∀ creature, creature ∈ result ↔ creature ∈ spectators ∨ creature ∈ uncached world call

/-- **One call.** With right caches a call is answered right, and when it fills
a cache with a vector of selected creatures only, the caches stay right. -/
theorem getSpectators_answered
    (coherent : LeavesCoherent world.map world.position) (right : CachesRight world)
    (spectators : List Creature) (call : SpectatorsCall)
    (own : FillsCache world call → ∀ creature ∈ spectators, Selected world call creature) :
    Answered world spectators call (getSpectators world spectators call).2 ∧
      CachesRight (getSpectators world spectators call).1 := by
  unfold Answered
  simp only [mem_uncached_iff coherent]
  unfold getSpectators
  by_cases outside : mapMaxLayers ≤ call.centerPos.z.toNat
  · rw [if_pos outside]
    exact ⟨fun creature => by simp [Nat.not_lt.mpr outside], right⟩
  have inside : call.centerPos.z.toNat < mapMaxLayers := Nat.not_le.mp outside
  simp only [if_neg outside, inside, true_and]
  have scanned := coherent.mem_getSpectatorsInternal_iff spectators call
  cases cacheable : call.cacheable with
  | false => exact ⟨scanned, right⟩
  | true =>
    have selected := selected_of_cacheable world cacheable
    rw [if_pos rfl]
    cases onlyPlayers : call.onlyPlayers with
    | true =>
      rw [onlyPlayers] at scanned selected
      cases players : world.playersSpectatorCache call.centerPos with
      | some cached =>
        refine ⟨fun creature => ?_, right⟩
        rw [if_pos rfl, mem_addCached_iff, right.players _ _ players, selected]
      | none =>
        cases all : world.spectatorCache call.centerPos with
        | some cached =>
          refine ⟨fun creature => ?_, right⟩
          simp only [if_true, List.mem_append, List.mem_filter]
          rw [right.all _ _ all, selected, selected_players_iff]
        | none =>
          refine ⟨scanned, right.storePlayers fun creature => ?_⟩
          have fills : FillsCache world call := ⟨inside, cacheable, fun _ => players, all⟩
          rw [scanned, selected]
          exact ⟨fun either => either.elim
            (fun member => (selected creature).mp (own fills creature member)) id, .inr⟩
    | false =>
      rw [onlyPlayers] at scanned selected
      cases all : world.spectatorCache call.centerPos with
      | some cached =>
        refine ⟨fun creature => ?_, right⟩
        simp only [Bool.false_eq_true, if_false]
        rw [mem_addCached_iff, right.all _ _ all, selected]
      | none =>
        refine ⟨scanned, right.storeAll fun creature => ?_⟩
        have fills : FillsCache world call :=
          ⟨inside, cacheable, fun player => by simp [onlyPlayers] at player, all⟩
        rw [scanned, selected]
        exact ⟨fun either => either.elim
          (fun member => (selected creature).mp (own fills creature member)) id, .inr⟩

/-! ## Creatures enter and leave leaves -/

theorem creatureList_modifyLeaf (map : Map Unit) (address leaf : Nat)
    (change : QTreeLeafNode Unit → QTreeLeafNode Unit) :
    ((map.modifyLeaf address change).leaves leaf).creatureList =
      if leaf = address then (change (map.leaves leaf)).creatureList
      else (map.leaves leaf).creatureList := by
  rw [Map.leaves_modifyLeaf]
  split <;> rfl

theorem playerList_modifyLeaf (map : Map Unit) (address leaf : Nat)
    (change : QTreeLeafNode Unit → QTreeLeafNode Unit) :
    ((map.modifyLeaf address change).leaves leaf).playerList =
      if leaf = address then (change (map.leaves leaf)).playerList
      else (map.leaves leaf).playerList := by
  rw [Map.leaves_modifyLeaf]
  split <;> rfl

@[simp] theorem leafOf_modifyLeaf (map : Map Unit) (address : Nat)
    (change : QTreeLeafNode Unit → QTreeLeafNode Unit) (pos : Position) :
    (map.modifyLeaf address change).leafOf pos = map.leafOf pos := rfl

section Leaves

variable {map : Map Unit} {position : Creature → Position}

section

variable (coherent : LeavesCoherent map position)
include coherent

variable {pos : Position} {creature : Creature}

theorem LeavesCoherent.enter
    (off : ¬ OnMap map creature) {leaf : Nat} (at_ : map.leafOf pos = some leaf) :
    LeavesCoherent (map.modifyLeaf leaf (addCreature creature))
        (update position creature pos) ∧
      ∀ other, OnMap (map.modifyLeaf leaf (addCreature creature)) other ↔
        other = creature ∨ OnMap map other := by
  have notListed : ∀ leaf, creature ∉ (map.leaves leaf).creatureList :=
    fun leaf member => off ⟨leaf, member⟩
  have notPlayer : ∀ leaf, creature ∉ (map.leaves leaf).playerList :=
    fun leaf member => notListed leaf ((coherent.players leaf creature).mp member).1
  have members : ∀ address other,
      other ∈ ((map.modifyLeaf leaf (addCreature creature)).leaves address).creatureList ↔
        other ∈ (map.leaves address).creatureList ∨ address = leaf ∧ other = creature := by
    intro address other
    rw [creatureList_modifyLeaf]
    by_cases here : address = leaf
    · simp [here, addCreature]
    · simp [here]
  refine ⟨⟨?_, ?_, ?_, ?_, ?_⟩, fun other => ?_⟩
  · exact coherent.linked.of_sameLinks
      (map.sameLinks_modifyLeaf leaf (fun _ => rfl) (fun _ => rfl))
  · intro address
    rw [creatureList_modifyLeaf]
    split
    · have longer := (coherent.nodup address).concat (notListed address)
      rwa [List.concat_eq_append] at longer
    · exact coherent.nodup address
  · intro address
    rw [playerList_modifyLeaf]
    split
    · dsimp only [addCreature]
      split
      · have longer := (coherent.nodupPlayers address).concat (notPlayer address)
        rwa [List.concat_eq_append] at longer
      · exact coherent.nodupPlayers address
    · exact coherent.nodupPlayers address
  · intro address other
    have before := coherent.players address other
    rw [members, playerList_modifyLeaf]
    by_cases here : address = leaf
    · cases player : creature.isPlayer with
      | true =>
        simp only [here, if_true, addCreature, player, List.mem_append, List.mem_singleton,
          true_and]
        rw [← here, before]
        constructor
        · rintro (⟨listed, isPlayer⟩ | rfl)
          · exact ⟨.inl listed, isPlayer⟩
          · exact ⟨.inr rfl, player⟩
        · rintro ⟨listed | rfl, isPlayer⟩
          · exact .inl ⟨listed, isPlayer⟩
          · exact .inr rfl
      | false =>
        simp only [here, if_true, addCreature, player, Bool.false_eq_true, if_false, true_and]
        rw [← here, before]
        constructor
        · rintro ⟨listed, isPlayer⟩
          exact ⟨.inl listed, isPlayer⟩
        · rintro ⟨listed | rfl, isPlayer⟩
          · exact ⟨listed, isPlayer⟩
          · rw [player] at isPlayer
            cases isPlayer
    · simp [here, before]
  · intro address other member
    rcases (members address other).mp member with listed | ⟨rfl, rfl⟩
    · have different : other ≠ creature := by
        rintro rfl
        exact notListed address listed
      rw [update_of_ne different]
      exact coherent.home address other listed
    · rw [update_self]
      exact at_
  · constructor
    · rintro ⟨address, member⟩
      rcases (members address other).mp member with listed | ⟨-, same⟩
      · exact .inr ⟨address, listed⟩
      · exact .inl same
    · rintro (same | ⟨address, listed⟩)
      · exact ⟨leaf, (members leaf other).mpr (.inr ⟨rfl, same⟩)⟩
      · exact ⟨address, (members address other).mpr (.inl listed)⟩

theorem LeavesCoherent.leave {leaf : Nat} (listed : creature ∈ (map.leaves leaf).creatureList) :
    LeavesCoherent (map.modifyLeaf leaf (removeCreature creature)) position ∧
      ∀ other, OnMap (map.modifyLeaf leaf (removeCreature creature)) other ↔
        other ≠ creature ∧ OnMap map other := by
  have only : ∀ address, creature ∈ (map.leaves address).creatureList → address = leaf := by
    intro address member
    have same := (coherent.home address creature member).symm.trans
      (coherent.home leaf creature listed)
    exact Option.some.inj same
  have members : ∀ address other,
      other ∈ ((map.modifyLeaf leaf (removeCreature creature)).leaves address).creatureList ↔
        other ≠ creature ∧ other ∈ (map.leaves address).creatureList := by
    intro address other
    rw [creatureList_modifyLeaf]
    by_cases here : address = leaf
    · rw [if_pos here]
      exact mem_swapRemove (here ▸ listed) (coherent.nodup address)
    · rw [if_neg here]
      refine ⟨fun member => ⟨?_, member⟩, fun both => both.2⟩
      rintro rfl
      exact here (only address member)
  refine ⟨⟨?_, ?_, ?_, ?_, ?_⟩, fun other => ?_⟩
  · exact coherent.linked.of_sameLinks
      (map.sameLinks_modifyLeaf leaf (fun _ => rfl) (fun _ => rfl))
  · intro address
    rw [creatureList_modifyLeaf]
    split
    · rename_i here
      exact nodup_swapRemove (here ▸ listed) (coherent.nodup address)
    · exact coherent.nodup address
  · intro address
    rw [playerList_modifyLeaf]
    split
    · rename_i here
      dsimp only [removeCreature]
      split
      · rename_i player
        have present := (coherent.players leaf creature).mpr ⟨listed, player⟩
        exact nodup_swapRemove (here ▸ present) (coherent.nodupPlayers address)
      · exact coherent.nodupPlayers address
    · exact coherent.nodupPlayers address
  · intro address other
    have before := coherent.players address other
    rw [members, playerList_modifyLeaf, and_assoc, ← before]
    by_cases here : address = leaf
    · rw [if_pos here]
      cases player : creature.isPlayer with
      | true =>
        have present := (coherent.players leaf creature).mpr ⟨listed, player⟩
        simp only [removeCreature, player, if_true]
        exact mem_swapRemove (here ▸ present) (coherent.nodupPlayers address)
      | false =>
        simp only [removeCreature, player, Bool.false_eq_true, if_false]
        refine ⟨fun member => ⟨?_, member⟩, fun both => both.2⟩
        rintro rfl
        rw [before, player] at member
        cases member.2
    · rw [if_neg here]
      refine ⟨fun member => ⟨?_, member⟩, fun both => both.2⟩
      rintro rfl
      exact here (only address (before.mp member).1)
  · intro address other member
    exact coherent.home address other ((members address other).mp member).2
  · constructor
    · rintro ⟨address, member⟩
      have both := (members address other).mp member
      exact ⟨both.1, address, both.2⟩
    · rintro ⟨different, address, member⟩
      exact ⟨address, (members address other).mpr ⟨different, member⟩⟩

theorem LeavesCoherent.relocate
    (same : OnMap map creature → map.leafOf pos = map.leafOf (position creature)) :
    LeavesCoherent map (update position creature pos) := by
  refine ⟨coherent.linked, coherent.nodup, coherent.nodupPlayers, coherent.players, ?_⟩
  intro leaf other member
  by_cases here : other = creature
  · subst here
    rw [update_self, same ⟨leaf, member⟩]
    exact coherent.home leaf other member
  · rw [update_of_ne here]
    exact coherent.home leaf other member

theorem LeavesCoherent.lists_setTile (pos : Position) :
    (map.setTile (fun old _ => old) pos ()).lists = map.lists := by
  rcases Map.lists_setTile coherent.linked (fun old _ => old) pos () with same | new
  · exact same
  · have nobody : ∀ creature, creature ∉ (map.leaves map.allocated).creatureList :=
      fun creature member => Nat.lt_irrefl _ (coherent.leaf_lt member)
    have noPlayer : ∀ creature, creature ∉ (map.leaves map.allocated).playerList :=
      fun creature member => nobody creature ((coherent.players _ creature).mp member).1
    rw [new]
    refine Function.update_eq_self_iff.mpr ?_
    simp only [Map.lists, Prod.mk.injEq]
    exact ⟨(List.eq_nil_iff_forall_not_mem.mpr nobody).symm,
      (List.eq_nil_iff_forall_not_mem.mpr noPlayer).symm⟩

theorem LeavesCoherent.setTile (layer : pos.z.toNat < 16) :
    LeavesCoherent (map.setTile (fun old _ => old) pos ()) position ∧
      (∀ creature, OnMap (map.setTile (fun old _ => old) pos ()) creature ↔ OnMap map creature) ∧
      ((map.setTile (fun old _ => old) pos ()).leafOf pos).isSome := by
  have lists := coherent.lists_setTile pos
  have linked := coherent.linked.setTile (fun old _ => old) pos ()
  have found := Map.leafAt_setTile coherent.linked (fun old _ => old) layer ()
  have creatureList : ∀ leaf, ((map.setTile (fun old _ => old) pos ()).leaves leaf).creatureList =
      (map.leaves leaf).creatureList := fun leaf => congrArg Prod.fst (congrFun lists leaf)
  have playerList : ∀ leaf, ((map.setTile (fun old _ => old) pos ()).leaves leaf).playerList =
      (map.leaves leaf).playerList := fun leaf => congrArg Prod.snd (congrFun lists leaf)
  refine ⟨⟨linked, ?_, ?_, ?_, ?_⟩, fun creature => ?_, ?_⟩
  · intro leaf
    rw [creatureList]
    exact coherent.nodup leaf
  · intro leaf
    rw [playerList]
    exact coherent.nodupPlayers leaf
  · intro leaf creature
    rw [creatureList, playerList]
    exact coherent.players leaf creature
  · intro leaf creature member
    rw [creatureList] at member
    have home := coherent.home leaf creature member
    rw [leafOf_eq_leafAt coherent.linked] at home
    rw [leafOf_eq_leafAt linked, found]
    by_cases here : cellOfPosition (position creature) = cellOf pos.x.toNat pos.y.toNat
    · rw [here] at home ⊢
      rw [update_self, Map.getLeaf_eq_leafAt coherent.linked.regular, home]
      rfl
    · rw [update_of_ne here]
      exact home
  · simp only [OnMap, creatureList]
  · rw [leafOf_eq_leafAt linked, found, cellOfPosition, update_self]
    rfl

end

end Leaves

/-! ## Creatures enter and leave tiles -/

section Tiles

variable {map after : Map Unit} {position : Creature → Position}
  {creatures : Position → List Creature}

theorem TilesCoherent.enter (coherent : TilesCoherent map position creatures)
    {creature : Creature} (absent : ∀ pos, creature ∉ creatures pos) (pos : Position)
    (entered : OnMap after creature)
    (kept : ∀ other, other ≠ creature → OnMap map other → OnMap after other) :
    TilesCoherent after (update position creature pos)
      (update creatures pos (creature :: creatures pos)) := by
  refine ⟨fun tilePos => ?_, fun tilePos other member => ?_⟩
  · by_cases here : tilePos = pos
    · subst here
      rw [update_self]
      exact List.nodup_cons.mpr ⟨absent tilePos, coherent.nodup tilePos⟩
    · rw [update_of_ne here]
      exact coherent.nodup tilePos
  · by_cases same : other = creature
    · subst same
      by_cases here : tilePos = pos
      · exact ⟨(update_self ..).trans here.symm, entered⟩
      · rw [update_of_ne here] at member
        exact absurd member (absent tilePos)
    · have before : other ∈ creatures tilePos := by
        by_cases here : tilePos = pos
        · subst here
          simpa [same] using member
        · rwa [update_of_ne here] at member
      obtain ⟨stands, on⟩ := coherent.standing tilePos other before
      rw [update_of_ne same]
      exact ⟨stands, kept other same on⟩

theorem TilesCoherent.leave (coherent : TilesCoherent map position creatures)
    {creature : Creature} {pos : Position} (present : creature ∈ creatures pos)
    (kept : ∀ other, other ≠ creature → OnMap map other → OnMap after other) :
    TilesCoherent after position
        (update creatures pos ((creatures pos).erase creature)) ∧
      ∀ tilePos, creature ∉ update creatures pos ((creatures pos).erase creature) tilePos
    := by
  have members : ∀ tilePos other,
      other ∈ update creatures pos ((creatures pos).erase creature) tilePos →
        other ≠ creature ∧ other ∈ creatures tilePos := by
    intro tilePos other member
    by_cases here : tilePos = pos
    · subst here
      rw [update_self] at member
      exact (coherent.nodup tilePos).mem_erase_iff.mp member
    · rw [update_of_ne here] at member
      refine ⟨?_, member⟩
      rintro rfl
      exact here ((coherent.standing tilePos other member).1.symm.trans
        (coherent.standing pos other present).1)
  refine ⟨⟨fun tilePos => ?_, fun tilePos other member => ?_⟩, fun tilePos member => ?_⟩
  · by_cases here : tilePos = pos
    · subst here
      rw [update_self]
      exact (coherent.nodup tilePos).erase creature
    · rw [update_of_ne here]
      exact coherent.nodup tilePos
  · obtain ⟨different, before⟩ := members tilePos other member
    obtain ⟨stands, on⟩ := coherent.standing tilePos other before
    exact ⟨stands, kept other different on⟩
  · exact (members tilePos creature member).1 rfl

end Tiles

/-! ## The operations -/

/-- After the operation no cache is left that the creature may belong in, and
the other creatures are where they were. -/
structure Touches (creature : Creature) (world after : LiveMap) : Prop where
  all : ∀ pos, after.spectatorCache pos = none
  players : ∀ pos, after.playersSpectatorCache pos = none ∨
    creature.isPlayer = false ∧
      after.playersSpectatorCache pos = world.playersSpectatorCache pos
  onMap : ∀ other, other ≠ creature → (OnMap after.map other ↔ OnMap world.map other)
  position : ∀ other, other ≠ creature → after.position other = world.position other

/-- **Clearing is enough.** A cache that is kept answers for players only, and
the creature is none. -/
theorem Touches.cachesRight {world after : LiveMap}
    (touches : Touches creature world after) (right : CachesRight world) : CachesRight after where
  all pos cached found := by
    rw [touches.all] at found
    cases found
  players pos cached found other := by
    rcases touches.players pos with cleared | ⟨monster, kept⟩
    · rw [cleared] at found
      cases found
    · rw [kept] at found
      have before := right.players pos cached found other
      rw [before]
      by_cases here : other = creature
      · subst here
        simp [Selected, defaultCall, monster]
      · rw [Selected, Selected, touches.onMap other here, touches.position other here]

theorem getTile_leafOf (tile : (map.getTile pos).isSome) : (map.leafOf pos).isSome := by
  unfold Map.getTile at tile
  unfold Map.leafOf
  split at tile
  · cases found : map.getLeaf pos.x.toNat pos.y.toNat with
    | none =>
      rw [found] at tile
      cases tile
    | some leaf => rfl
  · cases tile

theorem changeLeaf_of_some {leaf : Nat}
    (found : world.map.leafOf pos = some leaf) (change : QTreeLeafNode Unit → QTreeLeafNode Unit) :
    changeLeaf pos change world = { world with map := world.map.modifyLeaf leaf change } := by
  rw [changeLeaf, found]

theorem changeLeaf_changeLeaf {pos newPos : Position} {leaf newLeaf : Nat}
    (found : world.map.leafOf pos = some leaf) (foundNew : world.map.leafOf newPos = some newLeaf)
    (change newChange : QTreeLeafNode Unit → QTreeLeafNode Unit) :
    changeLeaf newPos newChange (changeLeaf pos change world) =
      { world with map := (world.map.modifyLeaf leaf change).modifyLeaf newLeaf newChange } := by
  rw [changeLeaf_of_some found, changeLeaf, leafOf_modifyLeaf, foundNew]

/-- The tile `placeCreature` finds has a leaf, and looking for it leaves the
creatures of the map. -/
theorem findTile_coherent
    (coherent : LeavesCoherent map position) (search : PlaceSearch) (centerPos : Position)
    (layer : search.flyingLogin = true → centerPos.z.toNat < 16) :
    LeavesCoherent (findTile search centerPos map).1 position ∧
      (∀ creature, OnMap (findTile search centerPos map).1 creature ↔ OnMap map creature) ∧
      (∀ pos, (findTile search centerPos map).2 = some pos →
        ((findTile search centerPos map).1.leafOf pos).isSome) ∧
      ((findTile search centerPos map).2 = none → (findTile search centerPos map).1 = map) := by
  unfold findTile
  dsimp only
  split
  · rename_i accepted
    refine ⟨coherent, fun _ => .rfl, ?_, fun _ => rfl⟩
    rintro pos ⟨⟩
    exact getTile_leafOf accepted.1
  · split
    · rename_i flying
      split
      · rename_i tile
        refine ⟨coherent, fun _ => .rfl, ?_, fun _ => rfl⟩
        rintro pos ⟨⟩
        exact getTile_leafOf tile
      · obtain ⟨after, onMap, leaf⟩ := coherent.setTile (layer flying)
        refine ⟨after, onMap, ?_, fun none => by cases none⟩
        rintro pos ⟨⟩
        exact leaf
    · refine ⟨coherent, fun _ => .rfl, fun pos found => ?_, fun _ => rfl⟩
      have accepted := List.find?_some found
      rw [Bool.and_eq_true] at accepted
      exact getTile_leafOf accepted.1

theorem leafOf_queryDestination (search : PlaceSearch)
    (leaf : (map.leafOf pos).isSome) : (map.leafOf (queryDestination search map pos)).isSome := by
  unfold queryDestination
  split
  · split
    · rename_i tile
      exact getTile_leafOf tile
    · exact leaf
  · exact leaf

/-- **Placing a creature** keeps the map coherent and touches this creature only. -/
theorem placeCreature_coherent (coherent : Coherent world)
    (off : ¬ OnMap world.map creature) (search : PlaceSearch)
    (centerPos : Position) (layer : search.flyingLogin = true → centerPos.z.toNat < 16) :
    Coherent (placeCreature search centerPos creature world).1 ∧
      ((placeCreature search centerPos creature world).1 = world ∨
        Touches creature world (placeCreature search centerPos creature world).1) := by
  obtain ⟨leaves, onMap, hasLeaf, unchanged⟩ :=
    findTile_coherent coherent.leaves search centerPos layer
  unfold placeCreature
  rcases searched : findTile search centerPos world.map with ⟨map, _ | pos⟩
  · rw [searched] at unchanged
    have same : map = world.map := unchanged rfl
    subst same
    exact ⟨coherent, .inl rfl⟩
  · rw [searched] at leaves onMap hasLeaf
    dsimp only at leaves onMap hasLeaf ⊢
    obtain ⟨leaf, found⟩ := Option.isSome_iff_exists.mp
      (leafOf_queryDestination search (hasLeaf pos rfl))
    generalize queryDestination search map pos = dest at found ⊢
    have offNow : ¬ OnMap map creature := fun on => off ((onMap creature).mp on)
    obtain ⟨entered, members⟩ := leaves.enter offNow found
    rw [changeLeaf_of_some (by exact found)]
    have absent : ∀ tilePos, creature ∉ world.creatures tilePos :=
      fun tilePos member => off (coherent.tiles.standing tilePos creature member).2
    have tiles := coherent.tiles.enter absent dest ((members creature).mpr (.inl rfl))
      fun other _ on => (members other).mpr (.inr ((onMap other).mpr on))
    refine ⟨⟨entered, tiles⟩, .inr ⟨fun _ => rfl, fun tilePos => ?_, fun other different => ?_,
      fun other different => update_of_ne different ..⟩⟩
    · cases player : creature.isPlayer with
      | true => exact .inl (by simp [addThing, clearCaches, player])
      | false => exact .inr ⟨rfl, by simp [addThing, clearCaches, player]⟩
    · exact (members other).trans ((or_iff_right different).trans (onMap other))

/-- **Removing a creature** from its tile keeps the map coherent and touches this
creature only. -/
theorem removeFromTile_coherent (coherent : Coherent world)
    (present : creature ∈ world.creatures pos) :
    Coherent (removeFromTile pos creature world) ∧
      Touches creature world (removeFromTile pos creature world) := by
  obtain ⟨stands, leaf, listed⟩ := coherent.tiles.standing pos creature present
  have found := coherent.leaves.home leaf creature listed
  rw [stands] at found
  obtain ⟨left, members⟩ := coherent.leaves.leave listed
  have tiles := coherent.tiles.leave present
    fun other different on => (members other).mpr ⟨different, on⟩
  unfold removeFromTile
  rw [changeLeaf_of_some found, removeThing, if_pos present]
  refine ⟨⟨left, tiles.1⟩, ⟨fun _ => rfl, fun tilePos => ?_, fun other different => ?_,
    fun _ _ => rfl⟩⟩
  · cases player : creature.isPlayer with
    | true => exact .inl (by simp [clearCaches, player])
    | false => exact .inr ⟨rfl, by simp [clearCaches, player]⟩
  · exact (members other).trans (and_iff_right different)

theorem switchTile_coherent (coherent : Coherent world)
    {oldPos newPos : Position} (present : creature ∈ world.creatures oldPos)
    (hasLeaf : (world.map.leafOf newPos).isSome) :
    Coherent (switchTile oldPos newPos creature world) ∧
      Touches creature world (switchTile oldPos newPos creature world) := by
  obtain ⟨stands, leaf, listed⟩ := coherent.tiles.standing oldPos creature present
  have found := coherent.leaves.home leaf creature listed
  rw [stands] at found
  obtain ⟨newLeaf, foundNew⟩ := Option.isSome_iff_exists.mp hasLeaf
  unfold switchTile
  rw [removeThing, if_pos present]
  dsimp only [clearCaches]
  split
  · rename_i sameLeaf
    obtain ⟨left, absent⟩ := coherent.tiles.leave present fun _ _ on => on
    have tiles := left.enter absent newPos ⟨leaf, listed⟩ fun _ _ on => on
    have leaves : LeavesCoherent world.map (update world.position creature newPos) :=
      coherent.leaves.relocate fun _ => stands ▸ sameLeaf.symm
    refine ⟨⟨leaves, tiles⟩, ⟨fun _ => rfl, fun tilePos => ?_, fun _ _ => .rfl,
      fun other different => update_of_ne different ..⟩⟩
    cases player : creature.isPlayer with
    | true => exact .inl (by simp [addThing, clearCaches, player])
    | false => exact .inr ⟨rfl, by simp [addThing, clearCaches, player]⟩
  · obtain ⟨leftLeaf, leftMembers⟩ := coherent.leaves.leave listed
    have off : ¬ OnMap (world.map.modifyLeaf leaf (removeCreature creature)) creature :=
      fun on => ((leftMembers creature).mp on).1 rfl
    obtain ⟨leaves, members⟩ := leftLeaf.enter off foundNew
    have kept : ∀ other, other ≠ creature → (OnMap ((world.map.modifyLeaf leaf
        (removeCreature creature)).modifyLeaf newLeaf (addCreature creature)) other ↔
          OnMap world.map other) := by
      intro other different
      rw [members, leftMembers]
      exact (or_iff_right different).trans (and_iff_right different)
    obtain ⟨left, absent⟩ := coherent.tiles.leave present fun _ _ on => on
    have tiles := left.enter absent newPos ((members creature).mpr (.inl rfl))
      fun other different on => (kept other different).mpr on
    rw [changeLeaf_changeLeaf (by exact found) (by exact foundNew)]
    refine ⟨⟨leaves, tiles⟩, ⟨fun _ => rfl, fun tilePos => ?_, kept,
      fun other different => update_of_ne different ..⟩⟩
    cases player : creature.isPlayer with
    | true => exact .inl (by simp [addThing, clearCaches, player])
    | false => exact .inr ⟨rfl, by simp [addThing, clearCaches, player]⟩

theorem cachesRight_getSpectators_nil (coherent : Coherent world)
    (right : CachesRight world) (call : SpectatorsCall) :
    Coherent (getSpectators world [] call).1 ∧ CachesRight (getSpectators world [] call).1 :=
  ⟨(samePlaces_getSpectators world [] call).coherent coherent,
    (getSpectators_answered coherent.leaves right [] call fun _ _ member => by cases member).2⟩

/-- **Moving a creature** keeps the map coherent. The calls it makes for
spectators start from empty vectors. -/
theorem moveCreature_coherent (coherent : Coherent world)
    (right : CachesRight world) (creature : Creature) {newPos : Position}
    (tile : (world.map.getTile newPos).isSome) :
    Coherent (moveCreature creature newPos world) ∧
      CachesRight (moveCreature creature newPos world) := by
  unfold moveCreature
  dsimp only
  split
  · rename_i present
    generalize world.position creature = oldPos at present ⊢
    have firstSame := samePlaces_getSpectators world [] { centerPos := oldPos, multifloor := true }
    obtain ⟨firstCoherent, firstRight⟩ := cachesRight_getSpectators_nil coherent right
      { centerPos := oldPos, multifloor := true }
    generalize (getSpectators world [] { centerPos := oldPos, multifloor := true }).1 = first
      at firstSame firstCoherent firstRight ⊢
    have secondSame := samePlaces_getSpectators first []
      { centerPos := newPos, multifloor := true }
    obtain ⟨secondCoherent, secondRight⟩ := cachesRight_getSpectators_nil firstCoherent
      firstRight { centerPos := newPos, multifloor := true }
    generalize (getSpectators first [] { centerPos := newPos, multifloor := true }).1 = second
      at secondSame secondCoherent secondRight ⊢
    have stillPresent : creature ∈ second.creatures oldPos := by
      rw [secondSame.creatures, firstSame.creatures]
      exact present
    have hasLeaf : (second.map.leafOf newPos).isSome := by
      rw [secondSame.map, firstSame.map]
      exact getTile_leafOf tile
    obtain ⟨after, touches⟩ := switchTile_coherent secondCoherent stillPresent hasLeaf
    exact ⟨after, touches.cachesRight secondRight⟩
  · exact ⟨coherent, right⟩

/-! ## Whole runs -/

inductive LiveMapOp where
  | placeCreature (search : PlaceSearch) (centerPos : Position) (creature : Creature)
  | moveCreature (creature : Creature) (newPos : Position)
  | removeCreature (pos : Position) (creature : Creature)
  | getSpectators (spectators : List Creature) (call : SpectatorsCall)

/-- The map and its operations. A creature is placed while it is off the map, on
a layer of the map; it is moved to a tile of the map and removed from its tile. -/
def liveMapSystem : System LiveMap LiveMapOp where
  legal world
    | .placeCreature search centerPos creature =>
      creature ∉ creaturesOnMap world.map ∧
        (search.flyingLogin = true → centerPos.z.toNat < 16)
    | .moveCreature _ newPos => (world.map.getTile newPos).isSome = true
    | .removeCreature pos creature => creature ∈ world.creatures pos
    | .getSpectators _ _ => True
  step world
    | .placeCreature search centerPos creature =>
      (placeCreature search centerPos creature world).1
    | .moveCreature creature newPos => moveCreature creature newPos world
    | .removeCreature pos creature => removeFromTile pos creature world
    | .getSpectators spectators call => (getSpectators world spectators call).1

/-- A call for spectators leaves in the vector what was in it and what an
uncached scan of the map returns. -/
def AnswersAsUncached (world : LiveMap) : LiveMapOp → LiveMap → Prop
  | .getSpectators spectators call, _ =>
    Answered world spectators call (getSpectators world spectators call).2
  | _, _ => True

/-- A call that fills a cache has only creatures in its vector that it selects. -/
def FillsWithOwn (world : LiveMap) : LiveMapOp → LiveMap → Prop
  | .getSpectators spectators call, _ =>
    FillsCache world call → ∀ creature ∈ spectators, Selected world call creature
  | _, _ => True

variable (tiles : List Position)

/-- The map built by the tiles, without creatures. -/
def liveMapOf : LiveMap where
  map := ({} : Map Unit).setTiles (fun old _ => old) (tiles.map fun pos => (pos, ()))

theorem lists_setTiles (tiles : List (Position × Unit)) :
    ∀ {map : Map Unit}, map.WellLinked → (∀ leaf, map.lists leaf = ([], [])) →
      ∀ leaf, (map.setTiles (fun old _ => old) tiles).lists leaf = ([], []) := by
  induction tiles with
  | nil => exact fun _ empty => empty
  | cons entry tiles ih =>
    intro map linked empty
    refine ih (linked.setTile _ entry.1 entry.2) fun leaf => ?_
    rcases Map.lists_setTile linked (fun old _ => old) entry.1 entry.2 with same | new
    · exact (congrFun same leaf).trans (empty leaf)
    · refine (congrFun new leaf).trans ?_
      by_cases here : leaf = map.allocated
      · rw [here, update_self]
      · rw [update_of_ne here, empty]

theorem liveMapOf_coherent : Coherent (liveMapOf tiles) := by
  have empty := lists_setTiles (tiles.map fun pos => (pos, ())) Map.wellLinked_empty fun _ => rfl
  have noCreature : ∀ leaf, ((liveMapOf tiles).map.leaves leaf).creatureList = [] :=
    fun leaf => congrArg Prod.fst (empty leaf)
  have noPlayer : ∀ leaf, ((liveMapOf tiles).map.leaves leaf).playerList = [] :=
    fun leaf => congrArg Prod.snd (empty leaf)
  refine ⟨⟨Map.setTiles_wellLinked _ _ Map.wellLinked_empty, ?_, ?_, ?_, ?_⟩, ⟨?_, ?_⟩⟩
  · exact fun leaf => noCreature leaf ▸ List.nodup_nil
  · exact fun leaf => noPlayer leaf ▸ List.nodup_nil
  · exact fun leaf creature => by simp [noCreature, noPlayer]
  · intro leaf creature member
    rw [noCreature] at member
    cases member
  · exact fun pos => List.nodup_nil
  · intro pos creature member
    cases member

theorem liveMapOf_cachesRight : CachesRight (liveMapOf tiles) where
  all pos cached found := by cases found
  players pos cached found := by cases found

theorem step_answers (world : LiveMap) (op : LiveMapOp)
    (invariant : Coherent world ∧ CachesRight world) (legal : liveMapSystem.legal world op)
    (own : FillsWithOwn world op (liveMapSystem.step world op)) :
    AnswersAsUncached world op (liveMapSystem.step world op) ∧
      Coherent (liveMapSystem.step world op) ∧ CachesRight (liveMapSystem.step world op) := by
  obtain ⟨coherent, right⟩ := invariant
  cases op with
  | placeCreature search centerPos creature =>
    have off : ¬ OnMap world.map creature :=
      fun on => legal.1 ((coherent.leaves.mem_creaturesOnMap creature).mpr on)
    obtain ⟨after, same | touches⟩ :=
      placeCreature_coherent coherent off search centerPos legal.2
    · exact ⟨trivial, after, by simp only [liveMapSystem, same]; exact right⟩
    · exact ⟨trivial, after, touches.cachesRight right⟩
  | moveCreature creature newPos =>
    exact ⟨trivial, moveCreature_coherent coherent right creature legal⟩
  | removeCreature pos creature =>
    obtain ⟨after, touches⟩ := removeFromTile_coherent coherent legal
    exact ⟨trivial, after, touches.cachesRight right⟩
  | getSpectators spectators call =>
    obtain ⟨answered, caches⟩ := getSpectators_answered coherent.leaves right spectators call own
    exact ⟨answered, (samePlaces_getSpectators world spectators call).coherent coherent, caches⟩

/-- **Runs that fill the caches with their own creatures answer as without
caches.** -/
theorem getSpectators_answers_of_own_scan (tiles : List Position) (ops : List LiveMapOp)
    (legal : liveMapSystem.Legal (liveMapOf tiles) ops)
    (own : liveMapSystem.Throughout FillsWithOwn (liveMapOf tiles) ops) :
    liveMapSystem.Throughout AnswersAsUncached (liveMapOf tiles) ops :=
  .of_invariant step_answers
    ⟨liveMapOf_coherent tiles, liveMapOf_cachesRight tiles⟩ legal own

instance (world : LiveMap) : ∀ op, Decidable (liveMapSystem.legal world op)
  | .placeCreature search centerPos creature =>
    inferInstanceAs (Decidable (creature ∉ creaturesOnMap world.map ∧
      (search.flyingLogin = true → centerPos.z.toNat < 16)))
  | .moveCreature _ newPos =>
    inferInstanceAs (Decidable ((world.map.getTile newPos).isSome = true))
  | .removeCreature pos creature =>
    inferInstanceAs (Decidable (creature ∈ world.creatures pos))
  | .getSpectators _ _ => .isTrue trivial

/-- A player is placed, seen from an empty vector, and moved to another leaf;
then a vector that holds a monster asks for the player's floor only. -/
theorem getSpectators_answers_of_own_scan_player :
    liveMapSystem.Throughout AnswersAsUncached (liveMapOf [⟨100, 100, 7⟩, ⟨110, 100, 7⟩])
      [.placeCreature {} ⟨100, 100, 7⟩ ⟨1, true⟩,
        .getSpectators [] { centerPos := ⟨101, 100, 7⟩, multifloor := true },
        .moveCreature ⟨1, true⟩ ⟨110, 100, 7⟩,
        .getSpectators [⟨2, false⟩] { centerPos := ⟨101, 100, 7⟩ }] := by
  refine getSpectators_answers_of_own_scan _ _ (by decide +kernel) ⟨trivial, ?_, trivial, ?_, trivial⟩
  · intro _ creature member
    cases member
  · intro fills
    exact absurd fills.2.1 (by decide)

/-- **A filled vector is stored.** The monster at the second tile is seen there;
the vector is used again for the first tile, out of its sight, and the answer to
a later call from an empty vector at the first tile has the monster in it. -/
theorem getSpectators_answers_foreign_creature :
    liveMapSystem.Legal (liveMapOf [⟨100, 100, 7⟩, ⟨200, 200, 7⟩])
        [.placeCreature {} ⟨200, 200, 7⟩ ⟨2, false⟩,
          .getSpectators [⟨2, false⟩] { centerPos := ⟨100, 100, 7⟩, multifloor := true },
          .getSpectators [] { centerPos := ⟨100, 100, 7⟩, multifloor := true }] ∧
      ¬ liveMapSystem.Throughout AnswersAsUncached (liveMapOf [⟨100, 100, 7⟩, ⟨200, 200, 7⟩])
        [.placeCreature {} ⟨200, 200, 7⟩ ⟨2, false⟩,
          .getSpectators [⟨2, false⟩] { centerPos := ⟨100, 100, 7⟩, multifloor := true },
          .getSpectators [] { centerPos := ⟨100, 100, 7⟩, multifloor := true }] := by
  refine ⟨by decide +kernel, fun answers => ?_⟩
  have last := answers.2.2.1 ⟨2, false⟩
  have inAnswer := last.mp (by decide +kernel)
  revert inAnswer
  decide +kernel

end Otserv.World
