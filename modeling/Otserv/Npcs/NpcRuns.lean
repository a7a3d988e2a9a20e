import Otserv.Npcs.Npc

/-!
# An NPC and its watchers over whole runs

After each event the NPC should know every player that sees it, know only players in the game,
and be idle exactly when it knows none (`Sound`).

A player that sees the NPC with its own eyes is told to it when it appears or moves
(`found_of_clientSees`). The NPC does not look around when it moves itself; then a player may come
to see it that it does not know, and one that it knows may leave where the NPC is not told. It
goes idle when it is reloaded, whoever watches; and it does not hear of a player that comes to see
it by what another one does, or by its client (`npcs_sound_iff`).
-/

namespace Otserv.Npcs

open Foundation
open World (Position mapMaxLayers InShiftedRange inRange_eq floorRange SpectatorsCall)

/-- The player is in the game and sees the place. -/
def Game.Sees (game : Game) (player : Nat) (pos : Position) : Prop :=
  (game.players player).inGame = true ∧ game.canSee player pos = true

structure Sound (game : Game) : Prop where
  present : ∀ player ∈ game.npc.spectators, (game.players player).inGame = true
  known : ∀ player, game.Sees player game.npc.position → player ∈ game.npc.spectators
  idle_iff : game.npc.isIdle = true ↔ game.npc.spectators = ∅

/-- The NPC may change its mode, or needs not. -/
def Npc.Wakes (npc : Npc) (spectators : Finset Nat) : Prop :=
  npc.removed = false ∧ 0 < npc.health ∨ (spectators = ∅ ↔ npc.spectators = ∅)

/-- Who spectates the player and comes to see the NPC by that is known to it. -/
def Game.FollowersKnown (before after : Game) (player : Nat) : Prop :=
  ∀ other, other ≠ player → (before.players other).spectating = some player →
    after.Sees other before.npc.position → other ∈ before.npc.spectators

/-- No step makes a player see the NPC, or leave the game, that it does not hear of; it is not
reloaded while it is watched; and it is not dead when its first watcher comes or its last goes. -/
def Noticed (game : Game) : NpcOp → Prop
  | .placeCreature player pos client =>
    (found pos game.npc.position = true →
      game.npc.Wakes (insert player game.npc.spectators)) ∧
    game.FollowersKnown
      (game.setPlayer player { inGame := true, position := pos, client := client }) player
  | .removeCreature player =>
    if found (game.players player).position game.npc.position = true then
      game.npc.Wakes (game.npc.spectators.erase player)
    else player ∉ game.npc.spectators
  | .moveCreature player newPos =>
    let moved := game.setPlayer player { game.players player with position := newPos }
    (found (game.players player).position game.npc.position = true ∨
        found newPos game.npc.position = true →
      game.npc.Wakes (if moved.canSee player game.npc.position = true
        then insert player game.npc.spectators else game.npc.spectators.erase player)) ∧
    game.FollowersKnown moved player
  | .moveNpc newPos => ∀ player, game.Sees player newPos → player ∈ game.npc.spectators
  | .reload _ => game.npc.name = "Holder" ∨ game.npc.spectators = ∅
  | .setSpectating player target =>
    ((NpcOp.setSpectating player target).apply game).Sees player game.npc.position →
      player ∈ game.npc.spectators
  | .setClient player client =>
    ((NpcOp.setClient player client).apply game).Sees player game.npc.position →
      player ∈ game.npc.spectators

/-! ## Sight -/

/-- What a client shows lies where `Map::getSpectators` looks. -/
theorem found_of_clientSees {myPos pos : Position} (low : myPos.z.toNat < mapMaxLayers)
    (below : pos.z.toNat < mapMaxLayers) (sees : clientSees myPos pos = true) :
    found myPos pos = true := by
  obtain ⟨floors, west, east, north, south⟩ := of_decide_eq_true sees
  have levels : (floorRange myPos true).1 ≤ pos.getZ ∧ pos.getZ ≤ (floorRange myPos true).2 := by
    simp only [floorRange, UInt8.lt_iff_toNat_lt, UInt8.le_iff_toNat_le, gt_iff_lt, abs_le,
      ← UInt8.toNat_inj, Position.getZ, mapMaxLayers] at *
    split at floors <;> split_ifs <;> simp only [UInt8.reduceToNat] at * <;> omega
  have ranges : InShiftedRange myPos
      (SpectatorsCall.range { centerPos := myPos, multifloor := true }) pos := by
    refine ⟨levels, ⟨?_, ?_⟩, ?_, ?_⟩ <;>
      simp only [SpectatorsCall.range, World.maxViewportX, World.maxViewportY,
        maxClientViewportX, maxClientViewportY, if_true] at * <;>
      omega
  rw [found, inRange_eq, Bool.and_eq_true, decide_eq_true_iff, decide_eq_true_iff]
  exact ⟨low, ranges⟩

namespace Game

variable {game : Game} {player other : Nat} {value : Player} {pos : Position}

@[simp] theorem setPlayer_self : (game.setPlayer player value).players player = value :=
  Function.update_self ..

theorem setPlayer_of_ne (apart : other ≠ player) :
    (game.setPlayer player value).players other = game.players other :=
  Function.update_of_ne apart ..

theorem sees_setPlayer (apart : other ≠ player)
    (elsewhere : (game.players other).spectating ≠ some player) :
    (game.setPlayer player value).Sees other pos ↔ game.Sees other pos := by
  have eyes : (game.players other).spectating.getD other ≠ player := by
    cases here : (game.players other).spectating with
    | none => exact apart
    | some target =>
      rintro rfl
      exact elsewhere here
  simp only [Sees, canSee, Game.eyes, setPlayer_of_ne apart, setPlayer_of_ne eyes]

theorem sees_setPlayer_of_position (apart : other ≠ player)
    (stays : value.position = (game.players player).position) :
    (game.setPlayer player value).Sees other pos ↔ game.Sees other pos := by
  have positions : ∀ each, ((game.setPlayer player value).players each).position =
      (game.players each).position := by
    intro each
    by_cases same : each = player
    · rw [same, setPlayer_self, stays]
    · rw [setPlayer_of_ne same]
  simp only [Sees, canSee, Game.eyes, positions, setPlayer_of_ne apart]

end Game

/-! ## Events -/

namespace Npc

variable {npc : Npc} {spectators : Finset Nat}

@[simp] theorem updateIdleStatus_spectators : npc.updateIdleStatus.spectators = npc.spectators := by
  rw [updateIdleStatus, setIdle]
  split <;> [split; skip] <;> rfl

@[simp] theorem updateIdleStatus_position : npc.updateIdleStatus.position = npc.position := by
  rw [updateIdleStatus, setIdle]
  split <;> [split; skip] <;> rfl

/-- The mode follows the set where the NPC may change it. -/
theorem isIdle_updateIdleStatus_iff (before : npc.isIdle = true ↔ npc.spectators = ∅) :
    ({ npc with spectators := spectators }.updateIdleStatus.isIdle = true ↔ spectators = ∅) ↔
      npc.Wakes spectators := by
  have alive : (npc.removed = false ∧ 0 < npc.health) ↔
      ¬(npc.removed = true ∨ npc.health ≤ 0) := by
    simp [not_or]
  rw [updateIdleStatus, setIdle, Wakes, alive, ← before]
  by_cases now : spectators = ∅ <;> by_cases dead : npc.removed = true ∨ npc.health ≤ 0 <;>
    cases npc.isIdle <;> simp [now, dead]

end Npc

theorem Sound.others_known_iff {game : Game} (sound : Sound game) (player : Nat) (value : Player) :
    (∀ other, other ≠ player →
        (game.setPlayer player value).Sees other game.npc.position →
          other ∈ game.npc.spectators) ↔
      game.FollowersKnown (game.setPlayer player value) player := by
  constructor
  · intro known other apart _ sees
    exact known other apart sees
  · intro known other apart sees
    by_cases follows : (game.players other).spectating = some player
    · exact known other apart follows sees
    · exact sound.known other ((Game.sees_setPlayer apart follows).mp sees)

/-- A step whose event the NPC hears. -/
theorem sound_setNpc_iff {game : Game} {player : Nat} (value : Player)
    (spectators : Finset Nat) (sound : Sound game)
    (others : ∀ other, other ≠ player →
      (other ∈ spectators ↔ other ∈ game.npc.spectators))
    (present : player ∈ spectators → value.inGame = true)
    (known : (game.setPlayer player value).Sees player game.npc.position →
      player ∈ spectators) :
    Sound ((game.setPlayer player value).setNpc
        { game.npc with spectators := spectators }.updateIdleStatus) ↔
      game.npc.Wakes spectators ∧
        game.FollowersKnown (game.setPlayer player value) player := by
  rw [← sound.others_known_iff, ← Npc.isIdle_updateIdleStatus_iff sound.idle_iff]
  constructor
  · rintro ⟨-, known, idle⟩
    simp only [Game.setNpc, Npc.updateIdleStatus_spectators, Npc.updateIdleStatus_position]
      at idle known
    exact ⟨idle, fun other apart sees => (others other apart).mp (known other sees)⟩
  · rintro ⟨idle, elsewhere⟩
    constructor
    · intro other among
      simp only [Game.setNpc, Npc.updateIdleStatus_spectators] at among ⊢
      by_cases same : other = player
      · subst same
        rw [Game.setPlayer_self]
        exact present among
      · rw [Game.setPlayer_of_ne same]
        exact sound.present other ((others other same).mp among)
    · intro other sees
      simp only [Game.setNpc, Npc.updateIdleStatus_spectators, Npc.updateIdleStatus_position]
        at sees ⊢
      by_cases same : other = player
      · subst same
        exact known sees
      · exact (others other same).mpr (elsewhere other same sees)
    · simpa [Game.setNpc] using idle

theorem sound_setPlayer_iff {game : Game} {player : Nat} (value : Player) (sound : Sound game) :
    Sound (game.setPlayer player value) ↔
      (player ∈ game.npc.spectators → value.inGame = true) ∧
        ((game.setPlayer player value).Sees player game.npc.position →
          player ∈ game.npc.spectators) ∧
        game.FollowersKnown (game.setPlayer player value) player := by
  rw [← sound.others_known_iff]
  constructor
  · rintro ⟨present, known, -⟩
    refine ⟨fun among => ?_, known player, fun other _ => known other⟩
    simpa using present player among
  · rintro ⟨present, itself, elsewhere⟩
    refine ⟨fun other among => ?_, fun other sees => ?_, sound.idle_iff⟩
    · by_cases same : other = player
      · subst same
        rw [Game.setPlayer_self]
        exact present among
      · rw [Game.setPlayer_of_ne same]
        exact sound.present other among
    · by_cases same : other = player
      · subst same
        exact itself sees
      · exact elsewhere other same sees

/-! ## Steps -/

variable {game : Game} {player : Nat}

theorem Sound.followersKnown (sound : Sound game) {value : Player}
    (stays : value.position = (game.players player).position) :
    game.FollowersKnown (game.setPlayer player value) player :=
  fun other apart _ sees =>
    sound.known other ((Game.sees_setPlayer_of_position apart stays).mp sees)

theorem sound_placeCreature_iff (sound : Sound game)
    (placed : game.npc.position.z.toNat < mapMaxLayers) {pos : Position} {client : Bool}
    (legal : (NpcOp.placeCreature player pos client).Legal game) :
    Sound (game.placeCreature player pos client) ↔
      Noticed game (.placeCreature player pos client) := by
  obtain ⟨absent, low⟩ := legal
  have unknown : player ∉ game.npc.spectators := by
    intro among
    simp [sound.present player among] at absent
  have blind : ¬found pos game.npc.position = true →
      ¬(game.setPlayer player { inGame := true, position := pos, client := client }).Sees player
        game.npc.position := by
    rintro unheard ⟨-, sees⟩
    simp only [Game.canSee, Game.eyes, Game.setPlayer_self, Option.getD_none,
      Bool.and_eq_true] at sees
    exact unheard (found_of_clientSees low placed sees.2)
  by_cases heard : found pos game.npc.position = true
  · have after : game.placeCreature player pos client =
        (game.setPlayer player { inGame := true, position := pos, client := client }).setNpc
          (game.npc.onCreatureAppear player) := if_pos heard
    rw [after, Noticed, forall_prop_of_true heard]
    refine sound_setNpc_iff _ _ sound (fun other apart => ?_) (fun _ => rfl)
      (fun _ => Finset.mem_insert_self ..)
    simp [apart]
  · have after : game.placeCreature player pos client =
        game.setPlayer player { inGame := true, position := pos, client := client } :=
      if_neg heard
    rw [after, sound_setPlayer_iff _ sound, Noticed]
    simp [unknown, blind heard, heard]

theorem sound_removeCreature_iff (sound : Sound game) :
    Sound (game.removeCreature player) ↔ Noticed game (.removeCreature player) := by
  have gone : ¬(game.setPlayer player { game.players player with inGame := false }).Sees player
      game.npc.position := by
    rintro ⟨present, -⟩
    simp at present
  have followers : game.FollowersKnown
      (game.setPlayer player { game.players player with inGame := false }) player :=
    sound.followersKnown rfl
  by_cases heard : found (game.players player).position game.npc.position = true
  · have after : game.removeCreature player =
        (game.setPlayer player { game.players player with inGame := false }).setNpc
          (game.npc.onRemoveCreature player) := if_pos heard
    rw [after, Noticed, if_pos heard]
    refine (sound_setNpc_iff _ _ sound (fun other apart => ?_) (fun among => ?_)
      (absurd · gone)).trans (and_iff_left followers)
    · simp [apart]
    · simp at among
  · have after : game.removeCreature player =
        game.setPlayer player { game.players player with inGame := false } := if_neg heard
    rw [after, sound_setPlayer_iff _ sound, Noticed, if_neg heard]
    simp [gone, followers]

theorem sees_of_unheard (placed : game.npc.position.z.toNat < mapMaxLayers) {newPos : Position}
    (low : newPos.z.toNat < mapMaxLayers) (unheard : found newPos game.npc.position = false)
    (sees : (game.setPlayer player { game.players player with position := newPos }).Sees player
      game.npc.position) : game.Sees player game.npc.position := by
  obtain ⟨present, sees⟩ := sees
  simp only [Game.setPlayer_self] at present
  by_cases own : (game.players player).spectating.getD player = player
  · simp only [Game.canSee, Game.eyes, Game.setPlayer_self, own, Bool.and_eq_true] at sees
    simp [found_of_clientSees low placed sees.2] at unheard
  · refine ⟨present, ?_⟩
    simpa only [Game.canSee, Game.eyes, Game.setPlayer_self, Game.setPlayer_of_ne own] using sees

theorem sound_moveCreature_iff (sound : Sound game)
    (placed : game.npc.position.z.toNat < mapMaxLayers) {newPos : Position}
    (legal : (NpcOp.moveCreature player newPos).Legal game) :
    Sound (game.moveCreature player newPos) ↔ Noticed game (.moveCreature player newPos) := by
  obtain ⟨present, low⟩ := legal
  by_cases heard : found (game.players player).position game.npc.position = true ∨
      found newPos game.npc.position = true
  · have after : game.moveCreature player newPos =
        (game.setPlayer player { game.players player with position := newPos }).setNpc
          (game.npc.onCreatureMove player
            ((game.setPlayer player { game.players player with position := newPos }).canSee player
              game.npc.position)) := if_pos (Bool.or_eq_true _ _ ▸ heard)
    rw [after, Noticed, forall_prop_of_true heard]
    refine sound_setNpc_iff _ _ sound (fun other apart => ?_) (fun _ => present) fun sees => ?_
    · split <;> simp [apart]
    · rw [if_pos sees.2]
      exact Finset.mem_insert_self ..
  · have after : game.moveCreature player newPos =
        game.setPlayer player { game.players player with position := newPos } :=
      if_neg (Bool.or_eq_true _ _ ▸ heard)
    have known : (game.setPlayer player { game.players player with position := newPos }).Sees
        player game.npc.position → player ∈ game.npc.spectators := by
      rw [not_or, Bool.not_eq_true, Bool.not_eq_true] at heard
      exact fun sees => sound.known player (sees_of_unheard placed low heard.2 sees)
    rw [after, sound_setPlayer_iff _ sound, Noticed]
    constructor
    · exact fun others => ⟨(absurd · heard), others.2.2⟩
    · exact fun others => ⟨fun _ => present, known, others.2⟩

theorem sound_view_iff (sound : Sound game) {value : Player}
    (present : value.inGame = (game.players player).inGame)
    (stays : value.position = (game.players player).position) :
    Sound (game.setPlayer player value) ↔
      ((game.setPlayer player value).Sees player game.npc.position →
        player ∈ game.npc.spectators) := by
  rw [sound_setPlayer_iff _ sound, and_iff_left (sound.followersKnown stays)]
  exact and_iff_right fun among => present.trans (sound.present player among)

theorem sound_reload_iff (sound : Sound game) (xml : Option NpcXml) :
    Sound (game.setNpc (game.npc.reload xml)) ↔ Noticed game (.reload xml) := by
  rw [Npc.reload, Noticed]
  split
  · rename_i holder
    exact iff_of_true sound (.inl holder)
  · rename_i other
    have reset : ∀ npc : Npc, npc.position = game.npc.position →
        npc.spectators = game.npc.spectators → npc.isIdle = true →
          (Sound (game.setNpc npc) ↔ game.npc.spectators = ∅) := by
      intro npc position spectators idle
      constructor
      · intro after
        exact spectators.symm.trans (after.idle_iff.mp idle)
      · intro none
        refine ⟨?_, ?_, iff_of_true idle (spectators.trans none)⟩
        · simp only [Game.setNpc, spectators]
          exact sound.present
        · simp only [Game.setNpc, spectators, position]
          exact sound.known
    rw [or_iff_right other]
    cases xml with
    | none => exact reset _ rfl rfl rfl
    | some xml => exact reset _ rfl rfl rfl

theorem sound_apply_iff (sound : Sound game)
    (placed : game.npc.position.z.toNat < mapMaxLayers) {op : NpcOp} (legal : op.Legal game) :
    Sound (op.apply game) ↔ Noticed game op := by
  cases op with
  | placeCreature player pos client => exact sound_placeCreature_iff sound placed legal
  | removeCreature player => exact sound_removeCreature_iff sound
  | moveCreature player newPos => exact sound_moveCreature_iff sound placed legal
  | moveNpc newPos =>
    exact ⟨fun after => after.known, fun known => ⟨sound.present, known, sound.idle_iff⟩⟩
  | reload xml => exact sound_reload_iff sound xml
  | setSpectating player target =>
    rw [Noticed, NpcOp.apply]
    split
    · exact iff_of_true sound (sound.known player)
    · exact sound_view_iff sound rfl rfl
  | setClient player client => exact sound_view_iff sound rfl rfl

/-! ## Runs -/

theorem placed_apply (placed : game.npc.position.z.toNat < mapMaxLayers) {op : NpcOp}
    (legal : op.Legal game) : (op.apply game).npc.position.z.toNat < mapMaxLayers := by
  cases op with
  | placeCreature player pos client =>
    rw [NpcOp.apply, Game.placeCreature]
    split
    · rwa [Game.setNpc, Npc.onCreatureAppear, Npc.updateIdleStatus_position]
    · exact placed
  | removeCreature player =>
    rw [NpcOp.apply, Game.removeCreature]
    split
    · rwa [Game.setNpc, Npc.onRemoveCreature, Npc.updateIdleStatus_position]
    · exact placed
  | moveCreature player newPos =>
    rw [NpcOp.apply, Game.moveCreature]
    split
    · rwa [Game.setNpc, Npc.onCreatureMove, Npc.updateIdleStatus_position]
    · exact placed
  | moveNpc newPos => exact legal
  | reload xml =>
    rw [NpcOp.apply, Npc.reload, Game.setNpc]
    split
    · exact placed
    · cases xml with
      | none => exact placed
      | some xml => exact placed
  | setSpectating player target =>
    rw [NpcOp.apply]
    split <;> exact placed
  | setClient player client => exact placed

/-- **An NPC knows who watches it**, after each event of a run, exactly when it hears of whoever
comes to see it. -/
theorem npcs_sound_iff {start : Game} (sound : Sound start)
    (placed : start.npc.position.z.toNat < mapMaxLayers) {ops : List NpcOp}
    (legal : npcs.Legal start ops) :
    npcs.Throughout (fun _ _ after => Sound after) start ops ↔
      npcs.Throughout (fun before op _ => Noticed before op) start ops := by
  have step : ∀ before op,
      Sound before ∧ before.npc.position.z.toNat < mapMaxLayers → npcs.legal before op →
        (Sound (npcs.step before op) ↔ Noticed before op) ∧
          (Sound (npcs.step before op) → Sound (npcs.step before op) ∧
            (npcs.step before op).npc.position.z.toNat < mapMaxLayers) :=
    fun before op invariant allowed =>
      ⟨sound_apply_iff invariant.1 invariant.2 allowed,
        fun after => ⟨after, placed_apply invariant.2 allowed⟩⟩
  exact System.Throughout.iff_of_invariant step ⟨sound, placed⟩ legal

/-- A place with an NPC and nobody in the game. -/
def village : Game where
  npc := { position := ⟨116, 100, 7⟩ }

theorem village_sound : Sound village where
  present player among := by simp [village] at among
  known player sees := by simp [Game.Sees, village] at sees
  idle_iff := by simp [village]

/-- A player logs in beside the NPC and out again. -/
theorem npcs_sound_iff_visit :
    npcs.Throughout (fun _ _ after => Sound after) village
      [.placeCreature 0 ⟨112, 100, 7⟩ true, .removeCreature 0] := by
  refine (npcs_sound_iff village_sound (by decide) (by decide)).mpr
    ⟨⟨fun _ => .inl ⟨rfl, by decide⟩, ?_⟩, ?_, trivial⟩
  · intro other _ follows
    cases follows
  · exact .inl ⟨rfl, by decide⟩

/-- The NPC walks up to a player and does not notice it. -/
theorem npc_walks_up :
    npcs.Legal village [.placeCreature 0 ⟨100, 100, 7⟩ true, .moveNpc ⟨115, 100, 7⟩] ∧
      ¬npcs.Throughout (fun _ _ after => Sound after) village
        [.placeCreature 0 ⟨100, 100, 7⟩ true, .moveNpc ⟨115, 100, 7⟩] := by
  refine ⟨by decide, fun throughout => ?_⟩
  have unknown := throughout.2.1.known 0 ⟨rfl, by decide⟩
  exact absurd unknown (by decide)

end Otserv.Npcs
