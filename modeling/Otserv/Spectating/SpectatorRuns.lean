import Otserv.Foundation.Forests
import Otserv.Spectating.Spectator

/-!
# Spectators over whole runs

Who spectates whom should agree on both sides, nobody in the game have to do with a player that
was removed, sending to the spectators of spectators come to an end, and the loops that release
spectators visit each of them (`Sound`).

Players and spectators are a forest (`Foundation.Forest`), and `setSpectating` takes a player down
and hangs it under its target. But it refuses only the player itself as its own target, `Game::
removeCreature` releases nobody, and the loops erase the elements they stand on.
-/

namespace Otserv.Spectating

open Foundation
open Function (update update_of_ne update_self)

variable {Id : Type} [DecidableEq Id]

/-- Whether an operation goes through the spectators of a player. -/
def Releases (game : Game Id) (player : Id) : GameOp Id → Prop
  | .disconnect other => other = player ∧ game.client player = true
  | .logout other refused => other = player ∧ game.removed player = false ∧ refused = false
  | .kickPlayer other =>
    other = player ∧ game.removed player = false ∧ game.client player = true
  | .destroy other => other = player
  | .setSpectating .. | .connect _ | .release _ | .removeCreature _ => False

/-- One step: the states before it and after it. -/
structure Sound (before : Game Id) (op : GameOp Id) (after : Game Id) : Prop where
  agree : ∀ player spectator, (after.spectators player).count spectator =
    if after.spectating spectator = some player then 1 else 0
  inGame : ∀ player other, after.removed player = false →
    after.spectating player = some other ∨ player ∈ after.spectators other →
      after.removed other = false
  acyclic : ∀ player, ¬Inside after.spectating player player
  /-- What is sent to the spectators of spectators comes to an end. -/
  ends : WellFounded fun spectator player => spectator ∈ after.spectators player
  defined : after.undefined = false
  visited : ∀ player, Releases before player op → after.spectators player = []

/-- Nobody comes to spectate itself through others, a player that is removed by other means than
a logout is spectated by nobody in the game, and the spectators that a loop goes through are
none. -/
def Apart (game : Game Id) : GameOp Id → Prop
  | .setSpectating player target =>
    ∀ other, target = some other → other ≠ player →
      game.spectating player ≠ some other → ¬Within game.spectating other player
  | .disconnect player => game.client player = true → game.spectators player = []
  | .logout player refused =>
    game.removed player = false → refused = false → game.spectators player = []
  | .kickPlayer player =>
    if game.client player then game.removed player = false → game.spectators player = []
    else ∀ spectator ∈ game.spectators player, game.removed spectator = true
  | .removeCreature player => ∀ spectator ∈ game.spectators player, game.removed spectator = true
  | .destroy player => game.spectators player = []
  | .connect _ | .release _ => True

/-! ## The invariant -/

structure Invariant (game : Game Id) : Prop where
  forest : ∃ players, Forest players game.spectating game.spectators
  inGame : ∀ player other, game.removed player = false →
    game.spectating player = some other → game.removed other = false
  defined : game.undefined = false

namespace Invariant

variable {game : Game Id}

section

variable (invariant : Invariant game)
include invariant

omit [DecidableEq Id] in
theorem mem_iff {player spectator : Id} :
    spectator ∈ game.spectators player ↔ game.spectating spectator = some player := by
  obtain ⟨players, forest⟩ := invariant.forest
  exact forest.mem_iff.trans Option.mem_def

omit [DecidableEq Id] in
theorem irrefl (player : Id) : ¬Inside game.spectating player player := by
  obtain ⟨players, forest⟩ := invariant.forest
  exact forest.irrefl player

omit [DecidableEq Id] in
theorem ends : WellFounded fun spectator player => spectator ∈ game.spectators player := by
  obtain ⟨players, forest⟩ := invariant.forest
  obtain ⟨cost, rising⟩ := forest.rising
  -- the cost of a spectator is higher, so the number of players of higher cost is lower
  refine Subrelation.wf ?_ (measure fun player => Rising.height players cost player).wf
  intro spectator player among
  have isParent := forest.mem_iff.mp among
  exact rising.height_lt (forest.present isParent) isParent

theorem sound {before : Game Id} {op : GameOp Id}
    (visited : ∀ player, Releases before player op → game.spectators player = []) :
    Sound before op game where
  agree := by
    intro player spectator
    obtain ⟨players, forest⟩ := invariant.forest
    by_cases known : game.spectating spectator = some player
    · rw [if_pos known]
      exact List.count_eq_one_of_mem (forest.nodup player)
        (invariant.mem_iff.mpr known)
    · rw [if_neg known]
      exact List.count_eq_zero_of_not_mem (invariant.mem_iff.not.mpr known)
  inGame := by
    rintro player other stays (known | among)
    · exact invariant.inGame player other stays known
    · exact invariant.inGame player other stays (invariant.mem_iff.mp among)
  acyclic := invariant.irrefl
  ends := invariant.ends
  defined := invariant.defined
  visited := visited

/-! ## `setSpectating` -/

theorem leave {player old : Id} (known : game.spectating player = some old) :
    ∃ players, Forest players (update game.spectating player none)
      (game.removeSpectator old player).spectators := by
  obtain ⟨players, forest⟩ := invariant.forest
  exact ⟨players, forest.detach known (List.perm_cons_erase (forest.mem_iff.mpr known)).symm⟩

end

/-- A player who spectates nobody is hung under another one. -/
theorem hang {parent : Id → Option Id} {children : Id → List Id}
    (forest : ∃ players, Forest players parent children) {player target : Id}
    (nobody : parent player = none) (apart : ¬Within parent target player) :
    ∃ players, Forest players (update parent player (some target))
      (update children target (children target ++ [player])) := by
  obtain ⟨players, forest⟩ := forest
  refine ⟨insert player (insert target players), ?_⟩
  have subset : players ⊆ insert player (insert target players) := fun other member =>
    Finset.mem_insert_of_mem (Finset.mem_insert_of_mem member)
  exact (forest.mono subset).attach (Finset.mem_insert_self _ _)
    (Finset.mem_insert_of_mem (Finset.mem_insert_self _ _)) nobody apart
    (List.perm_append_singleton _ _)

theorem setSpectating_none (invariant : Invariant game) (player : Id) :
    Invariant (game.setSpectating player none) := by
  unfold Game.setSpectating
  by_cases same : game.spectating player = none ∨ none = some player
  · rw [if_pos same]
    exact invariant
  cases known : game.spectating player with
  | none => exact absurd (.inl known) same
  | some old =>
    refine ⟨invariant.leave known, fun other above stays isAbove => ?_, invariant.defined⟩
    have before : game.spectating other = some above := by
      by_cases here : other = player
      · have updated : update game.spectating player none other = some above := isAbove
        rw [here, update_self] at updated
        cases updated
      · have updated : update game.spectating player none other = some above := isAbove
        rwa [update_of_ne here] at updated
    exact invariant.inGame other above stays before

/-- **A player spectates another one** that is not among its own spectators. -/
theorem setSpectating_some (invariant : Invariant game) {player target : Id}
    (apart : ¬Within game.spectating target player) (present : game.removed target = false) :
    Invariant (game.setSpectating player (some target)) := by
  unfold Game.setSpectating
  by_cases same : game.spectating player = some target ∨ some target = some player
  · rw [if_pos same]
    exact invariant
  rw [if_neg same]
  have stays : ∀ other above, game.removed other = false →
      update game.spectating player (some target) other = some above →
        game.removed above = false := by
    intro other above inGame isAbove
    by_cases here : other = player
    · rw [here, update_self] at isAbove
      cases isAbove
      exact present
    · rw [update_of_ne here] at isAbove
      exact invariant.inGame other above inGame isAbove
  cases known : game.spectating player with
  | none =>
    exact ⟨hang invariant.forest known apart, stays, invariant.defined⟩
  | some old =>
    have hung := hang (invariant.leave known) (update_self _ _ _)
      fun within => apart (within_of_detach within)
    rw [Function.update_idem] at hung
    exact ⟨hung, stays, invariant.defined⟩

/-! ## Removal -/

theorem removeCreature (invariant : Invariant game) {player : Id}
    (alone : ∀ spectator ∈ game.spectators player, game.removed spectator = true) :
    Invariant (game.removeCreature player) := by
  refine ⟨invariant.forest, fun other above stays known => ?_, invariant.defined⟩
  have inGame : update game.removed player true other = false := stays
  have different : other ≠ player := by
    rintro rfl
    rw [update_self] at inGame
    cases inGame
  rw [update_of_ne different] at inGame
  show update game.removed player true above = false
  by_cases here : above = player
  · have removed := alone other (invariant.mem_iff.mpr (here ▸ known))
    rw [inGame] at removed
    cases removed
  · rw [update_of_ne here]
    exact invariant.inGame other above inGame known

theorem spectators_setSpectating_self (invariant : Invariant game) (player : Id) :
    (game.setSpectating player none).spectators player = game.spectators player := by
  unfold Game.setSpectating
  split
  · rfl
  cases known : game.spectating player with
  | none => rfl
  | some old =>
    refine update_of_ne ?_ _ _
    rintro rfl
    exact invariant.irrefl player (.single known)

end Invariant

namespace Game

variable (game : Game Id) (player : Id)

/-- What `setSpectating` leaves as it is. -/
theorem setSpectating_frame (target : Option Id) :
    (game.setSpectating player target).removed = game.removed ∧
      (game.setSpectating player target).undefined = game.undefined := by
  unfold setSpectating
  split
  · exact ⟨rfl, rfl⟩
  cases game.spectating player with
  | none =>
    cases target with
    | none => exact ⟨rfl, rfl⟩
    | some target => exact ⟨rfl, rfl⟩
  | some spectating =>
    cases target with
    | none => exact ⟨rfl, rfl⟩
    | some target => exact ⟨rfl, rfl⟩

theorem spectating_setSpectating {player : Id} {target : Option Id}
    (changes : ¬(game.spectating player = target ∨ target = some player)) :
    (game.setSpectating player target).spectating =
      update game.spectating player target := by
  unfold setSpectating
  rw [if_neg changes]
  cases game.spectating player with
  | none =>
    cases target with
    | none => rfl
    | some target => rfl
  | some spectating =>
    cases target with
    | none => rfl
    | some target => rfl

theorem stopSpectating_eq :
    (if game.spectating player ≠ none then game.setSpectating player none else game) =
      game.setSpectating player none := by
  by_cases nobody : game.spectating player = none
  · rw [if_neg (not_not.mpr nobody), setSpectating, if_pos (.inl nobody)]
  · rw [if_pos nobody]

/-! ## Loops over the spectators -/

theorem undefined_releaseFrom (places : List Nat) (memory : List Id)
    {game : Game Id} (undefined : game.undefined = true) :
    (game.releaseFrom player places memory).undefined = true := by
  induction places generalizing memory game with
  | nil => exact undefined
  | cons place places ih =>
    unfold releaseFrom
    cases memory[place]? with
    | none => exact undefined
    | some spectator =>
      refine ih _ ?_
      unfold releaseOne
      dsimp only
      split
      · exact (game.setSpectating_frame spectator none).2.trans undefined
      · rfl

theorem releaseSpectators_nil {player : Id} (empty : game.spectators player = []) :
    game.releaseSpectators player = game := by
  unfold releaseSpectators
  rw [empty]
  rfl

end Game

namespace Invariant

variable {game : Game Id}

/-- **A loop over spectators is not defined** where there are any. -/
theorem undefined_releaseSpectators (invariant : Invariant game) {player : Id}
    (nonempty : game.spectators player ≠ []) :
    (game.releaseSpectators player).undefined = true := by
  obtain ⟨first, rest, isCons⟩ := List.exists_cons_of_ne_nil nonempty
  have among : first ∈ game.spectators player := by
    rw [isCons]
    exact List.mem_cons_self
  have known := invariant.mem_iff.mp among
  have taken : first ∉ (game.setSpectating first none).spectators player := by
    rw [(invariant.setSpectating_none first).mem_iff, game.spectating_setSpectating]
    · rw [update_self]
      exact nofun
    · rw [known]
      exact fun same => same.elim nofun nofun
  have changed : (game.setSpectating first none).spectators player ≠ game.spectators player := by
    intro same
    rw [same] at taken
    exact taken among
  have released : (game.releaseOne player first).undefined = true := by
    unfold Game.releaseOne
    rw [if_neg changed]
  unfold Game.releaseSpectators
  rw [isCons, List.length_cons, List.range_succ_eq_map]
  unfold Game.releaseFrom
  exact Game.undefined_releaseFrom player _ _ released

theorem release_cases (invariant : Invariant game) (player : Id) :
    (game.spectators player = [] ∧ game.releaseSpectators player = game) ∨
      (game.spectators player ≠ [] ∧ (game.releaseSpectators player).undefined = true) := by
  by_cases empty : game.spectators player = []
  · exact .inl ⟨empty, game.releaseSpectators_nil empty⟩
  · exact .inr ⟨empty, invariant.undefined_releaseSpectators empty⟩

/-! ## The steps -/

/-- A step is sound where the guard holds, and then the invariant goes on. -/
structure Exact (guard : Prop) (before : Game Id) (op : GameOp Id) (after : Game Id) : Prop where
  sound_iff : Sound before op after ↔ guard
  invariant : Sound before op after → Invariant after

variable {before : Game Id} {op : GameOp Id}

theorem exact_keeps {guard : Prop} (onwards : Invariant game) (holds : guard)
    (visited : ∀ player, Releases before player op → game.spectators player = []) :
    Exact guard before op game :=
  ⟨iff_of_true (onwards.sound visited) holds, fun _ => onwards⟩

theorem exact_fails {guard : Prop}
    (unsound : ¬Sound before op game) (fails : ¬guard) : Exact guard before op game :=
  ⟨iff_of_false unsound fails, fun isSound => absurd isSound unsound⟩

theorem unsound_of_undefined (undefined : game.undefined = true) : ¬Sound before op game := by
  intro isSound
  rw [isSound.defined] at undefined
  cases undefined

section

variable (invariant : Invariant game)
include invariant

theorem exact_setSpectating (player : Id) (target : Option Id)
    (legal : ∀ other, target = some other → game.removed other = false) :
    Exact (Apart game (.setSpectating player target)) game (.setSpectating player target)
      (game.setSpectating player target) := by
  cases target with
  | none => exact exact_keeps (invariant.setSpectating_none player) nofun fun _ => nofun
  | some other =>
    by_cases same : game.spectating player = some other ∨ some other = some player
    · have stays : game.setSpectating player (some other) = game := if_pos same
      rw [stays]
      refine exact_keeps invariant ?_ fun _ => nofun
      rintro _ ⟨⟩ different changes
      exact same.elim (fun known => absurd known changes) fun itself =>
        absurd (Option.some.inj itself) different
    · by_cases within : Within game.spectating other player
      · refine exact_fails (fun isSound => ?_) fun apart => ?_
        · refine isSound.acyclic player ?_
          rw [game.spectating_setSpectating same]
          have above :
              Above (update game.spectating player (some other)) player other := by
            rw [Above, update_self]
            rfl
          exact .head' above ((within_update_self (some other)).mpr within)
        · exact apart other rfl (fun itself => same (.inr (congrArg some itself)))
            (fun known => same (.inl known)) within
      · refine exact_keeps (invariant.setSpectating_some within (legal other rfl)) ?_
          fun _ => nofun
        rintro _ ⟨⟩ _ _
        exact within

theorem exact_removeCreature {player : Id} {op : GameOp Id} {guard : Prop}
    (guardIff : guard ↔
      ∀ spectator ∈ game.spectators player, game.removed spectator = true)
    (silent : ∀ other, ¬Releases game other op) :
    Exact guard game op (game.removeCreature player) := by
  by_cases alone : ∀ spectator ∈ game.spectators player, game.removed spectator = true
  · exact exact_keeps (invariant.removeCreature alone) (guardIff.mpr alone)
      fun other releases => absurd releases (silent other)
  · refine exact_fails (fun isSound => ?_) (guardIff.not.mpr alone)
    push Not at alone
    obtain ⟨spectator, among, stays⟩ := alone
    have known := invariant.mem_iff.mp among
    have different : spectator ≠ player := by
      rintro rfl
      exact invariant.irrefl spectator (.single known)
    have inGame : (game.removeCreature player).removed spectator = false :=
      (update_of_ne different _ _).trans (eq_false_of_ne_true stays)
    have removed := isSound.inGame spectator player inGame (.inl known)
    have isRemoved : (game.removeCreature player).removed player = true :=
      update_self _ _ _
    rw [isRemoved] at removed
    cases removed

theorem exit_cases (player : Id) :
    (game.spectators player = [] ∧
      (game.setSpectating player none).releaseSpectators player =
        game.setSpectating player none) ∨
      (game.spectators player ≠ [] ∧
        ((game.setSpectating player none).releaseSpectators player).undefined = true) := by
  have after := invariant.setSpectating_none player
  rw [← invariant.spectators_setSpectating_self player]
  exact after.release_cases player

theorem exact_logout (player : Id) (refused : Bool) {op : GameOp Id}
    {guard : Prop} (guardIff : guard ↔
      (game.removed player = false → refused = false → game.spectators player = []))
    (releases : ∀ other, Releases game other op → other = player ∧
      game.removed player = false ∧ refused = false) :
    Exact guard game op (game.logout player refused) := by
  unfold Game.logout
  by_cases removed : game.removed player = true
  · rw [if_pos removed]
    refine exact_keeps invariant (guardIff.mpr fun inGame => ?_) fun other isReleased => ?_
    · exact absurd (removed.symm.trans inGame) (by decide)
    · exact absurd (removed.symm.trans (releases other isReleased).2.1) (by decide)
  rw [if_neg removed]
  by_cases isRefused : refused = true
  · rw [if_pos isRefused]
    refine exact_keeps invariant (guardIff.mpr fun _ allowed => ?_) fun other isReleased => ?_
    · exact absurd (isRefused.symm.trans allowed) (by decide)
    · exact absurd (isRefused.symm.trans (releases other isReleased).2.2) (by decide)
  rw [if_neg isRefused]
  dsimp only
  rw [game.stopSpectating_eq]
  obtain ⟨empty, same⟩ | ⟨nonempty, undefined⟩ := invariant.exit_cases player
  · rw [same]
    have after := invariant.setSpectating_none player
    have spectators := (invariant.spectators_setSpectating_self player).trans empty
    refine exact_keeps (after.removeCreature fun spectator among => ?_)
      (guardIff.mpr fun _ _ => empty) fun other isReleased => ?_
    · rw [spectators] at among
      exact absurd among List.not_mem_nil
    · rw [(releases other isReleased).1]
      exact spectators
  · refine exact_fails (unsound_of_undefined undefined) fun guards => nonempty ?_
    exact guardIff.mp guards (eq_false_of_ne_true removed) (eq_false_of_ne_true isRefused)

theorem exact_step (op : GameOp Id) (legal : (spectating Id).legal game op) :
    Exact (Apart game op) game op ((spectating Id).step game op) := by
  cases op with
  | setSpectating player target => exact invariant.exact_setSpectating player target legal.2
  | connect player =>
    refine exact_keeps ?_ trivial fun _ => nofun
    exact ⟨invariant.forest, invariant.inGame, invariant.defined⟩
  | release player =>
    refine exact_keeps ?_ trivial fun _ => nofun
    exact ⟨invariant.forest, invariant.inGame, invariant.defined⟩
  | disconnect player =>
    show Exact _ game _ (game.disconnect player)
    unfold Game.disconnect
    by_cases client : game.client player = true
    · rw [if_pos client]
      obtain ⟨empty, same⟩ | ⟨nonempty, undefined⟩ := invariant.release_cases player
      · rw [same]
        refine exact_keeps invariant (fun _ => empty) ?_
        rintro _ ⟨rfl, -⟩
        exact empty
      · exact exact_fails (unsound_of_undefined undefined) fun apart => nonempty (apart client)
    · rw [if_neg client]
      refine exact_keeps invariant (fun isClient => absurd isClient client) ?_
      rintro _ ⟨rfl, isClient⟩
      exact absurd isClient client
  | logout player refused =>
    refine invariant.exact_logout player refused .rfl ?_
    rintro _ ⟨rfl, inGame, allowed⟩
    exact ⟨rfl, inGame, allowed⟩
  | kickPlayer player =>
    show Exact _ game _ (game.kickPlayer player)
    unfold Game.kickPlayer
    by_cases client : game.client player = true
    · rw [if_pos client]
      refine invariant.exact_logout player false ?_ ?_
      · simp only [Apart, if_pos client]
        exact ⟨fun apart inGame _ => apart inGame, fun apart inGame => apart inGame trivial⟩
      · rintro _ ⟨rfl, inGame, -⟩
        exact ⟨rfl, inGame, rfl⟩
    · rw [if_neg client]
      refine invariant.exact_removeCreature ?_ ?_
      · simp only [Apart, if_neg client]
      · rintro _ ⟨rfl, -, isClient⟩
        exact client isClient
  | removeCreature player => exact invariant.exact_removeCreature .rfl fun _ => nofun
  | destroy player =>
    show Exact _ game _ (game.destroy player)
    unfold Game.destroy
    rw [game.stopSpectating_eq]
    obtain ⟨empty, same⟩ | ⟨nonempty, undefined⟩ := invariant.exit_cases player
    · rw [same]
      refine exact_keeps (invariant.setSpectating_none player) empty ?_
      rintro _ rfl
      exact (invariant.spectators_setSpectating_self _).trans empty
    · exact exact_fails (unsound_of_undefined undefined) nonempty

end

end Invariant

/-- **Spectators are mutual, and nobody spectates itself through others or a player that was
removed**, exactly where no target spectates the player, players with spectators are not removed,
and no loop goes through spectators. -/
theorem spectators_sound_iff {ops : List (GameOp Id)} (legal : (spectating Id).Legal {} ops) :
    (spectating Id).Throughout Sound {} ops ↔
      (spectating Id).Throughout (fun before op _ => Apart before op) {} ops := by
  have initial : Invariant ({} : Game Id) :=
    { forest :=
        ⟨∅, fun _ => List.nodup_nil, iff_of_false List.not_mem_nil (Option.not_mem_none _),
          nofun, fun _ => 0, fun _ _ _ => nofun⟩
      inGame := fun _ _ _ => nofun
      defined := rfl }
  refine System.Throughout.iff_of_invariant (fun before op invariant isLegal => ?_) initial legal
  have isExact := invariant.exact_step op isLegal
  exact ⟨isExact.sound_iff, isExact.invariant⟩

/-- Two players spectate a third one, one after the other, who logs out behind them. -/
def watched : List (GameOp (Fin 3)) :=
  [.setSpectating 0 (some 2), .setSpectating 1 (some 0), .setSpectating 1 (some 2),
    .setSpectating 0 none, .logout 1 false, .release 1, .logout 2 true, .kickPlayer 2,
    .release 2, .destroy 2]

theorem spectators_sound_iff_watched :
    (spectating (Fin 3)).Throughout Sound {} watched ↔
      (spectating (Fin 3)).Throughout (fun before op _ => Apart before op) {} watched := by
  refine spectators_sound_iff ?_
  have known : ∀ {game : Game (Fin 3)} {target other : Fin 3}, game.removed target = false →
      some target = some other → game.removed other = false := by
    rintro game target _ inGame ⟨⟩
    exact inGame
  exact ⟨⟨rfl, fun _ => known rfl⟩, ⟨rfl, fun _ => known rfl⟩, ⟨rfl, fun _ => known rfl⟩,
    ⟨rfl, fun _ => nofun⟩, rfl, rfl, rfl, rfl, rfl, ⟨rfl, rfl⟩, trivial⟩

/-- Two players spectate each other. -/
theorem spectated_itself :
    ∃ ops, (spectating (Fin 3)).Legal {} ops ∧
      ¬(spectating (Fin 3)).Throughout Sound {} ops := by
  refine ⟨[.setSpectating 0 (some 1), .setSpectating 1 (some 0)], ?_, ?_⟩
  · refine ⟨⟨rfl, ?_⟩, ⟨rfl, ?_⟩, trivial⟩
    · rintro _ ⟨⟩
      rfl
    · rintro _ ⟨⟩
      rfl
  · rintro ⟨-, closed, -⟩
    exact closed.acyclic 0 (.head rfl (.single rfl))

end Otserv.Spectating
