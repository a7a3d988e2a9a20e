import Otserv.Reconnects.Reconnect

/-!
# Taking over a character

In every order of logins, delayed connects, ends of connections, releases and removals, a player
should have one client at most, which points back to it and holds one reference, and be connecting
only while an event that connects it is pending; else it could not be logged out for its silence
(`Sound`).

The pointers and references are right in every run (`Formed`). But `connect` returns without
clearing `isConnecting` when it does not take the player over (`reconnects_sound_iff`).
-/

namespace Otserv.Reconnects

open Foundation

variable {Client Id : Type} [DecidableEq Client] [DecidableEq Id]

/-- The game or a client holds the player. -/
def Game.Kept (game : Game Client Id) (id : Id) : Prop :=
  (game.players id).stage = .inGame ∨ (game.players id).client ≠ none

/-- Silent for long enough, and nothing but the player itself is against a logout. -/
structure Silence.Permits (silence : Silence) : Prop where
  long : 60000 ≤ silence.noPongTime
  place : silence.noLogout = false
  peace : silence.protectionZone = true ∨ silence.pzLocked = false ∧ silence.inFight = false
  allowed : silence.allowed = true

structure Sound (game : Game Client Id) : Prop where
  oneClient : ∀ {id first second}, (game.protocols first).player = some id →
    (game.protocols second).player = some id → first = second
  pointsBack : ∀ {id client}, (game.players id).client = some client →
    (game.protocols client).player = some id
  oneReference : ∀ {id client}, (game.protocols client).player = some id →
    (game.players id).referenceCounter = 1
  noReference : ∀ {id}, (∀ client, (game.protocols client).player ≠ some id) →
    (game.players id).referenceCounter = 0
  connecting : ∀ {id}, game.Kept id → (game.players id).isConnecting = true →
    ∃ client, (game.protocols client).eventConnect = some id
  /-- A player whom nobody is about to connect to is logged out for its silence. -/
  loggedOut : ∀ {id silence}, (game.players id).stage = .inGame →
    (∀ client, (game.protocols client).eventConnect ≠ some id) → silence.Permits →
      ((game.sendPing id silence).players id).stage = .removed

/-- A connect takes its player over, unless nothing depends on it: the player is not connecting,
or not there any more, or the event of another client is pending. -/
def HandedOver (game : Game Client Id) : GameOp Client Id → Prop
  | .connect client => ∀ id ∈ (game.protocols client).eventConnect,
      game.Kept id → (game.players id).isConnecting = true →
        (game.players id).stage = .inGame ∧ (game.players id).client = none ∧
            (game.protocols client).expired = false ∨
          ∃ other, other ≠ client ∧ (game.protocols other).eventConnect = some id
  | .login .. | .close _ | .expire _ | .release _ | .logout .. | .kickPlayer _
  | .removeCreature _ | .sendPing .. => True

/-! ## The invariant -/

structure Formed (game : Game Client Id) : Prop where
  linked : ∀ {id client}, (game.protocols client).player = some id ↔
    (game.players id).client = some client
  counted : ∀ id, (game.players id).referenceCounter =
    if (game.players id).client = none then 0 else 1
  absent : ∀ {id}, (game.players id).stage = .absent →
    (game.players id).client = none ∧ (game.players id).isConnecting = false
  named : ∀ {id}, game.mappedPlayerName = some id → (game.players id).stage = .inGame
  /-- Who waits to connect has no player. -/
  waiting : ∀ {client id}, (game.protocols client).eventConnect = some id →
    (game.protocols client).player = none
  quiet : ∀ {client}, (game.protocols client).loggedIn = false →
    (game.protocols client).player = none ∧ (game.protocols client).eventConnect = none

/-- Players are connecting only while events that connect them are pending. -/
def Awaited (game : Game Client Id) : Prop :=
  ∀ id, game.Kept id → (game.players id).isConnecting = true →
    ∃ client, (game.protocols client).eventConnect = some id

structure Invariant (game : Game Client Id) : Prop extends Formed game where
  awaited : Awaited game

namespace Game

variable (game : Game Client Id)

section

variable (id : Id) (client : Client) (ofPlayer : Player Client → Player Client)
  (ofProtocol : ProtocolGame Id → ProtocolGame Id)

omit [DecidableEq Client] in
@[simp] theorem protocols_modifyPlayer :
    (game.modifyPlayer id ofPlayer).protocols = game.protocols := rfl

omit [DecidableEq Id] in
@[simp] theorem players_modifyProtocol :
    (game.modifyProtocol client ofProtocol).players = game.players := rfl

omit [DecidableEq Client] in
@[simp] theorem player_modifyPlayer_self :
    (game.modifyPlayer id ofPlayer).players id = ofPlayer (game.players id) :=
  Function.update_self _ _ _

omit [DecidableEq Id] in
@[simp] theorem protocol_modifyProtocol_self :
    (game.modifyProtocol client ofProtocol).protocols client =
      ofProtocol (game.protocols client) :=
  Function.update_self _ _ _

omit [DecidableEq Client] in
theorem player_modifyPlayer_of_ne {other : Id} (different : other ≠ id) :
    (game.modifyPlayer id ofPlayer).players other = game.players other :=
  Function.update_of_ne different _ _

omit [DecidableEq Id] in
theorem protocol_modifyProtocol_of_ne {other : Client} (different : other ≠ client) :
    (game.modifyProtocol client ofProtocol).protocols other = game.protocols other :=
  Function.update_of_ne different _ _

end

omit [DecidableEq Id] in
@[simp] theorem players_disconnect (client : Client) :
    (game.disconnect client).players = game.players := by
  unfold disconnect
  split
  · rfl
  · rfl

omit [DecidableEq Id] in
@[simp] theorem name_disconnect (client : Client) :
    (game.disconnect client).mappedPlayerName = game.mappedPlayerName := by
  unfold disconnect
  split
  · rfl
  · rfl

omit [DecidableEq Id] in
theorem disconnect_frame (client other : Client) :
    ((game.disconnect client).protocols other).player = (game.protocols other).player ∧
      ((game.disconnect client).protocols other).eventConnect =
        (game.protocols other).eventConnect ∧
      ((game.disconnect client).protocols other).loggedIn = (game.protocols other).loggedIn := by
  unfold disconnect
  split
  · exact ⟨rfl, rfl, rfl⟩
  · by_cases here : other = client
    · rw [here, close, protocol_modifyProtocol_self]
      exact ⟨rfl, rfl, rfl⟩
    · rw [close, protocol_modifyProtocol_of_ne _ _ _ here]
      exact ⟨rfl, rfl, rfl⟩

end Game

namespace Formed

variable {game : Game Client Id} {client : Client}

omit [DecidableEq Id] in
theorem modifyProtocol (formed : Formed game) {change : ProtocolGame Id → ProtocolGame Id}
    (player : (change (game.protocols client)).player = (game.protocols client).player)
    (waiting : ∀ id, (change (game.protocols client)).eventConnect = some id →
      (game.protocols client).player = none)
    (quiet : (change (game.protocols client)).loggedIn = false →
      (game.protocols client).loggedIn = false ∧
        (change (game.protocols client)).eventConnect = none) :
    Formed (game.modifyProtocol client change) where
  linked := by
    intro id other
    by_cases here : other = client
    · rw [here, game.protocol_modifyProtocol_self, player]
      exact formed.linked
    · rw [game.protocol_modifyProtocol_of_ne _ _ here]
      exact formed.linked
  counted := formed.counted
  absent := formed.absent
  named := formed.named
  waiting := by
    intro other id
    by_cases here : other = client
    · rw [here, game.protocol_modifyProtocol_self, player]
      exact waiting id
    · rw [game.protocol_modifyProtocol_of_ne _ _ here]
      exact formed.waiting
  quiet := by
    intro other
    by_cases here : other = client
    · rw [here, game.protocol_modifyProtocol_self, player]
      intro silent
      obtain ⟨before, event⟩ := quiet silent
      exact ⟨(formed.quiet before).1, event⟩
    · rw [game.protocol_modifyProtocol_of_ne _ _ here]
      exact formed.quiet

omit [DecidableEq Client] in
theorem modifyPlayer (formed : Formed game) {id : Id} {change : Player Client → Player Client}
    {name : Option Id} (client : (change (game.players id)).client = (game.players id).client)
    (counter : (change (game.players id)).referenceCounter =
      (game.players id).referenceCounter)
    (present : (change (game.players id)).stage ≠ .absent)
    (named : ∀ other, name = some other →
      ((game.modifyPlayer id change).players other).stage = .inGame) :
    Formed { game.modifyPlayer id change with mappedPlayerName := name } where
  linked := by
    intro other holder
    by_cases here : other = id
    · rw [here, game.player_modifyPlayer_self, client]
      exact formed.linked
    · rw [game.player_modifyPlayer_of_ne _ _ here]
      exact formed.linked
  counted := by
    intro other
    by_cases here : other = id
    · rw [here, game.player_modifyPlayer_self, client, counter]
      exact formed.counted id
    · rw [game.player_modifyPlayer_of_ne _ _ here]
      exact formed.counted other
  absent := by
    intro other
    by_cases here : other = id
    · rw [here, game.player_modifyPlayer_self]
      exact fun isAbsent => absurd isAbsent present
    · rw [game.player_modifyPlayer_of_ne _ _ here]
      exact formed.absent
  named := fun {other} isName => named other isName
  waiting := formed.waiting
  quiet := formed.quiet

theorem take (formed : Formed game) {id : Id} {change : Player Client → Player Client}
    (nobody : (game.protocols client).player = none) (alone : (game.players id).client = none)
    (event : (game.protocols client).eventConnect = none)
    (loggedIn : (game.protocols client).loggedIn = true)
    (taken : (change (game.players id)).client = some client)
    (counter : (change (game.players id)).referenceCounter =
      (game.players id).referenceCounter + 1)
    (present : (change (game.players id)).stage ≠ .absent)
    (inGame : (game.players id).stage = .inGame → (change (game.players id)).stage = .inGame) :
    Formed ((game.modifyProtocol client fun protocol =>
      { protocol with player := some id }).modifyPlayer id change) where
  linked := by
    intro other holder
    by_cases here : other = id
    · rw [here, Game.player_modifyPlayer_self, Game.protocols_modifyPlayer,
        Game.players_modifyProtocol, taken, Option.some_inj]
      by_cases itself : holder = client
      · rw [itself, Game.protocol_modifyProtocol_self]
        exact iff_of_true rfl rfl
      · rw [Game.protocol_modifyProtocol_of_ne _ _ _ itself, formed.linked, alone]
        exact iff_of_false nofun (Ne.symm itself)
    · rw [Game.player_modifyPlayer_of_ne _ _ _ here, Game.protocols_modifyPlayer,
        Game.players_modifyProtocol]
      by_cases itself : holder = client
      · rw [itself, Game.protocol_modifyProtocol_self, ← formed.linked, nobody, Option.some_inj]
        exact iff_of_false (Ne.symm here) nofun
      · rw [Game.protocol_modifyProtocol_of_ne _ _ _ itself]
        exact formed.linked
  counted := by
    intro other
    by_cases here : other = id
    · rw [here, Game.player_modifyPlayer_self, Game.players_modifyProtocol, taken, counter,
        formed.counted, if_pos alone, if_neg nofun]
    · rw [Game.player_modifyPlayer_of_ne _ _ _ here]
      exact formed.counted other
  absent := by
    intro other
    by_cases here : other = id
    · rw [here, Game.player_modifyPlayer_self]
      exact fun isAbsent => absurd isAbsent present
    · rw [Game.player_modifyPlayer_of_ne _ _ _ here]
      exact formed.absent
  named := by
    intro other isName
    have before := formed.named isName
    by_cases here : other = id
    · rw [here, Game.player_modifyPlayer_self]
      exact inGame (here ▸ before)
    · rwa [Game.player_modifyPlayer_of_ne _ _ _ here]
  waiting := by
    intro holder other
    rw [Game.protocols_modifyPlayer]
    by_cases itself : holder = client
    · rw [itself, Game.protocol_modifyProtocol_self]
      intro pending
      rw [event] at pending
      cases pending
    · rw [Game.protocol_modifyProtocol_of_ne _ _ _ itself]
      exact formed.waiting
  quiet := by
    intro holder
    rw [Game.protocols_modifyPlayer]
    by_cases itself : holder = client
    · rw [itself, Game.protocol_modifyProtocol_self]
      intro silent
      rw [loggedIn] at silent
      cases silent
    · rw [Game.protocol_modifyProtocol_of_ne _ _ _ itself]
      exact formed.quiet

theorem leave (formed : Formed game) {id : Id} (isClient : (game.players id).client = some client) :
    Formed ((game.modifyPlayer id fun player =>
      { player with
        client := none
        referenceCounter := player.referenceCounter - 1 }).modifyProtocol client
          fun protocol => { protocol with player := none }) where
  linked := by
    intro other holder
    rw [Game.players_modifyProtocol]
    by_cases itself : holder = client
    · rw [itself, Game.protocol_modifyProtocol_self]
      refine iff_of_false nofun fun isOther => ?_
      by_cases here : other = id
      · rw [here, Game.player_modifyPlayer_self] at isOther
        cases isOther
      · rw [Game.player_modifyPlayer_of_ne _ _ _ here] at isOther
        have same := (formed.linked.mpr isOther).symm.trans (formed.linked.mpr isClient)
        exact here (Option.some.inj same)
    · rw [Game.protocol_modifyProtocol_of_ne _ _ _ itself, Game.protocols_modifyPlayer]
      by_cases here : other = id
      · rw [here, Game.player_modifyPlayer_self, formed.linked, isClient, Option.some_inj]
        exact iff_of_false (Ne.symm itself) nofun
      · rw [Game.player_modifyPlayer_of_ne _ _ _ here]
        exact formed.linked
  counted := by
    intro other
    rw [Game.players_modifyProtocol]
    by_cases here : other = id
    · rw [here, Game.player_modifyPlayer_self, if_pos rfl]
      rw [formed.counted, isClient, if_neg nofun]
    · rw [Game.player_modifyPlayer_of_ne _ _ _ here]
      exact formed.counted other
  absent := by
    intro other
    rw [Game.players_modifyProtocol]
    by_cases here : other = id
    · rw [here, Game.player_modifyPlayer_self]
      exact fun isAbsent => ⟨rfl, (formed.absent isAbsent).2⟩
    · rw [Game.player_modifyPlayer_of_ne _ _ _ here]
      exact formed.absent
  named := by
    intro other isName
    have before := formed.named isName
    rw [Game.players_modifyProtocol]
    by_cases here : other = id
    · rw [here, Game.player_modifyPlayer_self]
      exact here ▸ before
    · rwa [Game.player_modifyPlayer_of_ne _ _ _ here]
  waiting := by
    intro holder other
    by_cases itself : holder = client
    · rw [itself, Game.protocol_modifyProtocol_self]
      exact fun _ => rfl
    · rw [Game.protocol_modifyProtocol_of_ne _ _ _ itself]
      exact formed.waiting
  quiet := by
    intro holder
    by_cases itself : holder = client
    · rw [itself, Game.protocol_modifyProtocol_self]
      exact fun silent => ⟨rfl, (formed.quiet silent).2⟩
    · rw [Game.protocol_modifyProtocol_of_ne _ _ _ itself]
      exact formed.quiet

end Formed

/-! ## Operations that connect nobody -/

/-- No player is made or starts to connect, and all events go on. -/
structure Onwards (game after : Game Client Id) : Prop where
  formed : Formed after
  kept : ∀ {id}, after.Kept id → game.Kept id
  connecting : ∀ id, (after.players id).isConnecting = (game.players id).isConnecting
  events : ∀ client, (after.protocols client).eventConnect = (game.protocols client).eventConnect

namespace Onwards

variable {game : Game Client Id}

omit [DecidableEq Client] [DecidableEq Id] in
theorem refl (formed : Formed game) : Onwards game game :=
  ⟨formed, fun kept => kept, fun _ => rfl, fun _ => rfl⟩

omit [DecidableEq Client] [DecidableEq Id] in
theorem trans {middle after : Game Client Id} (first : Onwards game middle)
    (second : Onwards middle after) : Onwards game after where
  formed := second.formed
  kept := fun kept => first.kept (second.kept kept)
  connecting := fun id => (second.connecting id).trans (first.connecting id)
  events := fun client => (second.events client).trans (first.events client)

omit [DecidableEq Client] [DecidableEq Id] in
theorem awaited {after : Game Client Id} (onwards : Onwards game after)
    (awaited : Awaited game) : Awaited after := by
  intro id kept connecting
  rw [onwards.connecting] at connecting
  obtain ⟨client, pending⟩ := awaited id (onwards.kept kept) connecting
  exact ⟨client, (onwards.events client).trans pending⟩

section

variable (formed : Formed game)
include formed

omit [DecidableEq Id] in
theorem protocol {client : Client} {change : ProtocolGame Id → ProtocolGame Id}
    (player : (change (game.protocols client)).player = (game.protocols client).player)
    (event : (change (game.protocols client)).eventConnect =
      (game.protocols client).eventConnect)
    (loggedIn : (change (game.protocols client)).loggedIn = false →
      (game.protocols client).loggedIn = false) :
    Onwards game (game.modifyProtocol client change) where
  formed := by
    refine formed.modifyProtocol player (fun id pending => ?_) fun silent => ?_
    · exact formed.waiting (event.symm.trans pending)
    · exact ⟨loggedIn silent, event.trans (formed.quiet (loggedIn silent)).2⟩
  kept := fun kept => kept
  connecting := fun _ => rfl
  events := by
    intro other
    by_cases here : other = client
    · rw [here, game.protocol_modifyProtocol_self, event]
    · rw [game.protocol_modifyProtocol_of_ne _ _ here]

variable (client : Client)

omit [DecidableEq Id] in
theorem close : Onwards game (game.close client) :=
  protocol formed rfl rfl fun silent => silent

omit [DecidableEq Id] in
theorem disconnect : Onwards game (game.disconnect client) := by
  unfold Game.disconnect
  by_cases expired : (game.protocols client).expired = true
  · rw [if_pos expired]
    exact refl formed
  · rw [if_neg expired]
    exact close formed client

theorem release (client : Client) : Onwards game (game.release client) := by
  have ended {middle : Game Client Id} (onwards : Onwards game middle) :
      Onwards game (middle.modifyProtocol client fun protocol =>
        { protocol with released := true }) :=
    onwards.trans (protocol onwards.formed rfl rfl fun silent => silent)
  refine ended ?_
  cases known : (game.protocols client).player with
  | none => exact refl formed
  | some id =>
    have isClient := formed.linked.mp known
    dsimp only
    rw [if_pos isClient]
    refine ⟨formed.leave isClient, fun {other} kept => ?_, fun other => ?_, fun other => ?_⟩
    · by_cases here : other = id
      · rw [here]
        exact .inr (isClient ▸ nofun)
      · unfold Game.Kept at kept
        rwa [Game.players_modifyProtocol, Game.player_modifyPlayer_of_ne _ _ _ here] at kept
    · rw [Game.players_modifyProtocol]
      by_cases here : other = id
      · rw [here, Game.player_modifyPlayer_self]
      · rw [Game.player_modifyPlayer_of_ne _ _ _ here]
    · by_cases itself : other = client
      · rw [itself, Game.protocol_modifyProtocol_self, Game.protocols_modifyPlayer]
      · rw [Game.protocol_modifyProtocol_of_ne _ _ _ itself, Game.protocols_modifyPlayer]

omit [DecidableEq Client] in
theorem removeCreature (id : Id) : Onwards game (game.removeCreature id) := by
  unfold Game.removeCreature
  by_cases removed : (game.players id).stage = .removed
  · rw [if_pos removed]
    exact refl formed
  rw [if_neg removed]
  refine ⟨formed.modifyPlayer rfl rfl nofun nofun, fun {other} kept => ?_, fun other => ?_,
    fun _ => rfl⟩
  · have keeps : (game.modifyPlayer id fun player =>
        { player with stage := .removed }).Kept other := kept
    unfold Game.Kept at keeps
    by_cases here : other = id
    · rw [here, Game.player_modifyPlayer_self] at keeps
      rw [here]
      exact .inr (keeps.resolve_left nofun)
    · rwa [Game.player_modifyPlayer_of_ne _ _ _ here] at keeps
  · by_cases here : other = id
    · rw [here, Game.player_modifyPlayer_self]
    · rw [Game.player_modifyPlayer_of_ne _ _ _ here]

theorem logout (refused : Bool) : Onwards game (game.logout client refused) := by
  unfold Game.logout
  cases (game.protocols client).player with
  | none => exact refl formed
  | some id =>
    dsimp only
    by_cases stays : (game.players id).stage ≠ .removed ∧ refused = true
    · rw [if_pos stays]
      exact refl formed
    · rw [if_neg stays]
      have closed := disconnect formed client
      exact closed.trans (removeCreature closed.formed id)

theorem kickPlayer (id : Id) : Onwards game (game.kickPlayer id) := by
  unfold Game.kickPlayer
  cases (game.players id).client with
  | none => exact removeCreature formed id
  | some client => exact logout formed client false

theorem sendPing (id : Id) (silence : Silence) : Onwards game (game.sendPing id silence) := by
  unfold Game.sendPing
  by_cases silent : 60000 ≤ silence.noPongTime ∧ game.canLogout id silence = true
  · rw [if_pos silent]
    by_cases allowed : silence.allowed = true
    · rw [if_pos allowed]
      -- the rest is that of a kick
      exact kickPlayer formed id
    · rw [if_neg allowed]
      exact refl formed
  · rw [if_neg silent]
    exact refl formed

end

end Onwards

/-! ## Connecting -/

namespace Game

variable (game : Game Client Id) (client : Client)

/-- Its event has fired. -/
def fired : Game Client Id :=
  game.modifyProtocol client fun protocol => { protocol with eventConnect := none }

/-- The client takes the player over. -/
def taken (id : Id) : Game Client Id :=
  (game.modifyProtocol client fun protocol => { protocol with player := some id }).modifyPlayer id
    fun player =>
      { player with
        client := some client
        isConnecting := false
        referenceCounter := player.referenceCounter + 1 }

/-- Whether a connect takes the player over. -/
def Connects (id : Id) : Prop :=
  (game.players id).stage = .inGame ∧ (game.players id).client = none ∧
    (game.protocols client).expired = false

theorem connect_of_connects {id : Id} (connects : game.Connects client id) :
    game.connect client id = (game.fired client).taken client id := by
  obtain ⟨inGame, alone, there⟩ := connects
  unfold connect
  dsimp only
  rw [players_modifyProtocol, if_neg, protocol_modifyProtocol_self, if_neg]
  · rfl
  · exact there ▸ Bool.false_ne_true
  · exact fun refused => refused.elim (absurd inGame) (absurd alone)

theorem connect_of_not {id : Id} (fails : ¬game.Connects client id) :
    game.connect client id = game.fired client ∨
      game.connect client id = (game.fired client).disconnect client := by
  unfold connect
  dsimp only
  rw [players_modifyProtocol, protocol_modifyProtocol_self]
  by_cases refused : (game.players id).stage ≠ .inGame ∨ (game.players id).client ≠ none
  · rw [if_pos refused]
    exact .inr rfl
  · rw [if_neg refused]
    obtain ⟨inGame, alone⟩ := not_or.mp refused
    have expired : (game.protocols client).expired = true := by
      by_contra there
      exact fails ⟨not_not.mp inGame, not_not.mp alone, eq_false_of_ne_true there⟩
    rw [if_pos expired]
    exact .inl rfl

end Game

section Connecting

variable {game : Game Client Id} {client : Client}

omit [DecidableEq Id] in
theorem Formed.fired (formed : Formed game) (client : Client) : Formed (game.fired client) :=
  formed.modifyProtocol rfl (fun _ => nofun) fun silent => ⟨silent, rfl⟩

variable {id : Id}

theorem Formed.taken (formed : Formed game) (connects : game.Connects client id)
    (nobody : (game.protocols client).player = none)
    (event : (game.protocols client).eventConnect = none)
    (loggedIn : (game.protocols client).loggedIn = true) : Formed (game.taken client id) := by
  obtain ⟨inGame, alone, -⟩ := connects
  refine formed.take nobody alone event loggedIn rfl rfl ?_ fun _ => inGame
  exact inGame ▸ nofun

omit [DecidableEq Id] in
theorem awaited_fired_iff (awaited : Awaited game) :
    Awaited (game.fired client) ↔ ∀ id ∈ (game.protocols client).eventConnect, game.Kept id →
      (game.players id).isConnecting = true →
        ∃ other, other ≠ client ∧ (game.protocols other).eventConnect = some id := by
  constructor
  · intro after id _ kept connecting
    obtain ⟨other, pending⟩ := after id kept connecting
    by_cases itself : other = client
    · rw [itself, Game.fired, Game.protocol_modifyProtocol_self] at pending
      cases pending
    · rw [Game.fired, Game.protocol_modifyProtocol_of_ne _ _ _ itself] at pending
      exact ⟨other, itself, pending⟩
  · intro others id kept connecting
    have still : ∀ other, other ≠ client → (game.protocols other).eventConnect = some id →
        ∃ other, ((game.fired client).protocols other).eventConnect = some id := by
      intro other different pending
      refine ⟨other, ?_⟩
      rwa [Game.fired, Game.protocol_modifyProtocol_of_ne _ _ _ different]
    obtain ⟨first, pending⟩ := awaited id kept connecting
    by_cases itself : first = client
    · rw [itself] at pending
      obtain ⟨other, different, pending⟩ := others id pending kept connecting
      exact still other different pending
    · exact still first itself pending

theorem awaited_taken (awaited : Awaited game)
    (others : ∀ other ∈ (game.protocols client).eventConnect, other = id) :
    Awaited ((game.fired client).taken client id) := by
  intro other kept connecting
  unfold Game.taken at kept connecting ⊢
  unfold Game.Kept at kept
  by_cases here : other = id
  · rw [here, Game.player_modifyPlayer_self] at connecting
    cases connecting
  rw [Game.player_modifyPlayer_of_ne _ _ _ here] at kept connecting
  obtain ⟨holder, pending⟩ := awaited other kept connecting
  have different : holder ≠ client := by
    rintro rfl
    exact here (others other pending)
  refine ⟨holder, ?_⟩
  rwa [Game.protocols_modifyPlayer, Game.protocol_modifyProtocol_of_ne _ _ _ different, Game.fired,
    Game.protocol_modifyProtocol_of_ne _ _ _ different]

theorem Formed.connect (formed : Formed game) (nobody : (game.protocols client).player = none)
    (loggedIn : (game.protocols client).loggedIn = true) : Formed (game.connect client id) := by
  have fired := formed.fired client
  by_cases connects : game.Connects client id
  · rw [game.connect_of_connects client connects]
    refine fired.taken ?_ ?_ ?_ ?_
    · unfold Game.Connects Game.fired
      rwa [Game.players_modifyProtocol, Game.protocol_modifyProtocol_self]
    · rwa [Game.fired, Game.protocol_modifyProtocol_self]
    · rw [Game.fired, Game.protocol_modifyProtocol_self]
    · rwa [Game.fired, Game.protocol_modifyProtocol_self]
  · obtain same | same := game.connect_of_not client connects
    · rwa [same]
    · rw [same]
      exact (Onwards.disconnect fired client).formed

/-- **The event of a client** keeps players from connecting for ever where it takes over the one
that it is for, or another event is pending for it. -/
theorem awaited_connect_iff (formed : Formed game) (awaited : Awaited game)
    (event : ∀ other ∈ (game.protocols client).eventConnect, other = id) :
    Awaited (game.connect client id) ↔ ∀ other ∈ (game.protocols client).eventConnect,
      game.Kept other → (game.players other).isConnecting = true → game.Connects client other ∨
        ∃ holder, holder ≠ client ∧ (game.protocols holder).eventConnect = some other := by
  by_cases connects : game.Connects client id
  · rw [game.connect_of_connects client connects]
    refine iff_of_true (awaited_taken awaited event) fun other pending _ _ => .inl ?_
    rw [event other pending]
    exact connects
  · have without : Awaited (game.connect client id) ↔ Awaited (game.fired client) := by
      obtain same | same := game.connect_of_not client connects
      · rw [same]
      · rw [same]
        refine ⟨fun after other kept connecting => ?_,
          (Onwards.disconnect (formed.fired client) client).awaited⟩
        have still : ((game.fired client).disconnect client).Kept other := by
          unfold Game.Kept
          rwa [Game.players_disconnect]
        obtain ⟨holder, pending⟩ := after other still (by rwa [Game.players_disconnect])
        exact ⟨holder, ((Game.disconnect_frame _ client holder).2.1).symm.trans pending⟩
    rw [without, awaited_fired_iff awaited]
    refine forall₂_congr fun other pending => ?_
    rw [event other pending]
    exact imp_congr_right fun _ => imp_congr_right fun _ => (or_iff_right connects).symm

end Connecting

/-! ## Logins -/

namespace Game

variable (game : Game Client Id) (client : Client)

/-- A player is made for the client. -/
def made (new : Id) : Game Client Id :=
  (game.modifyProtocol client fun protocol => { protocol with player := some new }).modifyPlayer new
    fun player =>
      { player with
        client := some client
        referenceCounter := player.referenceCounter + 1
        stage := .loaded }

/-- The player found is to be connected to, after the client that it has. -/
def postponed (found : Id) (old : Client) : Game Client Id :=
  ((game.disconnect old).modifyPlayer found fun player =>
    { player with isConnecting := true }).modifyProtocol client
      fun protocol => { protocol with eventConnect := some found }

end Game

section Logins

variable {game : Game Client Id} {client : Client}

omit [DecidableEq Client] [DecidableEq Id] in
theorem Awaited.of_new (awaited : Awaited game) (new : Id) {after : Game Client Id}
    (others : ∀ other, other ≠ new → after.players other = game.players other)
    (waits : (after.players new).isConnecting = false)
    (events : ∀ other, (after.protocols other).eventConnect =
      (game.protocols other).eventConnect) : Awaited after := by
  intro other kept connecting
  have different : other ≠ new := by
    rintro rfl
    rw [waits] at connecting
    cases connecting
  unfold Game.Kept at kept
  rw [others other different] at kept connecting
  obtain ⟨holder, pending⟩ := awaited other kept connecting
  exact ⟨holder, (events holder).trans pending⟩

theorem loginNew_keeps (formed : Formed game) (awaited : Awaited game) {new : Id} (placed : Bool)
    (absent : (game.players new).stage = .absent) (nobody : (game.protocols client).player = none)
    (event : (game.protocols client).eventConnect = none)
    (loggedIn : (game.protocols client).loggedIn = true) :
    Formed (game.loginNew client new placed) ∧ Awaited (game.loginNew client new placed) := by
  obtain ⟨alone, waits⟩ := formed.absent absent
  have made : Formed (game.made client new) := by
    refine formed.take nobody alone event loggedIn rfl rfl nofun fun inGame => ?_
    rw [absent] at inGame
    cases inGame
  have others : ∀ other, other ≠ new →
      (game.made client new).players other = game.players other := fun other different =>
    Game.player_modifyPlayer_of_ne _ _ _ different
  have waitsStill : ((game.made client new).players new).isConnecting = false := by
    rwa [Game.made, Game.player_modifyPlayer_self]
  have events : ∀ other, ((game.made client new).protocols other).eventConnect =
      (game.protocols other).eventConnect := by
    intro other
    rw [Game.made, Game.protocols_modifyPlayer]
    by_cases here : other = client
    · rw [here, Game.protocol_modifyProtocol_self]
    · rw [Game.protocol_modifyProtocol_of_ne _ _ _ here]
  cases placed with
  | false =>
    have closed := Onwards.disconnect made client
    exact ⟨closed.formed, closed.awaited (awaited.of_new new others waitsStill events)⟩
  | true =>
    have players : (game.loginNew client new true).players =
        ((game.made client new).modifyPlayer new fun player =>
          { player with stage := .inGame }).players := rfl
    constructor
    · refine made.modifyPlayer rfl rfl nofun ?_
      rintro _ ⟨⟩
      rw [Game.player_modifyPlayer_self]
    · refine awaited.of_new new (fun other different => ?_) ?_ events
      · rw [players, Game.player_modifyPlayer_of_ne _ _ _ different]
        exact others other different
      · rwa [players, Game.player_modifyPlayer_self]

theorem postponed_keeps (formed : Formed game) (awaited : Awaited game) {found : Id}
    (isName : game.mappedPlayerName = some found) (old : Client)
    (nobody : (game.protocols client).player = none)
    (event : (game.protocols client).eventConnect = none)
    (loggedIn : (game.protocols client).loggedIn = true) :
    Formed (game.postponed client found old) ∧ Awaited (game.postponed client found old) := by
  have closed := (Onwards.disconnect formed old).formed
  have inGame := formed.named isName
  have connecting : Formed ((game.disconnect old).modifyPlayer found fun player =>
      { player with isConnecting := true }) := by
    refine @Formed.modifyPlayer _ _ _ _ closed found (fun player =>
      { player with isConnecting := true }) _ rfl rfl ?_ fun other isOther => ?_
    · rw [Game.players_disconnect]
      exact inGame ▸ nofun
    · rw [Game.name_disconnect, isName] at isOther
      cases isOther
      rw [Game.player_modifyPlayer_self, Game.players_disconnect]
      exact inGame
  constructor
  · refine connecting.modifyProtocol rfl (fun _ _ => ?_) fun silent => ?_
    · exact (game.disconnect_frame old client).1.trans nobody
    · have isLoggedIn := (game.disconnect_frame old client).2.2.trans loggedIn
      exact absurd (isLoggedIn.symm.trans silent) (by decide)
  · intro other kept isConnecting
    unfold Game.postponed at kept isConnecting ⊢
    by_cases here : other = found
    · refine ⟨client, ?_⟩
      rw [here, Game.protocol_modifyProtocol_self]
    · unfold Game.Kept at kept
      rw [Game.players_modifyProtocol, Game.player_modifyPlayer_of_ne _ _ _ here,
        Game.players_disconnect] at kept isConnecting
      obtain ⟨holder, pending⟩ := awaited other kept isConnecting
      have different : holder ≠ client := by
        rintro rfl
        rw [event] at pending
        cases pending
      refine ⟨holder, ?_⟩
      rw [Game.protocol_modifyProtocol_of_ne _ _ _ different, Game.protocols_modifyPlayer]
      exact (game.disconnect_frame old holder).2.1.trans pending

/-- **A login**, whatever it finds. -/
theorem login_keeps (formed : Formed game) (awaited : Awaited game) {new : Id}
    (allowClones replaceKickOnLogin placed : Bool)
    (first : (game.protocols client).loggedIn = false)
    (absent : (game.players new).stage = .absent) :
    Formed (game.login client new allowClones replaceKickOnLogin placed) ∧
      Awaited (game.login client new allowClones replaceKickOnLogin placed) := by
  obtain ⟨nobody, event⟩ := formed.quiet first
  have onwards : Onwards game (game.modifyProtocol client fun protocol =>
      { protocol with loggedIn := true }) := .protocol formed rfl rfl nofun
  have self := game.protocol_modifyProtocol_self client fun protocol =>
    { protocol with loggedIn := true }
  unfold Game.login
  generalize after : (game.modifyProtocol client fun protocol =>
    { protocol with loggedIn := true }) = begun at onwards self
  have players : begun.players = game.players := by
    rw [← after]
    rfl
  have awaitedStill := onwards.awaited awaited
  have nobodyStill : (begun.protocols client).player = none := by rwa [self]
  have eventStill : (begun.protocols client).eventConnect = none := by rwa [self]
  have loggedIn : (begun.protocols client).loggedIn = true := by rw [self]
  dsimp only
  split
  · refine loginNew_keeps onwards.formed awaitedStill placed ?_ nobodyStill eventStill loggedIn
    rwa [players]
  · rename_i found isFound
    split
    · have closed := Onwards.disconnect onwards.formed client
      exact ⟨closed.formed, closed.awaited awaitedStill⟩
    · split
      · refine ⟨onwards.formed.connect nobodyStill loggedIn, ?_⟩
        rw [awaited_connect_iff onwards.formed awaitedStill]
        · rw [eventStill]
          exact fun _ => nofun
        · rw [eventStill]
          exact fun _ => nofun
      · rename_i old _
        refine postponed_keeps onwards.formed awaitedStill ?_ old nobodyStill eventStill loggedIn
        cases allowClones with
        | true => cases isFound
        | false => exact isFound

end Logins

/-! ## Runs -/

namespace Game

variable (game : Game Client Id)

omit [DecidableEq Client] in
theorem stage_removeCreature (id : Id) :
    ((game.removeCreature id).players id).stage = .removed := by
  unfold removeCreature
  by_cases removed : (game.players id).stage = .removed
  · rw [if_pos removed]
    exact removed
  · rw [if_neg removed]
    rw [player_modifyPlayer_self]

end Game

variable {game : Game Client Id}

theorem Formed.stage_kickPlayer (formed : Formed game) (id : Id) :
    ((game.kickPlayer id).players id).stage = .removed := by
  unfold Game.kickPlayer
  cases known : (game.players id).client with
  | none => exact game.stage_removeCreature id
  | some client =>
    dsimp only
    unfold Game.logout
    rw [formed.linked.mpr known]
    dsimp only
    rw [if_neg (fun refused => absurd refused.2 Bool.false_ne_true)]
    exact Game.stage_removeCreature _ id

theorem Invariant.sound (invariant : Invariant game) : Sound game where
  oneClient := by
    intro id first second isFirst isSecond
    have same := (invariant.linked.mp isFirst).symm.trans (invariant.linked.mp isSecond)
    exact Option.some.inj same
  pointsBack := invariant.linked.mpr
  oneReference := by
    intro id client isPlayer
    rw [invariant.counted, invariant.linked.mp isPlayer, if_neg nofun]
  noReference := by
    intro id nobody
    rw [invariant.counted, if_pos]
    refine Option.eq_none_iff_forall_ne_some.mpr fun client isClient => ?_
    exact nobody client (invariant.linked.mpr isClient)
  connecting := fun {id} => invariant.awaited id
  loggedOut := by
    intro id silence inGame none permits
    have waits : (game.players id).isConnecting = false := by
      by_contra connecting
      obtain ⟨client, pending⟩ :=
        invariant.awaited id (.inl inGame) (eq_true_of_ne_false connecting)
      exact none client pending
    have can : game.canLogout id silence = true := by
      unfold Game.canLogout
      rw [waits, permits.place]
      obtain zone | ⟨unlocked, calm⟩ := permits.peace
      · rw [zone]
        rfl
      · rw [unlocked, calm]
        cases silence.protectionZone <;> rfl
    unfold Game.sendPing
    rw [if_pos ⟨permits.long, can⟩, if_pos permits.allowed]
    exact invariant.toFormed.stage_kickPlayer id

theorem step_cases (invariant : Invariant game) (op : GameOp Client Id)
    (legal : (reconnects Client Id).legal game op) :
    Formed ((reconnects Client Id).step game op) ∧
      (Awaited ((reconnects Client Id).step game op) ↔ HandedOver game op) := by
  obtain ⟨formed, awaited⟩ := invariant
  have quiet {after : Game Client Id} (onwards : Onwards game after) :
      Formed after ∧ (Awaited after ↔ True) :=
    ⟨onwards.formed, iff_of_true (onwards.awaited awaited) trivial⟩
  cases op with
  | login client new allowClones replaceKickOnLogin placed =>
    obtain ⟨formedAfter, awaitedAfter⟩ := login_keeps formed awaited allowClones
      replaceKickOnLogin placed legal.1 legal.2
    exact ⟨formedAfter, iff_of_true awaitedAfter trivial⟩
  | connect client =>
    have pending : (game.protocols client).eventConnect ≠ none := legal
    obtain ⟨id, event⟩ := Option.ne_none_iff_exists'.mp pending
    have same : (reconnects Client Id).step game (.connect client) = game.connect client id := by
      unfold reconnects
      simp only [event]
    have only : ∀ other ∈ (game.protocols client).eventConnect, other = id := by
      intro other isOther
      exact Option.some.inj (isOther.symm.trans event)
    have loggedIn : (game.protocols client).loggedIn = true := by
      by_contra silent
      exact pending (formed.quiet (eq_false_of_ne_true silent)).2
    rw [same]
    exact ⟨formed.connect (formed.waiting event) loggedIn,
      awaited_connect_iff formed awaited only⟩
  | close client => exact quiet (.close formed client)
  | expire client =>
    have onwards : Onwards game (game.modifyProtocol client fun protocol =>
        { protocol with expired := true }) := .protocol formed rfl rfl fun silent => silent
    exact quiet onwards
  | release client => exact quiet (.release formed client)
  | logout client refused => exact quiet (.logout formed client refused)
  | kickPlayer id => exact quiet (.kickPlayer formed id)
  | removeCreature id => exact quiet (.removeCreature formed id)
  | sendPing id silence => exact quiet (.sendPing formed id silence)

/-- **A player has one client, which holds it once, and connects only while a client is about to
take it over**, exactly where each connect that fires takes the player over, or leaves it to the
event of another client. -/
theorem reconnects_sound_iff {ops : List (GameOp Client Id)}
    (legal : (reconnects Client Id).Legal {} ops) :
    (reconnects Client Id).Throughout (fun _ _ after => Sound after) {} ops ↔
      (reconnects Client Id).Throughout (fun before op _ => HandedOver before op) {} ops := by
  have initial : Invariant ({} : Game Client Id) := by
    refine ⟨⟨iff_of_false nofun nofun, fun _ => rfl, fun _ => ⟨rfl, rfl⟩, nofun, nofun,
      fun _ => ⟨rfl, rfl⟩⟩, fun _ _ => nofun⟩
  refine System.Throughout.iff_of_invariant (fun before op invariant isLegal => ?_) initial legal
  obtain ⟨formed, awaitedIff⟩ := step_cases invariant op isLegal
  refine ⟨⟨fun sound => awaitedIff.mp fun _ => sound.connecting, fun handedOver => ?_⟩,
    fun sound => ⟨formed, fun _ => sound.connecting⟩⟩
  exact Invariant.sound ⟨formed, awaitedIff.mpr handedOver⟩

/-- A third client takes over from the second one, which waits to take over from the first. -/
def handedOver : List (GameOp (Fin 3) (Fin 3)) :=
  [.login 0 0 false true true, .login 1 1 false true true, .release 0, .login 2 1 false true true,
    .connect 1, .release 1, .logout 2 true, .kickPlayer 0, .release 2]

theorem reconnects_sound_iff_handedOver :
    (reconnects (Fin 3) (Fin 3)).Throughout (fun _ _ after => Sound after) {} handedOver ↔
      (reconnects (Fin 3) (Fin 3)).Throughout (fun before op _ => HandedOver before op) {}
        handedOver := by
  refine reconnects_sound_iff ⟨⟨rfl, rfl⟩, ⟨rfl, rfl⟩, ⟨rfl, rfl⟩, ⟨rfl, rfl⟩, ?_, ⟨rfl, rfl⟩, ?_,
    rfl, ⟨rfl, rfl⟩, trivial⟩
  · exact Option.some_ne_none (0 : Fin 3)
  · rintro _ ⟨⟩
    exact nofun

/-- The second client vanishes before it takes over, and the player waits for it for ever. -/
theorem connecting_forever :
    ∃ ops, (reconnects (Fin 2) (Fin 2)).Legal {} ops ∧
      ¬(reconnects (Fin 2) (Fin 2)).Throughout (fun _ _ after => Sound after) {} ops := by
  refine ⟨[.login 0 0 false true true, .login 1 1 false true true, .release 0, .close 1,
    .release 1, .expire 1, .connect 1], ?_, ?_⟩
  · exact ⟨⟨rfl, rfl⟩, ⟨rfl, rfl⟩, ⟨rfl, rfl⟩, trivial, ⟨rfl, rfl⟩, rfl,
      Option.some_ne_none (0 : Fin 2), trivial⟩
  · rintro ⟨-, -, -, -, -, -, last, -⟩
    obtain ⟨client, pending⟩ := @Sound.connecting _ _ _ _ _ last 0 (.inl rfl) rfl
    match client with
    | 0 => cases pending
    | 1 => cases pending

end Otserv.Reconnects
