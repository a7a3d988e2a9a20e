import Otserv.Decay.DecayQueues

/-!
# The accounts of the queues

What the queues, the references and the marks say of one item agrees (`Entry`): it is
queued at most once, each of its references is the one of `CreateItem`, one for its
occurrence in the queues or one that waits on `ToReleaseItems`, and it is queued while
it is marked as decaying. A world is consistent when this holds of every item
(`Consistent`).

While `checkDecay` has an item in hand that it took from a bucket, that item may be
marked without being queued and has one more reference, and an item given up in the
same pass may still be marked: it goes with its last reference. `exempt`, `carried` and
`doomed` say which of these a world is allowed.

A change of one item needs to be looked at for that item only (`Consistent.update`).
-/

namespace Otserv.Decay

open Otserv.Foundation Otserv.Items
open Function (update_of_ne update_self)

/-! ## One item -/

/-- Whose references an item has. -/
structure Entry (doomed : Bool) (exempt : Prop) (carried : Nat) (held : Option Held)
    (occurrences releases : Nat) : Prop where
  once : occurrences ≤ 1
  counted : held.elim 0 Held.references =
    held.elim 0 (fun held => held.owned.toNat) + occurrences + releases + carried
  alive : ∀ known ∈ held, 0 < known.references
  parented : ∀ known ∈ held, known.parented → known.owned
  marked : ∀ known ∈ held, known.item.Marked →
    0 < occurrences ∨ (doomed ∧ known.owned = false) ∨ exempt

/-- The accounts of every item agree. -/
structure Consistent (doomed : Bool) (exempt carried : Option Nat) (world : World) : Prop where
  entry : ∀ id, Entry doomed (exempt = some id) (if carried = some id then 1 else 0)
    (world.held id) (world.occurrences id) (world.toReleaseItems.count id)
  fresh : ∀ id, world.next ≤ id → world.held id = none

namespace Entry

variable {doomed : Bool} {exempt : Prop} {carried occurrences releases : Nat} {held : Held}

/-- The accounts of an item that exists. -/
theorem some_iff : Entry doomed exempt carried (some held) occurrences releases ↔
    occurrences ≤ 1 ∧
      held.references = held.owned.toNat + occurrences + releases + carried ∧
      0 < held.references ∧ (held.parented → held.owned) ∧
      (held.item.Marked → 0 < occurrences ∨ (doomed ∧ held.owned = false) ∨ exempt) := by
  constructor
  · intro entry
    exact ⟨entry.once, entry.counted, entry.alive held rfl, entry.parented held rfl,
      entry.marked held rfl⟩
  · rintro ⟨once, counted, alive, parented, marked⟩
    exact ⟨once, counted, by simpa using alive, by simpa using parented, by simpa using marked⟩

/-- Nothing is known of an address without an item. -/
theorem none_iff : Entry doomed exempt carried none occurrences releases ↔
    occurrences = 0 ∧ releases = 0 ∧ carried = 0 := by
  constructor
  · intro entry
    have counted := entry.counted
    simp only [Option.elim_none] at counted
    omega
  · rintro ⟨rfl, rfl, rfl⟩
    exact ⟨by omega, rfl, by simp, by simp, by simp⟩

end Entry

/-! ## What a change leaves -/

/-- The world after touches the item and those made since, and no other: others may only
have been queued or released where `requeued` says so. -/
structure Touches (id : Nat) (requeues : Bool) (before after : World) : Prop where
  next : before.next ≤ after.next
  held : ∀ other, other < before.next → other ≠ id → after.held other = before.held other
  occurrences : ∀ other, other < before.next → (other = id → requeues = false) →
    after.occurrences other = before.occurrences other
  decayItems : after.decayItems = before.decayItems
  lastBucket : after.lastBucket = before.lastBucket

namespace Touches

variable {id : Nat} {requeues : Bool} {before between after : World} (world : World)

theorem refl : Touches id requeues world world where
  next := Nat.le_refl _
  held := fun _ _ _ => rfl
  occurrences := fun _ _ _ => rfl
  decayItems := rfl
  lastBucket := rfl

theorem trans_of {new : Nat} {again : Bool} (first : Touches id requeues before between)
    (others : ∀ other < before.next, other ≠ id → other ≠ new)
    (quiet : ∀ other < before.next, (other = id → requeues = false) → other = new → again = false)
    (second : Touches new again between after) : Touches id requeues before after where
  next := Nat.le_trans first.next second.next
  held := fun other old apart =>
    (second.held other (Nat.lt_of_lt_of_le old first.next) (others other old apart)).trans
      (first.held other old apart)
  occurrences := fun other old apart =>
    (second.occurrences other (Nat.lt_of_lt_of_le old first.next) (quiet other old apart)).trans
      (first.occurrences other old apart)
  decayItems := second.decayItems.trans first.decayItems
  lastBucket := second.lastBucket.trans first.lastBucket

theorem trans (first : Touches id requeues before between)
    (second : Touches id requeues between after) : Touches id requeues before after :=
  first.trans_of (fun _ _ apart => apart) (fun _ _ apart => apart) second

/-- What does not queue the item again may. -/
theorem weaken (touches : Touches id false before after) : Touches id requeues before after where
  next := touches.next
  held := touches.held
  occurrences := fun other old _ => touches.occurrences other old fun _ => rfl
  decayItems := touches.decayItems
  lastBucket := touches.lastBucket

theorem trans_new {new : Nat} (first : Touches id requeues before between)
    (isNew : before.next ≤ new) (second : Touches new true between after) :
    Touches id requeues before after :=
  first.trans_of (fun _ old _ => by omega) (fun _ old _ same => by omega) second

theorem modify (world : World) (id : Nat) (f : Held → Held) :
    Touches id requeues world (world.modify id f) where
  next := Nat.le_refl _
  held := fun _ _ apart => update_of_ne apart _ _
  occurrences := fun _ _ _ => rfl
  decayItems := rfl
  lastBucket := rfl

theorem releaseItem (released : Nat) :
    Touches id requeues world (world.releaseItem released) where
  next := Nat.le_refl _
  held := fun _ _ _ => rfl
  occurrences := fun _ _ _ => rfl
  decayItems := rfl
  lastBucket := rfl

theorem disown (world : World) : Touches id requeues world (world.disown id) :=
  (modify world id _).trans (releaseItem _ id)

theorem allocate (item : Item) (parented : Bool) :
    Touches id requeues world (world.allocate item parented) where
  next := Nat.le_succ _
  held := fun _ old _ => update_of_ne (Nat.ne_of_lt old) _ _
  occurrences := fun _ _ _ => rfl
  decayItems := rfl
  lastBucket := rfl

end Touches

namespace World

variable (world : World) (id other : Nat)

theorem occurrences_pushToDecay :
    (world.pushToDecay id).occurrences other =
      world.occurrences other + if other = id then 1 else 0 :=
  world.queues.count_push id other

theorem occurrences_setBucket (bucket : Fin 4) (entries : List Nat) (id : Nat) :
    (world.setBucket bucket entries).occurrences id + (world.decayItems bucket).count id =
      world.occurrences id + entries.count id :=
  world.queues.count_setBucket bucket entries id

@[simp] theorem modify_held (id : Nat) (f : Held → Held) :
    (world.modify id f).held id = (world.held id).map f :=
  update_self id _ world.held

theorem modify_held_of_ne {id other : Nat} (f : Held → Held) (apart : other ≠ id) :
    (world.modify id f).held other = world.held other :=
  update_of_ne apart _ _

@[simp] theorem modify_occurrences (id : Nat) (f : Held → Held) (other : Nat) :
    (world.modify id f).occurrences other = world.occurrences other := rfl

@[simp] theorem setBucket_held (bucket : Fin 4) (entries : List Nat) :
    (world.setBucket bucket entries).held = world.held := rfl

@[simp] theorem releaseItem_occurrences :
    (world.releaseItem id).occurrences other = world.occurrences other := rfl

theorem releaseItem_count :
    (world.releaseItem id).toReleaseItems.count other =
      world.toReleaseItems.count other + if other = id then 1 else 0 := by
  rw [releaseItem, List.count_append, List.count_singleton]
  by_cases same : other = id
  · simp [same]
  · simp [same, Ne.symm same]

end World

theorem Touches.pushToDecay (world : World) (id : Nat) :
    Touches id true world (world.pushToDecay id) where
  next := Nat.le_refl _
  held := fun _ _ apart => update_of_ne apart _ _
  occurrences := by
    intro other _ apart
    have other_ne : other ≠ id := fun same => by simpa using apart same
    rw [world.occurrences_pushToDecay, if_neg other_ne, Nat.add_zero]
  decayItems := rfl
  lastBucket := rfl

/-! ## The changes keep the accounts -/

namespace Consistent

variable {doomed : Bool} {exempt carried : Option Nat} {world after : World} {id : Nat}

/-- **One item at a time.** A change of one item, which makes no other, is to be looked
at for that item only. -/
theorem update {exempt' carried' : Option Nat} (consistent : Consistent doomed exempt carried world)
    (next : after.next = world.next) (old : id < world.next)
    (held : ∀ other, other ≠ id → after.held other = world.held other)
    (occurrences : ∀ other, other ≠ id → after.occurrences other = world.occurrences other)
    (releases : ∀ other, other ≠ id →
      after.toReleaseItems.count other = world.toReleaseItems.count other)
    (exempted : ∀ other, other ≠ id → (exempt' = some other ↔ exempt = some other))
    (carries : ∀ other, other ≠ id → (carried' = some other ↔ carried = some other))
    (entry : Entry doomed (exempt' = some id) (if carried' = some id then 1 else 0)
      (after.held id) (after.occurrences id) (after.toReleaseItems.count id)) :
    Consistent doomed exempt' carried' after where
  entry := by
    intro other
    by_cases same : other = id
    · exact same ▸ entry
    · rw [held other same, occurrences other same, releases other same]
      simp only [exempted other same, carries other same]
      exact consistent.entry other
  fresh := by
    intro other new
    rw [next] at new
    rw [held other (by omega)]
    exact consistent.fresh other new

section

variable (consistent : Consistent doomed exempt carried world)
include consistent

variable {held : Held}

/-- An item that exists has been made. -/
theorem lt_next (known : world.held id = some held) : id < world.next := by
  by_contra new
  rw [consistent.fresh id (by omega)] at known
  contradiction

theorem known (known : world.held id = some held) :
    Entry doomed (exempt = some id) (if carried = some id then 1 else 0) (some held)
      (world.occurrences id) (world.toReleaseItems.count id) :=
  known ▸ consistent.entry id

theorem modify {f : Held → Held}
    (references : ∀ held ∈ world.held id, (f held).references = held.references)
    (owned : ∀ held ∈ world.held id, (f held).owned = held.owned)
    (parented : ∀ held ∈ world.held id, (f held).parented → held.owned)
    (marked : ∀ held ∈ world.held id, (f held).item.Marked → held.item.Marked) :
    Consistent doomed exempt carried (world.modify id f) := by
  cases held : world.held id with
  | none =>
    have same : world.modify id f = world := by
      rw [World.modify, held, Option.map_none, ← held, Function.update_eq_self]
    rwa [same]
  | some known =>
    refine consistent.update rfl (consistent.lt_next held)
      (fun _ => world.modify_held_of_ne f) (fun _ _ => rfl) (fun _ _ => rfl)
      (fun _ _ => .rfl) (fun _ _ => .rfl) ?_
    obtain ⟨once, counted, alive, _, marks⟩ := Entry.some_iff.mp (consistent.known held)
    rw [world.modify_held, held, Option.map_some, world.modify_occurrences]
    refine Entry.some_iff.mpr ⟨once, ?_, ?_, ?_, ?_⟩
    · rw [references known held, owned known held]
      exact counted
    · rw [references known held]
      exact alive
    · rw [owned known held]
      exact parented known held
    · rw [owned known held]
      exact fun mark => marks (marked known held mark)

theorem modifyItem {f : Item → Item} (marked : ∀ item : Item, (f item).Marked → item.Marked) :
    Consistent doomed exempt carried (world.modifyItem id f) :=
  consistent.modify (fun _ _ => rfl) (fun _ _ => rfl)
    (fun _ held parented => (consistent.known held).parented _ rfl parented)
    (fun held _ => marked held.item)

theorem unparent : Consistent doomed exempt carried (world.setParent id false) :=
  consistent.modify (fun _ _ => rfl) (fun _ _ => rfl) (fun _ _ parented => by simp at parented)
    (fun _ _ mark => mark)

/-- An item whose reference was not released may get a parent. -/
theorem setParent (parented : Bool) (owned : ∀ held ∈ world.held id, held.owned) :
    Consistent doomed exempt carried (world.setParent id parented) :=
  consistent.modify (fun _ _ => rfl) (fun _ _ => rfl) (fun held known _ => owned held known)
    (fun _ _ mark => mark)

/-- The reference of `CreateItem` is given up, of an item without a parent. -/
theorem disown
    (known : world.held id = some held) (owned : held.owned) (orphan : held.parented = false) :
    Consistent doomed exempt carried (world.disown id) := by
  refine consistent.update rfl (consistent.lt_next known)
    (fun _ => world.modify_held_of_ne _) (fun _ _ => rfl) (fun other apart => ?_)
    (fun _ _ => .rfl) (fun _ _ => .rfl) ?_
  · rw [World.disown, World.releaseItem_count, if_neg apart, Nat.add_zero]
    rfl
  · obtain ⟨once, counted, alive, _, marks⟩ := Entry.some_iff.mp (consistent.known known)
    rw [World.disown, World.releaseItem_count, if_pos rfl, World.releaseItem_occurrences,
      World.modify_occurrences]
    have now : ((world.modify id fun held => { held with owned := false }).releaseItem id).held id =
        some { held with owned := false } := by
      rw [World.releaseItem, World.modify_held, known, Option.map_some]
    rw [now]
    refine Entry.some_iff.mpr ⟨once, ?_, alive, ?_, ?_⟩
    · simp only [owned, Bool.toNat_true, Bool.toNat_false] at counted ⊢
      change _ = _ + _ + (world.toReleaseItems.count id + 1) + _
      omega
    · simp [orphan]
    · intro mark
      rcases marks mark with queued | ⟨_, notOwned⟩ | exempted
      · exact .inl queued
      · simp [owned] at notOwned
      · exact .inr (.inr exempted)

/-- An item that is not queued is. -/
theorem pushToDecay (known : world.held id = some held) (unqueued : world.occurrences id = 0) :
    Consistent doomed exempt carried (world.pushToDecay id) := by
  refine consistent.update rfl (consistent.lt_next known)
    (fun _ apart => update_of_ne apart _ _) (fun other apart => ?_) (fun _ _ => rfl)
    (fun _ _ => .rfl) (fun _ _ => .rfl) ?_
  · rw [world.occurrences_pushToDecay, if_neg apart, Nat.add_zero]
  · obtain ⟨_, counted, _, parented, _⟩ := Entry.some_iff.mp (consistent.known known)
    rw [world.occurrences_pushToDecay, if_pos rfl, unqueued]
    have now : (world.pushToDecay id).held id = some { held with
        references := held.references + 1, item := held.item.setDecaying .decaying } := by
      rw [World.pushToDecay, World.modify_held, known, Option.map_some]
    rw [now]
    refine Entry.some_iff.mpr ⟨Nat.le_refl _, ?_, Nat.succ_pos _, parented, fun _ => .inl ?_⟩
    · change held.references + 1 = held.owned.toNat + (0 + 1) + world.toReleaseItems.count id + _
      omega
    · exact Nat.one_pos

theorem allocate {item : Item} (unmarked : ¬ item.Marked) (parented : Bool) :
    Consistent doomed exempt carried (world.allocate item parented) where
  entry := by
    intro other
    by_cases same : other = world.next
    · subst same
      have empty := consistent.entry world.next
      rw [consistent.fresh _ (Nat.le_refl _)] at empty
      obtain ⟨unqueued, unreleased, uncarried⟩ := Entry.none_iff.mp empty
      have now : (world.allocate item parented).held world.next = some
          { item := item, parented := parented, references := 1, owned := true } :=
        update_self _ _ _
      rw [now, uncarried]
      change Entry _ _ _ _ (world.occurrences world.next) (world.toReleaseItems.count world.next)
      rw [unqueued, unreleased]
      exact Entry.some_iff.mpr ⟨Nat.zero_le _, rfl, Nat.one_pos, fun _ => rfl,
        fun mark => absurd mark unmarked⟩
    · have kept : (world.allocate item parented).held other = world.held other :=
        update_of_ne same _ _
      rw [kept]
      exact consistent.entry other
  fresh := by
    intro other new
    have past : world.next + 1 ≤ other := new
    have kept : (world.allocate item parented).held other = world.held other :=
      update_of_ne (by omega) _ _
    rw [kept]
    exact consistent.fresh other (by omega)

end

theorem allocated (world : World) (item : Item) (parented : Bool) :
    (world.allocate item parented).held world.next =
      some { item := item, parented := parented, references := 1, owned := true } :=
  update_self _ _ _

/-- An address without an item is not queued. -/
theorem unqueued_of_fresh (consistent : Consistent doomed exempt carried world)
    (new : world.next ≤ id) : world.occurrences id = 0 := by
  have empty := consistent.entry id
  rw [consistent.fresh id new] at empty
  exact (Entry.none_iff.mp empty).1

/-- A new item that is queued at once, marked or not. -/
theorem allocate_pushToDecay (consistent : Consistent doomed exempt carried world) (item : Item)
    (parented : Bool) :
    Consistent doomed exempt carried
      ((world.allocate item parented).pushToDecay world.next) := by
  -- the mark that pushing sets is the only one left of the item
  have same : (world.allocate item parented).pushToDecay world.next =
      (world.allocate (item.setDecaying .notDecaying) parented).pushToDecay world.next := by
    simp [World.pushToDecay, World.modify, World.allocate, Item.setDecaying, Item.setIntAttr]
  have unmarked : ¬ (item.setDecaying .notDecaying).Marked := by
    rw [Item.marked_setDecaying]
    decide
  rw [same]
  exact (consistent.allocate unmarked parented).pushToDecay (allocated _ _ _)
    (consistent.unqueued_of_fresh (Nat.le_refl _))

end Consistent

end Otserv.Decay
