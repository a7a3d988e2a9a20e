import Otserv.Decay.Transforming

/-!
# Cloning and adding

`Item::clone` queues a clone that has a duration, and `Game::internalAddItem` queues
the item it added when that has a duration. Neither asks whether it is queued already,
so the accounts are kept where the item is not (`clone_keeps`, `internalAddItem_keeps`).
-/

namespace Otserv.Decay

open Otserv.Foundation Otserv.Items

variable {doomed : Bool} {exempt carried : Option Nat} {game : Game} {world : World} {id : Nat}

/-! ## Clones -/

/-- A clone that is marked is one that is queued. -/
def Clonable (game : Game) (bare : Bool) (item : Item) : Prop :=
  ∀ copy, item.copied game bare = some copy → copy.Marked → copy.getDuration > 0

/-- The copies of copies of an item, with other counts. -/
inductive Copies (game : Game) : Item → Item → Prop where
  | refl (item : Item) : Copies game item item
  | step {item between copy : Item} (copies : Copies game item between) (bare : Bool) (n : UInt16)
      (copied : between.copied game bare = some copy) : Copies game item (copy.setItemCount n)

/-- Neither the item nor any copy of it lasts a time or is marked. -/
def Timeless (game : Game) (item : Item) : Prop :=
  ∀ copy, Copies game item copy → copy.getDuration = 0 ∧ ¬ copy.Marked

theorem Copies.trans {first between last : Item} (copies : Copies game first between)
    (further : Copies game between last) : Copies game first last := by
  induction further with
  | refl => exact copies
  | step _ bare n copied ih => exact ih.step bare n copied

variable {held : Held} {bare : Bool} {after : World}

theorem Timeless.copy {item copy : Item} (timeless : Timeless game item)
    (copied : item.copied game bare = some copy) (n : UInt16) :
    Timeless game (copy.setItemCount n) :=
  fun further copies => timeless further (((Copies.refl item).step bare n copied).trans copies)

theorem Timeless.of_copied {item copy : Item} (timeless : Timeless game item)
    (copied : item.copied game bare = some copy) : copy.getDuration = 0 ∧ ¬ copy.Marked :=
  timeless.copy copied copy.count copy (.refl copy)

theorem Timeless.clonable {item : Item} (timeless : Timeless game item) (bare : Bool) :
    Clonable game bare item :=
  fun _ copied marked => absurd marked (timeless.of_copied copied).2

theorem clone_some (known : world.held id = some held)
    {new : Nat} (cloned : world.clone game bare id = (after, some new)) :
    new = world.next ∧ ∃ copy, held.item.copied game bare = some copy ∧
      (after = (world.allocate copy false).pushToDecay world.next ∧ copy.getDuration > 0 ∨
        after = world.allocate copy false ∧
          (held.item.attributeless ∧ bare ∨ ¬ copy.getDuration > 0)) := by
  rw [World.clone, known] at cloned
  simp only [Option.bind_some] at cloned
  cases copied : held.item.copied game bare with
  | none => simp [copied] at cloned
  | some copy =>
    simp only [copied, Option.any_some] at cloned
    split_ifs at cloned with queued
    · cases cloned
      exact ⟨rfl, copy, rfl, .inl ⟨rfl, queued.2⟩⟩
    · cases cloned
      refine ⟨rfl, copy, rfl, .inr ⟨rfl, ?_⟩⟩
      by_cases lasts : copy.getDuration > 0
      · by_contra listed
        cases held.item.attributeless <;> cases bare <;> simp_all
      · exact .inr lasts

theorem clone_none (cloned : world.clone game bare id = (after, none)) : after = world := by
  rw [World.clone] at cloned
  cases copied : (world.held id).bind fun held => held.item.copied game bare with
  | none =>
    rw [copied] at cloned
    exact (congrArg Prod.fst cloned).symm
  | some copy =>
    rw [copied] at cloned
    simp only at cloned
    split_ifs at cloned <;> cases cloned

theorem not_marked_of_unqueued {item copy : Item} (clonable : Clonable game bare item)
    (copied : item.copied game bare = some copy)
    (unqueued : item.attributeless ∧ bare ∨ ¬ copy.getDuration > 0) : ¬ copy.Marked := by
  rcases unqueued with ⟨listless, noList⟩ | brief
  · obtain ⟨created, isCreated, same⟩ := Option.map_eq_some_iff.mp copied
    rw [listless, noList] at same
    cases same
    exact Item.not_marked_createItem isCreated
  · exact fun marked => brief (clonable copy copied marked)

/-- **A clone keeps the accounts** unless it is marked without being queued. -/
theorem clone_keeps (consistent : Consistent doomed exempt carried world)
    (known : world.held id = some held) (clonable : Clonable game bare held.item) :
    Keeps doomed exempt carried id false world (world.clone game bare id).1 := by
  rcases cloned : world.clone game bare id with ⟨after, new⟩
  cases new with
  | none =>
    rw [clone_none cloned]
    exact .refl consistent
  | some new =>
    obtain ⟨_, copy, copied, ⟨rfl, _⟩ | ⟨rfl, unqueued⟩⟩ := clone_some known cloned
    · exact ⟨consistent.allocate_pushToDecay copy false,
        (Touches.allocate world copy false).trans_new (Nat.le_refl _) (.pushToDecay _ _)⟩
    · exact ⟨consistent.allocate (not_marked_of_unqueued clonable copied unqueued) false,
        .allocate world copy false⟩

/-! ## Adding -/

/-- A part of the item goes on a stack and another part is added as a clone. -/
def Splits (game : Game) (world : World) (item : Item) (addition : Addition) : Prop :=
  ∃ stack ∈ World.mergesWith game world item addition.toItem,
    0 < World.leftOver item stack.2 addition.maxQueryCount ∧
      item.count.toNat ≠ World.leftOver item stack.2 addition.maxQueryCount

/-- An item may be added that is not queued or has no duration; and what is left over
of it may be cloned if it is timeless, or is refused. -/
def Addable (game : Game) (depth : Nat) (additions : Nat → Addition) (world : World) (id : Nat) :
    Prop :=
  0 < depth → (additions 0).refused = false → ∀ held ∈ world.held id,
    (world.occurrences id = 0 ∨ held.item.getDuration = 0) ∧
      (Splits game world held.item (additions 0) → Timeless game held.item ∨
        Clonable game (additions 0).bare held.item ∧ (depth = 1 ∨ (additions 1).refused))

/-- The item is not in place, and has the reference of `CreateItem`. -/
def Loose (world : World) (id : Nat) : Prop :=
  ∀ held ∈ world.held id, held.owned ∧ held.parented = false

/-- Of the items that are not in place, no other than the one given changes or is
queued. -/
structure Aside (touched : Option Nat) (before after : World) : Prop where
  next : before.next ≤ after.next
  still : ∀ other, other < before.next → touched ≠ some other →
    (∀ held ∈ before.held other, held.parented = false) →
      after.held other = before.held other ∧ after.occurrences other = before.occurrences other

namespace Aside

variable {touched : Option Nat} {before between after : World}

theorem refl (world : World) : Aside touched world world :=
  ⟨Nat.le_refl _, fun _ _ _ _ => ⟨rfl, rfl⟩⟩

theorem trans (first : Aside touched before between) (second : Aside touched between after) :
    Aside touched before after where
  next := Nat.le_trans first.next second.next
  still := by
    intro other old apart loose
    obtain ⟨sameHeld, sameQueue⟩ := first.still other old apart loose
    obtain ⟨sameHeld', sameQueue'⟩ := second.still other (Nat.lt_of_lt_of_le old first.next) apart
      (by rwa [sameHeld])
    exact ⟨sameHeld'.trans sameHeld, sameQueue'.trans sameQueue⟩

/-- What changes an item made since changes none there was before. -/
theorem trans_new {new : Nat} (first : Aside touched before between) (isNew : before.next ≤ new)
    (second : Aside (some new) between after) : Aside touched before after where
  next := Nat.le_trans first.next second.next
  still := by
    intro other old apart loose
    obtain ⟨sameHeld, sameQueue⟩ := first.still other old apart loose
    have otherThanNew : some new ≠ some other := fun same => by cases same; omega
    obtain ⟨sameHeld', sameQueue'⟩ := second.still other (Nat.lt_of_lt_of_le old first.next)
      otherThanNew (by rwa [sameHeld])
    exact ⟨sameHeld'.trans sameHeld, sameQueue'.trans sameQueue⟩

theorem weaken (aside : Aside none before after) : Aside touched before after where
  next := aside.next
  still := fun other old _ => aside.still other old (by simp)

theorem of_touches {requeues : Bool} (touches : Touches id requeues before after) :
    Aside (some id) before after where
  next := touches.next
  still := by
    intro other old apart _
    have other_ne : other ≠ id := fun same => apart (same ▸ rfl)
    exact ⟨touches.held other old other_ne,
      touches.occurrences other old fun same => absurd same other_ne⟩

/-- An item that is not in place stays as it was. -/
theorem same (aside : Aside none before after) {held : Held} (known : before.held id = some held)
    (old : id < before.next) (orphan : held.parented = false) :
    after.held id = before.held id ∧ after.occurrences id = before.occurrences id := by
  refine aside.still id old (by simp) fun found isFound => ?_
  rw [known] at isFound
  cases isFound
  exact orphan

/-- An item that is in place may change. -/
theorem of_parented {requeues : Bool} {held : Held} (known : before.held id = some held)
    (parented : held.parented) (touches : Touches id requeues before after) :
    Aside none before after where
  next := touches.next
  still := by
    intro other old _ loose
    refine (of_touches touches).still other old ?_ loose
    rintro same
    cases same
    simp [loose held known] at parented

end Aside

/-- What putting an item in place leaves: the item is as it was, and queued as it was. -/
structure Settles (doomed : Bool) (exempt carried : Option Nat) (id : Nat) (held : Held)
    (before after : World) : Prop where
  consistent : Consistent doomed exempt carried after
  aside : Aside (some id) before after
  item : ∃ now, after.held id = some now ∧ now.item = held.item
  queued : after.occurrences id = before.occurrences id

theorem addThing_settles (consistent : Consistent doomed exempt carried world)
    (known : world.held id = some held) (owned : held.owned) (added : Added) :
    Settles doomed exempt carried id held world (world.addThing added id) := by
  have keeps := addThing_keeps consistent known owned added
  obtain ⟨after, found, sameItem, _⟩ := addThing_held known added
  exact ⟨keeps.consistent, .of_touches keeps.touches, ⟨after, found, sameItem⟩,
    keeps.touches.occurrences id (consistent.lt_next known) fun _ => rfl⟩

/-- An item that merges with a stack is given up. -/
theorem disown_settles (consistent : Consistent doomed exempt carried world)
    (known : world.held id = some held) (owned : held.owned) (orphan : held.parented = false) :
    Settles doomed exempt carried id held world (world.disown id) := by
  refine ⟨consistent.disown known owned orphan, .of_touches (.disown world : Touches id false _ _),
    ?_, rfl⟩
  rw [World.disown, World.releaseItem, World.modify_held, known, Option.map_some]
  exact ⟨_, rfl, rfl⟩

namespace Settles

variable {held : Held} {before after : World}

/-- What leaves an item that is not in place alone leaves it as it was. -/
theorem of_aside (consistent : Consistent doomed exempt carried after)
    (known : before.held id = some held) (old : id < before.next) (orphan : held.parented = false)
    (aside : Aside none before after) : Settles doomed exempt carried id held before after := by
  obtain ⟨sameHeld, sameQueue⟩ := aside.same known old orphan
  exact ⟨consistent, aside.weaken, ⟨held, sameHeld.trans known, rfl⟩, sameQueue⟩

/-- What is done after a change that leaves the item alone. -/
theorem after_aside {changed : World} (consistent : Consistent doomed exempt carried before)
    (known : before.held id = some held) (orphan : held.parented = false)
    (aside : Aside none before changed)
    (settles : changed.held id = some held →
      Settles doomed exempt carried id held changed after) :
    Settles doomed exempt carried id held before after := by
  obtain ⟨sameHeld, sameQueue⟩ := aside.same known (consistent.lt_next known) orphan
  have last := settles (sameHeld.trans known)
  exact ⟨last.consistent, aside.weaken.trans last.aside, last.item, last.queued.trans sameQueue⟩

end Settles

theorem mergesWith_some {item stack : Item} {toItem : Option Nat} {other : Nat}
    (merges : World.mergesWith game world item toItem = some (other, stack)) :
    ∃ held, world.held other = some held ∧ held.parented := by
  obtain ⟨found, _, merges⟩ := Option.bind_eq_some_iff.mp merges
  obtain ⟨held, known, merges⟩ := Option.bind_eq_some_iff.mp merges
  split_ifs at merges with fits
  cases merges
  exact ⟨held, known, fits.1⟩

theorem clone_remainder (consistent : Consistent doomed exempt carried world)
    (known : world.held id = some held) (clonable : Clonable game bare held.item)
    {new : Nat} (cloned : world.clone game bare id = (after, some new)) (n : UInt16) :
    world.next ≤ new ∧
      Consistent doomed exempt carried (after.modifyItem new (·.setItemCount n)) ∧
      Aside none world (after.modifyItem new (·.setItemCount n)) ∧
      ∃ now, (after.modifyItem new (·.setItemCount n)).held new = some now ∧
        (now.owned ∧ now.parented = false) ∧
        (Timeless game held.item → Timeless game now.item) := by
  have kept := (clone_keeps consistent known clonable).consistent
  rw [cloned] at kept
  obtain ⟨rfl, copy, copied, made⟩ := clone_some known cloned
  -- the clone is at the next address, and nothing else is touched
  obtain ⟨touches, now, atNext, loose, timeless⟩ :
      Touches world.next true world after ∧ ∃ now, after.held world.next = some now ∧
        (now.owned ∧ now.parented = false) ∧
        (Timeless game held.item → now.item = copy) := by
    have made' := Consistent.allocated world copy false
    rcases made with ⟨rfl, lasts⟩ | ⟨rfl, _⟩
    · refine ⟨(Touches.allocate world copy false).trans (.pushToDecay _ _), ?_⟩
      rw [World.pushToDecay, World.modify_held, made', Option.map_some]
      refine ⟨_, rfl, ⟨rfl, rfl⟩, fun timeless => ?_⟩
      simp [(timeless.of_copied copied).1] at lasts
    · exact ⟨.allocate world copy false, _, made', ⟨rfl, rfl⟩, fun _ => rfl⟩
  refine ⟨Nat.le_refl _, kept.modifyItem fun _ => (Item.marked_setItemCount n).mp,
    (Aside.refl world).trans_new (Nat.le_refl _)
      (.of_touches (touches.trans (.modify after _ _))), ?_⟩
  rw [World.modifyItem, World.modify_held, atNext, Option.map_some]
  refine ⟨_, rfl, loose, fun isTimeless => ?_⟩
  have isCopy := timeless isTimeless
  exact isCopy ▸ isTimeless.copy copied n

/-- What an addition leaves, and that one which is refused changes nothing. -/
structure Adds (doomed : Bool) (exempt carried : Option Nat) (id : Nat) (before : World)
    (result : World × Bool) : Prop where
  consistent : Consistent doomed exempt carried result.1
  aside : Aside (some id) before result.1
  refused : result.2 = false → result.1 = before

theorem Settles.adds {before after : World}
    (settles : Settles doomed exempt carried id held before after)
    (addable : before.occurrences id = 0 ∨ held.item.getDuration = 0) :
    Adds doomed exempt carried id before
      (if after.getDuration id > 0 then after.pushToDecay id else after, true) := by
  obtain ⟨now, known, sameItem⟩ := settles.item
  split_ifs with lasts
  · have unqueued : before.occurrences id = 0 := by
      refine addable.resolve_right fun brief => ?_
      simp [World.getDuration, known, sameItem, brief] at lasts
    exact ⟨settles.consistent.pushToDecay known (settles.queued.trans unqueued),
      settles.aside.trans (.of_touches (.pushToDecay after id)), fun failed => by simp at failed⟩
  · exact ⟨settles.consistent, settles.aside, fun failed => by simp at failed⟩

theorem adds_refused (consistent : Consistent doomed exempt carried world) :
    Adds doomed exempt carried id world (world, false) :=
  ⟨consistent, .refl world, fun _ => rfl⟩

theorem remainder_settles (consistent : Consistent doomed exempt carried world)
    (known : world.held id = some held) (orphan : held.parented = false) {depth : Nat}
    {addition : Addition} {further : Nat → Addition} {count : Nat}
    (cloning : Timeless game held.item ∨
      Clonable game addition.bare held.item ∧ (depth = 0 ∨ (further 0).refused))
    (adds : ∀ {world : World} {new : Nat}, Consistent doomed exempt carried world →
      Loose world new → Addable game depth further world new →
        Adds doomed exempt carried new world
          (World.internalAddItem game depth further world new)) :
    Settles doomed exempt carried id held world
      (match World.clone game addition.bare world id with
        | (world, none) => world
        | (world, some remainderItem) =>
          let world := world.modifyItem remainderItem (·.setItemCount (.ofNat count))
          match World.internalAddItem game depth further world remainderItem with
          | (world, true) => world
          | (world, false) => world.disown remainderItem) := by
  have old := consistent.lt_next known
  have clonable : Clonable game addition.bare held.item :=
    cloning.elim (fun timeless => timeless.clonable _) (fun refused => refused.1)
  rcases cloned : World.clone game addition.bare world id with ⟨after, new⟩
  cases new with
  | none =>
    rw [clone_none cloned]
    exact .of_aside consistent known old orphan (.refl world)
  | some new =>
    obtain ⟨isNew, kept, aside, now, found, loose, timeless⟩ :=
      clone_remainder consistent known clonable cloned (.ofNat count)
    simp only
    generalize after.modifyItem new (·.setItemCount (.ofNat count)) = after at *
    have isLoose : Loose after new := by
      intro other same
      rw [found] at same
      exact Option.some.inj same ▸ loose
    have addable : Addable game depth further after new := by
      intro deep accepted other same
      rw [found] at same
      cases Option.some.inj same
      rcases cloning with isTimeless | ⟨_, shallow | refused⟩
      · have still := timeless isTimeless
        exact ⟨.inr (still now.item (.refl _)).1, fun _ => .inl still⟩
      · omega
      · simp [refused] at accepted
    have added := adds kept isLoose addable
    rcases result : World.internalAddItem game depth further after new with ⟨last, succeeded⟩
    rw [result] at added
    cases succeeded with
    | true => exact .of_aside added.consistent known old orphan (aside.trans_new isNew added.aside)
    | false =>
      have same : last = after := added.refused rfl
      subst same
      exact .of_aside (kept.disown found loose.1 loose.2) known old orphan
        (aside.trans_new isNew (.of_touches (.disown last : Touches new false _ _)))

/-- **Adding keeps the accounts** of an item that is not queued, where what is left over
of it is not queued either. -/
theorem internalAddItem_adds : ∀ (depth : Nat) {additions : Nat → Addition} {world : World}
    {id : Nat}, Consistent doomed exempt carried world → Loose world id →
    Addable game depth additions world id →
      Adds doomed exempt carried id world (World.internalAddItem game depth additions world id)
  | 0, _, _, _, consistent, _, _ => adds_refused consistent
  | depth + 1, additions, world, id, consistent, loose, addable => by
      rw [World.internalAddItem]
      cases known : world.held id with
      | none => exact adds_refused consistent
      | some held =>
        obtain ⟨owned, orphan⟩ := loose held known
        simp only
        by_cases refused : (additions 0).refused
        · rw [if_pos refused]
          exact adds_refused consistent
        · rw [if_neg refused]
          obtain ⟨unqueued, splits⟩ :=
            addable (Nat.succ_pos _) (by simpa using refused) held known
          refine Settles.adds ?_ unqueued
          cases merges : World.mergesWith game world held.item (additions 0).toItem with
          | none => exact addThing_settles consistent known owned _
          | some target =>
            obtain ⟨other, stack⟩ := target
            simp only
            -- the stack is that of an item in place, so of another than the one added
            obtain ⟨atOther, knownOther, parentedOther⟩ := mergesWith_some merges
            have updated : Keeps doomed exempt carried other false world
                (if (additions 0).updated then
                  world.updateThing game other stack.id (.ofNat (stack.count.toNat +
                    World.merged held.item stack (additions 0).maxQueryCount))
                else world) := by
              split_ifs
              · exact updateThing_keeps consistent _ _
              · exact .refl consistent
            generalize (if (additions 0).updated then _ else world) = changed at updated ⊢
            have aside : Aside none world changed :=
              .of_parented knownOther parentedOther updated.touches
            refine .after_aside consistent known orphan aside fun knownChanged => ?_
            by_cases left : World.leftOver held.item stack (additions 0).maxQueryCount > 0
            · rw [if_pos left]
              by_cases part : held.item.count.toNat ≠
                  World.leftOver held.item stack (additions 0).maxQueryCount
              · rw [if_pos part]
                refine remainder_settles updated.consistent knownChanged orphan ?_
                  (internalAddItem_adds depth)
                refine (splits ⟨(other, stack), merges, left, part⟩).imp_right ?_
                rintro ⟨clonable, shallow | refusal⟩
                · exact ⟨clonable, .inl (by omega)⟩
                · exact ⟨clonable, .inr refusal⟩
              · rw [if_neg part]
                exact addThing_settles updated.consistent knownChanged owned _
            · rw [if_neg left]
              exact disown_settles updated.consistent knownChanged owned orphan

end Otserv.Decay
