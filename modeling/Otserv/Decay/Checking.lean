import Otserv.Decay.Adding

/-!
# Checking the queues

`Game::cleanup` gives up what waits on `ToReleaseItems` and files what was queued: with
it an item that was given up while marked is gone, or still queued (`cleanup_consistent`).
`Game::checkDecay` takes each item of one bucket once (`checkItems_keeps`). The item in
hand is out of the queues while it decays, and stays marked where nothing takes the mark
from it: where it is to become what it is, or cannot be transformed, or cannot be
removed, or keeps its mark with its new type. `Consumed` says when that is not so.
-/

namespace Otserv.Decay

open Otserv.Foundation Otserv.Items
open Function (update update_of_ne update_self)
open Entry (none_iff some_iff)

variable {doomed : Bool} {exempt carried : Option Nat} {game : Game} {world : World} {id : Nat}

/-! ## Cleaning up -/

/-- The world with these items waiting to be given up. -/
def World.owing (world : World) (releases : List Nat) : World :=
  { world with toReleaseItems := releases }

/-- One item less waits to be given up. -/
theorem decrement_consistent {rest : List Nat}
    (consistent : Consistent doomed exempt carried (world.owing (id :: rest))) :
    Consistent doomed exempt carried ((world.decrementReferenceCounter id).owing rest) := by
  have atId : Entry doomed (exempt = some id) (if carried = some id then 1 else 0)
      (world.held id) (world.occurrences id) ((id :: rest).count id) := consistent.entry id
  rw [List.count_cons_self] at atId
  cases known : world.held id with
  | none =>
    rw [known, none_iff] at atId
    omega
  | some held =>
    rw [known, some_iff] at atId
    obtain ⟨once, counted, alive, parented, marks⟩ := atId
    refine consistent.update rfl (consistent.lt_next known)
      (fun _ apart => update_of_ne apart _ _) (fun _ _ => rfl)
      (fun other apart => (List.count_cons_of_ne apart.symm).symm)
      (fun _ _ => .rfl) (fun _ _ => .rfl) ?_
    have now : (world.decrementReferenceCounter id).held id =
        if held.references = 1 then none
        else some { held with references := held.references - 1 } := by
      change update world.held id _ id = _
      rw [update_self, known, Option.bind_some]
    change Entry _ _ _ ((world.decrementReferenceCounter id).held id) (world.occurrences id)
      (rest.count id)
    rw [now]
    by_cases last : held.references = 1
    · -- the last reference: no other is left
      rw [if_pos last]
      exact none_iff.mpr ⟨by omega, by omega, by omega⟩
    · rw [if_neg last]
      refine some_iff.mpr ⟨once, ?_, ?_, parented, marks⟩
      · change held.references - 1 = held.owned.toNat + _ + _ + _
        omega
      · change 0 < held.references - 1
        omega

theorem decrements_consistent {releases : List Nat}
    (consistent : Consistent doomed exempt carried (world.owing releases)) :
    Consistent doomed exempt carried
      ((releases.foldl World.decrementReferenceCounter world).owing []) := by
  induction releases generalizing world with
  | nil => exact consistent
  | cons id rest ih => exact ih (decrement_consistent consistent)

/-- Where nothing waits to be given up, a marked item is queued. -/
theorem Consistent.settled (consistent : Consistent true exempt carried world)
    (uncarried : carried = none) (released : world.toReleaseItems = []) :
    Consistent false exempt carried world where
  entry := by
    intro other
    have atOther := consistent.entry other
    cases known : world.held other with
    | none =>
      rw [known, none_iff] at atOther
      exact none_iff.mpr atOther
    | some held =>
      rw [known, some_iff, released, List.count_nil, uncarried, if_neg (by simp)] at atOther
      obtain ⟨once, counted, alive, parented, marks⟩ := atOther
      rw [released, List.count_nil, uncarried, if_neg (by simp)]
      refine some_iff.mpr ⟨once, counted, alive, parented, fun mark => ?_⟩
      rcases marks mark with queued | ⟨_, unowned⟩ | exempted
      · exact .inl queued
      · -- the references that are left are those of the queues
        rw [unowned, Bool.toNat_false] at counted
        exact .inl (by omega)
      · exact .inr (.inr exempted)
  fresh := consistent.fresh

/-- **Cleaning up.** What was given up while marked is gone, or is still queued. -/
theorem cleanup_consistent (consistent : Consistent true none none world) :
    Consistent false none none world.cleanup := by
  have given := @decrements_consistent _ _ _ world world.toReleaseItems consistent
  have settled := given.settled rfl rfl
  refine ⟨fun other => ?_, settled.fresh⟩
  have filed : world.cleanup.occurrences other =
      (world.toReleaseItems.foldl .decrementReferenceCounter world).occurrences other :=
    BucketQueue.count_file _ _ other
  rw [filed]
  exact settled.entry other

/-- A world where no item is given up while marked is one where some may be. -/
theorem Consistent.doom (consistent : Consistent false exempt carried world) :
    Consistent true exempt carried world where
  entry := fun id => by
    obtain ⟨once, counted, alive, parented, marked⟩ := consistent.entry id
    refine ⟨once, counted, alive, parented, fun held known mark => ?_⟩
    exact (marked held known mark).imp_right (.imp_left fun never => by simp at never)
  fresh := consistent.fresh

theorem decrements_occurrences (world : World) (releases : List Nat) (id : Nat) :
    (releases.foldl World.decrementReferenceCounter world).occurrences id =
      world.occurrences id := by
  induction releases generalizing world with
  | nil => rfl
  | cons released rest ih => exact ih (world.decrementReferenceCounter released)

theorem decrement_item (world : World) (id other : Nat) :
    ∀ now ∈ (world.decrementReferenceCounter id).held other,
      ∃ held, world.held other = some held ∧ now.item = held.item := by
  intro now known
  by_cases same : other = id
  · subst same
    change now ∈ update world.held other _ other at known
    rw [update_self] at known
    obtain ⟨held, found, left⟩ := Option.bind_eq_some_iff.mp known
    split_ifs at left
    cases left
    exact ⟨held, found, rfl⟩
  · exact ⟨now, (update_of_ne same _ _).symm.trans known, rfl⟩

theorem decrements_item (world : World) (releases : List Nat) (id : Nat) :
    ∀ now ∈ (releases.foldl World.decrementReferenceCounter world).held id,
      ∃ held, world.held id = some held ∧ now.item = held.item := by
  induction releases generalizing world with
  | nil => exact fun now known => ⟨now, known, rfl⟩
  | cons released rest ih =>
    intro now known
    obtain ⟨between, found, sameItem⟩ := ih (world.decrementReferenceCounter released) now known
    obtain ⟨held, first, sameItem'⟩ := decrement_item world released id between found
    exact ⟨held, first, sameItem.trans sameItem'⟩

theorem cleanup_item (consistent : Consistent true none none world) {held : Held}
    (known : world.held id = some held) (queued : 0 < world.occurrences id) :
    ∃ now, world.cleanup.held id = some now ∧ now.item = held.item := by
  have entry := (cleanup_consistent consistent).entry id
  have filed : world.cleanup.occurrences id = world.occurrences id := by
    refine (BucketQueue.count_file _ _ id).trans ?_
    exact decrements_occurrences world world.toReleaseItems id
  cases found : world.cleanup.held id with
  | none =>
    rw [found, none_iff, filed] at entry
    omega
  | some now =>
    obtain ⟨before, knownBefore, sameItem⟩ :=
      decrements_item world world.toReleaseItems id now found
    rw [known] at knownBefore
    cases knownBefore
    exact ⟨now, rfl, sameItem⟩

/-! ## What takes the mark from an item -/

/-- Decaying gives the item up or takes its mark. -/
def Consumed (game : Game) (answers : Answers) (item : Item) : Prop :=
  let curType := game.items item.id
  if curType.decayTo ≠ 0 then
    let newId : UInt16 := .ofInt (item.getDecayTo game)
    let newType := game.items newId
    item.id ≠ newId ∧ answers.indexed ∧ answers.canTransform ∧ newType.id ≠ 0 ∧
      if curType.alwaysOnTop ≠ newType.alwaysOnTop then
        answers.added = .left ∧ answers.taken ∨ ¬ (item.setID game newId).Marked
      else if curType.type = newType.type then
        answers.updated ∧
          ¬ (item.setID game (if curType.id ≠ newType.id then newId else item.id)).Marked
      else (Item.createItem game newId 0).isSome
  else answers.queryRemove ∧ answers.canRemove ∧ answers.taken

/-- The item was given up or is not marked. -/
def World.Spent (world : World) (id : Nat) : Prop :=
  ∀ held ∈ world.held id, held.owned = false ∨ ¬ held.item.Marked

variable {answers : Answers} {held : Held}

theorem spent_disown (world : World) (id : Nat) : (world.disown id).Spent id := by
  intro after known
  rw [World.disown, World.releaseItem, World.modify_held] at known
  obtain ⟨before, _, rfl⟩ := Option.map_eq_some_iff.mp known
  exact .inl rfl

theorem relayer_spent (known : world.held id = some held) (newId : UInt16)
    (loses : answers.added = .left ∧ answers.taken ∨ ¬ (held.item.setID game newId).Marked) :
    (world.relayer game answers id newId (-1)).1.Spent id := by
  -- taken from its place, and given its new type
  obtain ⟨taken, whichTaken, between, knownBetween, sameItem, gone⟩ :
      ∃ taken, taken = (if answers.taken then world.setParent id false else world) ∧
        ∃ between, taken.held id = some between ∧ between.item = held.item ∧
          (answers.taken → between.parented = false) := by
    refine ⟨_, rfl, ?_⟩
    split_ifs with isTaken
    · rw [World.setParent, World.modify_held, known, Option.map_some]
      exact ⟨_, rfl, rfl, fun _ => rfl⟩
    · exact ⟨held, known, rfl, fun taken => absurd taken isTaken⟩
  have knownChanged : (taken.modifyItem id (·.setID game newId)).held id =
      some { between with item := held.item.setID game newId } := by
    rw [World.modifyItem, World.modify_held, knownBetween, Option.map_some, sameItem]
  -- and put back
  obtain ⟨after, knownAfter, itemAfter, leftAfter⟩ := addThing_held knownChanged answers.added
  have unfolded : (world.relayer game answers id newId (-1)).1 =
      if ((taken.modifyItem id (·.setID game newId)).addThing answers.added id).held id |>.all
          fun held => !held.parented then
        ((taken.modifyItem id (·.setID game newId)).addThing answers.added id).disown id
      else (taken.modifyItem id (·.setID game newId)).addThing answers.added id := by
    rw [whichTaken]
    simp only [World.relayer, ne_eq, not_true_eq_false, if_false]
    split_ifs <;> rfl
  rw [unfolded]
  split_ifs with orphan
  · exact spent_disown _ id
  · intro found isFound
    rw [knownAfter] at isFound
    cases isFound
    rcases loses with ⟨left, isTaken⟩ | unmarked
    · have unparented := (leftAfter left).trans (gone isTaken)
      simp [knownAfter, unparented] at orphan
    · exact .inr (itemAfter ▸ unmarked)

theorem changeInPlace_spent (known : world.held id = some held) {newId : UInt16}
    (updated : answers.updated)
    (loses : ¬ (held.item.setID game
      (if (game.items held.item.id).id ≠ (game.items newId).id then newId else held.item.id)).Marked) :
    (world.changeInPlace game answers id held.item newId (-1)).Spent id := by
  intro after found
  have unmarked (item : Item) (sameId : item.id = held.item.id)
      (state : item.ints .decayState = held.item.ints .decayState)
      (duration : item.ints .duration = held.item.ints .duration) (count : UInt16) :
      ¬ ((item.setID game (if (game.items held.item.id).id ≠ (game.items newId).id then newId
        else held.item.id)).setSubType game count).Marked := by
    rwa [Item.marked_setSubType, Item.marked_setID_congr sameId state duration]
  obtain ⟨first, which, between, knownFirst, sameId, state, duration⟩ :
      ∃ first, first = (if (game.items held.item.id).id ≠ (game.items newId).id ∧
          (game.items newId).group ≠ (game.items held.item.id).group then
          world.modifyItem id (·.setDefaultSubtype game) else world) ∧
        ∃ between, first.held id = some between ∧ between.item.id = held.item.id ∧
          between.item.ints .decayState = held.item.ints .decayState ∧
          between.item.ints .duration = held.item.ints .duration := by
    refine ⟨_, rfl, ?_⟩
    split_ifs
    · rw [World.modifyItem, World.modify_held, known, Option.map_some]
      exact ⟨_, rfl, Item.setDefaultSubtype_keeps⟩
    · exact ⟨held, known, rfl, rfl, rfl⟩
  rw [World.changeInPlace] at found
  simp only [← which, if_pos updated] at found
  rw [World.updateThing, World.modifyItem, World.modify_held, knownFirst, Option.map_some] at found
  cases found
  exact .inr (unmarked between.item sameId state duration _)

theorem replaceThing_spent {type : UInt16} (created : (Item.createItem game type 0).isSome) :
    (world.replaceThing game answers id type 0).1.Spent id := by
  rw [World.replaceThing]
  obtain ⟨newItem, created⟩ := Option.isSome_iff_exists.mp created
  rw [created]
  exact spent_disown _ id

theorem decayed_spent (known : world.held id = some held) (parented : held.parented)
    (consumed : Consumed game answers held.item) : (decayed game answers world id).1.Spent id := by
  rw [decayed, known]
  rw [Consumed] at consumed
  simp only at consumed ⊢
  by_cases decays : (game.items held.item.id).decayTo ≠ 0
  · rw [if_pos decays] at consumed ⊢
    obtain ⟨other, indexed, canTransform, exists', rest⟩ := consumed
    rw [World.transformItem, World.transformItemBody, known]
    simp only [other, false_and, if_false, parented, indexed, canTransform, exists', Bool.not_true,
      Bool.false_eq_true]
    by_cases layered : (game.items held.item.id).alwaysOnTop ≠
        (game.items (.ofInt (held.item.getDecayTo game))).alwaysOnTop
    · rw [if_pos layered] at rest ⊢
      exact relayer_spent known _ rest
    · rw [if_neg layered] at rest ⊢
      by_cases sameType : (game.items held.item.id).type =
          (game.items (.ofInt (held.item.getDecayTo game))).type
      · rw [if_pos sameType] at rest ⊢
        exact changeInPlace_spent known rest.1 rest.2
      · rw [if_neg sameType] at rest ⊢
        exact replaceThing_spent rest
  · rw [if_neg decays] at consumed ⊢
    obtain ⟨queried, removable, taken⟩ := consumed
    exact fun after found => .inl (internalRemoveItem_disowns known parented queried removable taken
      after found)

theorem Consistent.unexempt (consistent : Consistent true (some id) carried world) (spent : world.Spent id) :
    Consistent true none carried world where
  entry := by
    intro other
    have atOther := consistent.entry other
    cases known : world.held other with
    | none =>
      rw [known, none_iff] at atOther
      exact none_iff.mpr atOther
    | some held =>
      rw [known, some_iff] at atOther
      obtain ⟨once, counted, alive, parented, marks⟩ := atOther
      refine some_iff.mpr ⟨once, counted, alive, parented, fun mark => ?_⟩
      rcases marks mark with queued | given | same
      · exact .inl queued
      · exact .inr (.inl given)
      · cases same
        exact .inr (.inl ⟨rfl, (spent held known).resolve_right (not_not.mpr mark)⟩)
  fresh := consistent.fresh

/-! ## The loop over a bucket -/

/-- The time of an item is up when its turn comes. -/
def Due (bucket : Fin 4) (item : Item) : Prop :=
  World.remaining item ≤ 0 ∨
    World.remaining item < 1000 ∧ World.newBucket bucket (World.remaining item) = bucket

/-- The item waits on: it can decay and its time is not up. -/
def Waits (game : Game) (visit : Visit) (bucket : Fin 4) (world : World) (id : Nat) : Prop :=
  world.canDecay game (visit.answers 0).rooted id ∧
    ∀ held ∈ world.held id, ¬ Due bucket held.item

/-- The turn of an item leaves no mark: it is not marked, or its time is not up, or it is
spent when it decays. -/
def Timely (game : Game) (visit : Visit) (bucket : Fin 4) (world : World) (id : Nat) : Prop :=
  (∀ n, (visit.answers n).added ≠ .released) ∧
    (world.canDecay game (visit.answers 0).rooted id → ∀ held ∈ world.held id,
      held.item.Marked → Due bucket held.item →
        Consumed game (visit.answers 0)
          (held.item.decreaseDuration (World.decreaseTime held.item)))

variable {bucket : Fin 4} {after : World}

theorem canDecay_congr (same : after.held id = world.held id) (rooted : Bool) :
    after.canDecay game rooted id = world.canDecay game rooted id := by
  simp only [World.canDecay, World.isRemoved, same]

theorem waits_congr {visit : Visit} (same : after.held id = world.held id) :
    Waits game visit bucket after id ↔ Waits game visit bucket world id := by
  rw [Waits, Waits, canDecay_congr same, same]

theorem timely_congr {visit : Visit} (same : after.held id = world.held id) :
    Timely game visit bucket after id ↔ Timely game visit bucket world id := by
  rw [Timely, Timely, canDecay_congr same, same]

theorem World.occurrences_pos (listed : id ∈ world.decayItems bucket) : 0 < world.occurrences id :=
  Nat.lt_of_lt_of_le (List.count_pos_iff.mpr listed) (world.queues.count_bucket_le bucket id)

theorem Consistent.known_of_mem (consistent : Consistent doomed exempt carried world)
    (listed : id ∈ world.decayItems bucket) : ∃ held, world.held id = some held := by
  have queued := World.occurrences_pos listed
  cases known : world.held id with
  | none =>
    have empty := (none_iff.mp (known ▸ consistent.entry id)).1
    omega
  | some held => exact ⟨held, rfl⟩

theorem Consistent.nodup (consistent : Consistent doomed exempt carried world) (bucket : Fin 4) :
    (world.decayItems bucket).Nodup :=
  List.nodup_iff_count_le_one.mpr fun id =>
    (world.queues.count_bucket_le bucket id).trans (consistent.entry id).once

/-- A change of the queues in which every item keeps its place. -/
theorem Consistent.requeue (consistent : Consistent doomed exempt carried world)
    (next : after.next = world.next) (held : after.held = world.held)
    (releases : after.toReleaseItems = world.toReleaseItems)
    (occurrences : ∀ other, after.occurrences other = world.occurrences other) :
    Consistent doomed exempt carried after where
  entry := by
    intro other
    rw [held, releases, occurrences other]
    exact consistent.entry other
  fresh := by
    intro other new
    rw [held]
    exact consistent.fresh other (next ▸ new)

section Turns

variable {visit : Visit} {bucket : Fin 4} {kept rest : List Nat}

theorem occurrences_taken (world : World) (listed : world.decayItems bucket = kept ++ id :: rest) (other : Nat) :
    (world.setBucket bucket (kept ++ rest)).occurrences other + (if other = id then 1 else 0) =
      world.occurrences other := by
  have exchanged := world.occurrences_setBucket bucket (kept ++ rest) other
  rw [listed, List.count_append, List.count_append, List.count_cons] at exchanged
  by_cases same : other = id
  · subst same
    simp only [beq_self_eq_true, if_true] at exchanged ⊢
    omega
  · have apart : (id == other) = false := by simpa using Ne.symm same
    simp only [apart, Bool.false_eq_true, if_false] at exchanged
    rw [if_neg same]
    omega

variable {held : Held}

/-- An item taken from a bucket is in hand: it is not queued, and may be marked. -/
theorem Consistent.take (consistent : Consistent true none none world)
    (listed : world.decayItems bucket = kept ++ id :: rest) (known : world.held id = some held) :
    Consistent true (some id) (some id) (world.setBucket bucket (kept ++ rest)) ∧
      (world.setBucket bucket (kept ++ rest)).occurrences id = 0 := by
  have taken := occurrences_taken _ listed id
  rw [if_pos rfl] at taken
  obtain ⟨once, counted, alive, parented, _⟩ := some_iff.mp (consistent.known known)
  rw [if_neg (by simp)] at counted
  have unqueued : (world.setBucket bucket (kept ++ rest)).occurrences id = 0 := by omega
  refine ⟨consistent.update rfl (consistent.lt_next known) (fun _ _ => rfl) (fun other apart => ?_)
    (fun _ _ => rfl) (fun other apart => by simp [apart.symm])
    (fun other apart => by simp [apart.symm]) ?_, unqueued⟩
  · have others := occurrences_taken _ listed other
    rwa [if_neg apart, Nat.add_zero] at others
  · change Entry _ _ _ (world.held id) _ (world.toReleaseItems.count id)
    rw [known, unqueued, if_pos rfl]
    exact some_iff.mpr ⟨Nat.zero_le _, by omega, alive, parented, fun _ => .inr (.inr rfl)⟩

theorem Consistent.handBack (consistent : Consistent true none (some id) world)
    (old : id < world.next) : Consistent true none none (world.releaseItem id) := by
  refine consistent.update rfl old (fun _ _ => rfl) (fun _ _ => rfl) (fun other apart => ?_)
    (fun _ _ => .rfl) (fun other apart => by simp [apart.symm]) ?_
  · rw [World.releaseItem_count, if_neg apart, Nat.add_zero]
  · have atId := consistent.entry id
    rw [World.releaseItem_count, World.releaseItem_occurrences, if_pos rfl]
    change Entry _ _ _ (world.held id) _ _
    cases known : world.held id with
    | none =>
      rw [known, none_iff] at atId
      simp at atId
    | some held =>
      rw [known, some_iff, if_pos rfl] at atId
      obtain ⟨once, counted, alive, parented, marks⟩ := atId
      refine some_iff.mpr ⟨once, ?_, alive, parented, marks⟩
      rw [if_neg (by simp)]
      omega

/-- What the turn of one item leaves: the others as they were, and an item that waits on
with its duration decreased once. -/
structure Turn (game : Game) (visit : Visit) (bucket : Fin 4) (id : Nat) (before after : World) :
    Prop where
  consistent : Consistent true none none after
  next : before.next ≤ after.next
  others : ∀ other, other < before.next → other ≠ id →
    after.held other = before.held other ∧ after.occurrences other = before.occurrences other
  waits : Waits game visit bucket before id → ∀ held ∈ before.held id,
    after.held id = some { held with
        item := held.item.decreaseDuration (World.decreaseTime held.item) } ∧
      after.occurrences id = before.occurrences id

/-- An item that cannot decay is marked as such and leaves the queues. -/
theorem turn_undecaying (consistent : Consistent true none none world)
    (listed : world.decayItems bucket = kept ++ id :: rest) (known : world.held id = some held)
    (stays : world.canDecay game (visit.answers 0).rooted id = false) :
    Turn game visit bucket id world
      (((world.modifyItem id (·.setDecaying .notDecaying)).releaseItem id).setBucket bucket
        (kept ++ rest)) := by
  have unmarked (item : Item) : ¬ (item.setDecaying .notDecaying).Marked := by
    rw [Item.marked_setDecaying]
    decide
  have changed : Consistent true none none (world.modifyItem id (·.setDecaying .notDecaying)) :=
    consistent.modifyItem fun item mark => absurd mark (unmarked item)
  have now : (world.modifyItem id (·.setDecaying .notDecaying)).held id =
      some { held with item := held.item.setDecaying .notDecaying } := by
    rw [World.modifyItem, World.modify_held, known, Option.map_some]
  obtain ⟨inHand, _⟩ := changed.take listed now
  have spent : ((world.modifyItem id (·.setDecaying .notDecaying)).setBucket bucket
      (kept ++ rest)).Spent id := by
    intro after found
    rw [World.setBucket_held, now] at found
    cases found
    exact .inr (unmarked held.item)
  refine ⟨(inHand.unexempt spent).handBack (consistent.lt_next known), Nat.le_refl _,
    fun other _ apart => ⟨update_of_ne apart _ _, ?_⟩,
    fun waits => by simp [waits.1] at stays⟩
  have others := occurrences_taken _ listed other
  rwa [if_neg apart, Nat.add_zero] at others

theorem turn_due (consistent : Consistent true none none world)
    (listed : world.decayItems bucket = kept ++ id :: rest)
    (known : world.held id = some held) (decays : world.canDecay game (visit.answers 0).rooted id)
    (timely : Timely game visit bucket world id) (due : Due bucket held.item) {taken : World}
    (isTaken : taken = (world.modifyItem id
      (·.decreaseDuration (World.decreaseTime held.item))).setBucket bucket (kept ++ rest)) :
    Turn game visit bucket id world ((taken.decay game visit id).releaseItem id) ∧
      (taken.decay game visit id).decayItems bucket = kept ++ rest := by
  obtain ⟨unreleased, consumed⟩ := timely
  obtain ⟨rooted, _, found, parented⟩ := placed_of_canDecay decays
  rw [known] at found
  cases found
  have old := consistent.lt_next known
  have changed : Consistent true none none
      (world.modifyItem id (·.decreaseDuration (World.decreaseTime held.item))) :=
    consistent.modifyItem fun _ => (Item.marked_decreaseDuration _).mp
  have now : taken.held id =
      some { held with item := held.item.decreaseDuration (World.decreaseTime held.item) } := by
    rw [isTaken, World.setBucket_held, World.modifyItem, World.modify_held, known, Option.map_some]
  obtain ⟨inHand, unqueued⟩ := changed.take listed
    (by rw [isTaken] at now; exact now)
  rw [← isTaken] at inHand unqueued
  -- a marked item is spent when it decays, another never gets a mark
  have decayedWell : Transformed true none (some id) id taken
      (decayed game (visit.answers 0) taken id) := by
    by_cases marked : held.item.Marked
    · have transformed : Transformed true (some id) (some id) id taken
          (decayed game (visit.answers 0) taken id) :=
        decayed_keeps inHand (unreleased 0) rooted
      exact ⟨⟨transformed.keeps.consistent.unexempt
        (decayed_spent now parented (consumed decays held known marked due)),
        transformed.keeps.touches⟩, transformed.item⟩
    · refine decayed_keeps (inHand.unexempt ?_) (unreleased 0) rooted
      intro after found
      rw [now] at found
      cases found
      exact .inr fun mark => marked ((Item.marked_decreaseDuration _).mp mark)
  have keeps : Keeps true none (some id) id true taken (taken.decay game visit id) := by
    rw [World.decay, internalDecayItem_eq (startDecay_idle visit.depth _)]
    exact decayedWell.next (startDecay_keeps visit.depth _ fun n => unreleased (n + 1))
      (by rw [isTaken]; exact old) unqueued
  have next : world.next = taken.next := by rw [isTaken]; rfl
  refine ⟨⟨keeps.consistent.handBack (Nat.lt_of_lt_of_le (next ▸ old) keeps.touches.next),
    next ▸ keeps.touches.next, fun other oldOther apart => ⟨?_, ?_⟩,
    fun waits => absurd due (waits.2 held known)⟩, ?_⟩
  · refine (keeps.touches.held other (next ▸ oldOther) apart).trans ?_
    rw [isTaken]
    exact update_of_ne apart _ _
  · refine (keeps.touches.occurrences other (next ▸ oldOther)
      fun same => absurd same apart).trans ?_
    have others := occurrences_taken (world.modifyItem id
      (·.decreaseDuration (World.decreaseTime held.item))) listed other
    rw [if_neg apart, Nat.add_zero, ← isTaken] at others
    exact others
  · rw [keeps.touches.decayItems, isTaken]
    exact update_self bucket _ _

theorem turn_waits (consistent : Consistent true none none world)
    (known : world.held id = some held) {after : World} (next : after.next = world.next)
    (sameHeld : after.held =
      (world.modifyItem id (·.decreaseDuration (World.decreaseTime held.item))).held)
    (releases : after.toReleaseItems = world.toReleaseItems)
    (occurrences : ∀ other, after.occurrences other = world.occurrences other) :
    Turn game visit bucket id world after := by
  have changed : Consistent true none none
      (world.modifyItem id (·.decreaseDuration (World.decreaseTime held.item))) :=
    consistent.modifyItem fun _ => (Item.marked_decreaseDuration _).mp
  refine ⟨changed.requeue next sameHeld releases occurrences, Nat.le_of_eq next.symm,
    fun other _ apart => ⟨?_, occurrences other⟩, fun _ found isFound => ?_⟩
  · rw [sameHeld]
    exact update_of_ne apart _ _
  · rw [known] at isFound
    cases isFound
    rw [sameHeld, World.modifyItem, World.modify_held, known, Option.map_some]
    exact ⟨rfl, occurrences id⟩

theorem occurrences_refiled (world : World) (listed : world.decayItems bucket = kept ++ id :: rest)
    (after : Fin 4) (other : Nat) :
    ((world.setBucket bucket (kept ++ rest)).setBucket after
      ((world.setBucket bucket (kept ++ rest)).decayItems after ++ [id])).occurrences other =
      world.occurrences other := by
  rw [← occurrences_taken _ listed other]
  exact (world.setBucket bucket (kept ++ rest)).queues.count_append after id other

/-- One round of the loop. -/
theorem checkItems_turn {visits : Nat → Visit} (consistent : Consistent true none none world)
    (listed : world.decayItems bucket = kept ++ id :: rest)
    (timely : Timely game (visits id) bucket world id) :
    ∃ kept' after, World.checkItems game visits bucket kept (id :: rest) world =
        World.checkItems game visits bucket kept' rest after ∧
      after.decayItems bucket = kept' ++ rest ∧ Turn game (visits id) bucket id world after := by
  obtain ⟨held, known⟩ := consistent.known_of_mem
    (listed ▸ kept.mem_append_right List.mem_cons_self)
  rw [World.checkItems, known]
  simp only
  by_cases stays : world.canDecay game ((visits id).answers 0).rooted id = false
  · rw [if_pos (by simp [stays])]
    exact ⟨kept, _, rfl, update_self bucket _ _,
      turn_undecaying consistent listed known stays⟩
  · have decays : world.canDecay game ((visits id).answers 0).rooted id := by simpa using stays
    rw [if_neg (by simp [decays])]
    by_cases due : World.remaining held.item ≤ 0
    · rw [if_pos due]
      obtain ⟨turn, listedAfter⟩ := turn_due consistent listed known decays timely (.inl due) rfl
      exact ⟨kept, _, rfl, listedAfter, turn⟩
    · rw [if_neg due]
      by_cases soon : World.remaining held.item < 1000
      · rw [if_pos soon]
        by_cases now : World.newBucket bucket (World.remaining held.item) = bucket
        · rw [if_pos now]
          obtain ⟨turn, listedAfter⟩ :=
            turn_due consistent listed known decays timely (.inr ⟨soon, now⟩) rfl
          exact ⟨kept, _, rfl, listedAfter, turn⟩
        · rw [if_neg now]
          refine ⟨kept, _, rfl, ?_, turn_waits consistent known rfl rfl rfl fun other =>
            occurrences_refiled (world.modifyItem id
              (·.decreaseDuration (World.decreaseTime held.item))) listed _ other⟩
          change update _ _ _ bucket = _
          rw [update_of_ne (Ne.symm now)]
          exact update_self bucket _ _
      · rw [if_neg soon]
        exact ⟨kept ++ [id], _, rfl, by simp [World.modifyItem, World.modify, listed],
          turn_waits consistent known rfl rfl rfl fun _ => rfl⟩

end Turns

/-- What the turns of some items leave. -/
structure Turns (game : Game) (visits : Nat → Visit) (bucket : Fin 4) (rest : List Nat)
    (before after : World) : Prop where
  consistent : Consistent true none none after
  next : before.next ≤ after.next
  others : ∀ other, other < before.next → other ∉ rest →
    after.held other = before.held other ∧ after.occurrences other = before.occurrences other
  waits : ∀ id ∈ rest, Waits game (visits id) bucket before id → ∀ held ∈ before.held id,
    after.held id = some { held with
        item := held.item.decreaseDuration (World.decreaseTime held.item) } ∧
      after.occurrences id = before.occurrences id

/-- **The loop keeps the accounts.** The items of the bucket are different ones, so each
has one turn, and a turn leaves the others as they were. -/
theorem checkItems_keeps {visits : Nat → Visit} {kept rest : List Nat}
    (consistent : Consistent true none none world) (listed : world.decayItems bucket = kept ++ rest)
    (timely : ∀ id ∈ rest, Timely game (visits id) bucket world id) :
    Turns game visits bucket rest world
      (World.checkItems game visits bucket kept rest world) := by
  induction rest generalizing kept world with
  | nil => exact ⟨consistent, Nat.le_refl _, fun _ _ _ => ⟨rfl, rfl⟩, fun _ absent => by simp at absent⟩
  | cons id rest ih =>
    obtain ⟨kept', after, unfolded, listedAfter, turn⟩ :=
      checkItems_turn consistent listed (timely id List.mem_cons_self)
    have old : ∀ other ∈ rest, other < world.next := by
      intro other member
      have isListed : other ∈ world.decayItems bucket :=
        listed ▸ kept.mem_append_right (List.mem_cons_of_mem id member)
      obtain ⟨held, known⟩ := consistent.known_of_mem isListed
      exact consistent.lt_next known
    have once : id ∉ rest := by
      have distinct := consistent.nodup bucket
      rw [listed] at distinct
      exact (List.nodup_cons.mp (List.nodup_append.mp distinct).2.1).1
    have apart : ∀ other ∈ rest, other ≠ id := fun other member same => once (same ▸ member)
    have later := ih turn.consistent listedAfter fun other member =>
      (timely_congr (turn.others other (old other member) (apart other member)).1).mpr
        (timely other (List.mem_cons_of_mem id member))
    rw [unfolded]
    refine ⟨later.consistent, Nat.le_trans turn.next later.next, ?_, ?_⟩
    · intro other oldOther absent
      obtain ⟨sameHeld, sameQueue⟩ := turn.others other oldOther
        fun same => absent (same ▸ List.mem_cons_self)
      obtain ⟨sameHeld', sameQueue'⟩ :=
        later.others other (Nat.lt_of_lt_of_le oldOther turn.next)
          fun member => absent (List.mem_cons_of_mem id member)
      exact ⟨sameHeld'.trans sameHeld, sameQueue'.trans sameQueue⟩
    · intro other member waits held known
      rcases List.mem_cons.mp member with rfl | later'
      · obtain ⟨decreased, queue⟩ := turn.waits waits held known
        obtain ⟨sameHeld, sameQueue⟩ := later.others other
          (Nat.lt_of_lt_of_le (consistent.lt_next known) turn.next) once
        exact ⟨sameHeld.trans decreased, sameQueue.trans queue⟩
      · obtain ⟨sameHeld, sameQueue⟩ := turn.others other (old other later') (apart other later')
        obtain ⟨decreased, queue⟩ := later.waits other later' ((waits_congr sameHeld).mpr waits)
          held (sameHeld ▸ known)
        exact ⟨decreased, queue.trans sameQueue⟩

/-- **Checking keeps the accounts**, and takes time from an item once. -/
theorem checkDecay_keeps {visits : Nat → Visit} (consistent : Consistent false none none world)
    (timely : ∀ id ∈ world.decayItems (world.lastBucket + 1),
      Timely game (visits id) (world.lastBucket + 1) world id) :
    Consistent false none none (world.checkDecay game visits) ∧
      ∀ id ∈ world.decayItems (world.lastBucket + 1),
        Waits game (visits id) (world.lastBucket + 1) world id → ∀ held ∈ world.held id,
          ∃ now, (world.checkDecay game visits).held id = some now ∧
            now.item = held.item.decreaseDuration (World.decreaseTime held.item) := by
  have turns : Turns game visits (world.lastBucket + 1) _ world (.checkItems game visits
      (world.lastBucket + 1) [] (world.decayItems (world.lastBucket + 1)) world) :=
    checkItems_keeps consistent.doom rfl timely
  have moved : Consistent true none none { World.checkItems game visits (world.lastBucket + 1) []
      (world.decayItems (world.lastBucket + 1)) world with lastBucket := world.lastBucket + 1 } :=
    turns.consistent.requeue rfl rfl rfl fun _ => rfl
  refine ⟨cleanup_consistent moved, fun id listed waits held known => ?_⟩
  obtain ⟨decreased, queue⟩ := turns.waits id listed waits held known
  exact cleanup_item moved decreased (queue ▸ World.occurrences_pos listed)

end Otserv.Decay
