import Otserv.Decay.Accounts

/-!
# Removing and transforming keeps the accounts

None of the functions here queues an item that is queued already. Removing an item
(`internalRemoveItem_keeps`) and transforming it (`transformItem_keeps`) change the
item itself and what is new, and `startDecay` queues an item only where it is not
marked, so it keeps the accounts of an item that is queued only while marked
(`startDecay_keeps`).
-/

namespace Otserv.Decay

open Otserv.Foundation Otserv.Items
open World (modify_held)

variable {doomed : Bool} {exempt carried : Option Nat} {game : Game} {answers : Answers}
  {world : World} {id : Nat}

/-- The accounts are kept, and only the item and what is new is touched. -/
structure Keeps (doomed : Bool) (exempt carried : Option Nat) (id : Nat) (requeues : Bool)
    (before after : World) : Prop where
  consistent : Consistent doomed exempt carried after
  touches : Touches id requeues before after

namespace Keeps

theorem refl {requeues : Bool} (consistent : Consistent doomed exempt carried world) :
    Keeps doomed exempt carried id requeues world world :=
  ⟨consistent, .refl world⟩

theorem trans {requeues : Bool} {before between after : World}
    (first : Keeps doomed exempt carried id requeues before between)
    (second : Keeps doomed exempt carried id requeues between after) :
    Keeps doomed exempt carried id requeues before after :=
  ⟨second.consistent, first.touches.trans second.touches⟩

end Keeps

/-! ## Marks -/

namespace World

theorem held_of_getDuration_pos (lasts : world.getDuration id > 0) :
    ∃ held, world.held id = some held := by
  cases known : world.held id with
  | none => simp [getDuration, known] at lasts
  | some held => exact ⟨held, rfl⟩

/-- An item is not queued unless it is marked. -/
def Startable (world : World) (id : Nat) : Prop := world.Marked id ∨ world.occurrences id = 0

end World

/-! ## Cylinders -/

theorem marked_updated {itemId count : UInt16} {item : Item}
    (marked : ((item.setID game itemId).setSubType game count).Marked) : item.Marked :=
  Item.marked_setID ((Item.marked_setSubType count).mp marked)

theorem updateThing_keeps (consistent : Consistent doomed exempt carried world)
    (itemId count : UInt16) :
    Keeps doomed exempt carried id false world (world.updateThing game id itemId count) :=
  ⟨consistent.modifyItem fun _ => marked_updated, .modify world id _⟩

variable {after : World} {held : Held}

/-- What removing a part of a stack or the whole item makes of it. -/
theorem removeThing_held (game : Game) (known : world.held id = some held) (taken : Bool)
    (count : Nat) :
    ∃ after, (world.removeThing game taken id count).held id = some after ∧
      after.owned = held.owned ∧
      (taken → (game.items held.item.id).stackable = false ∨ count = held.item.count.toNat →
        after.parented = false) := by
  rw [World.removeThing, known]
  simp only
  split_ifs with untaken part
  · exact ⟨held, known, rfl, fun whole => by simp [whole] at untaken⟩
  · refine ⟨{ held with item := held.item.setItemCount (.ofNat (held.item.count.toNat - count)) },
      by rw [World.modifyItem, modify_held, known, Option.map_some], rfl, ?_⟩
    rintro - (single | whole)
    · simp [single] at part
    · exact absurd whole part.2
  · exact ⟨{ held with parented := false },
      by rw [World.setParent, modify_held, known, Option.map_some], rfl, fun _ _ => rfl⟩

theorem removeThing_keeps (game : Game) (id : Nat)
    (consistent : Consistent doomed exempt carried world) (taken : Bool) (count : Nat) :
    Keeps doomed exempt carried id false world (world.removeThing game taken id count) := by
  rw [World.removeThing]
  cases known : world.held id with
  | none => exact .refl consistent
  | some held =>
    simp only
    split_ifs
    · exact .refl consistent
    · exact ⟨consistent.modifyItem fun _ => (Item.marked_setItemCount _).mp, .modify world id _⟩
    · exact ⟨consistent.unparent, .modify world id _⟩

theorem addThing_held (known : world.held id = some held) (added : Added) :
    ∃ after, (world.addThing added id).held id = some after ∧ after.item = held.item ∧
      (added = .left → after.parented = held.parented) := by
  cases added with
  | placed =>
    rw [World.addThing, World.setParent, modify_held, known, Option.map_some]
    exact ⟨_, rfl, rfl, by simp⟩
  | left => exact ⟨held, known, rfl, fun _ => rfl⟩
  | released =>
    rw [World.addThing, World.disown, World.releaseItem, modify_held, World.setParent,
      modify_held, known, Option.map_some, Option.map_some]
    exact ⟨_, rfl, rfl, by simp⟩

/-- Adding an item whose reference was not released. -/
theorem addThing_keeps (consistent : Consistent doomed exempt carried world)
    (known : world.held id = some held) (owned : held.owned) (added : Added) :
    Keeps doomed exempt carried id false world (world.addThing added id) := by
  cases added with
  | placed =>
    refine ⟨consistent.setParent true ?_, .modify world id _⟩
    intro other found
    rw [known] at found
    cases found
    exact owned
  | left => exact .refl consistent
  | released =>
    have orphan : (world.setParent id false).held id = some { held with parented := false } := by
      rw [World.setParent, modify_held, known, Option.map_some]
    exact ⟨consistent.unparent.disown orphan owned rfl,
      (Touches.modify world id _).trans (.disown _)⟩

/-! ## Removing -/

/-- A removal that finds the parent removed takes the whole item. -/
def TakesWhole (game : Game) (answers : Answers) (item : Item) (count : Option Nat) : Prop :=
  answers.rooted ∨ answers.taken ∧
    ((game.items item.id).stackable = false ∨ count.getD item.count.toNat = item.count.toNat)

theorem internalRemoveItem_keeps (consistent : Consistent doomed exempt carried world)
    (count : Option Nat)
    (whole : ∀ held, world.held id = some held → TakesWhole game answers held.item count) :
    Keeps doomed exempt carried id false world
      (world.internalRemoveItem game answers id count) := by
  rw [World.internalRemoveItem]
  cases known : world.held id with
  | none => exact .refl consistent
  | some held =>
    simp only
    split_ifs with orphan refused irremovable removed still
    · exact .refl consistent
    · exact .refl consistent
    · exact .refl consistent
    · -- an item that is removed cannot decay: no bucket is searched for it
      obtain ⟨after, found, _⟩ := removeThing_held game known answers.taken
        (count.getD held.item.count.toNat)
      simp only [World.canDecay, found, removed, Item.canDecay, if_true,
        Bool.false_eq_true] at still
    · obtain ⟨after, found, sameOwner, gone⟩ := removeThing_held game known
        answers.taken (count.getD held.item.count.toNat)
      have parented : held.parented := by simpa using orphan
      have owned : after.owned :=
        sameOwner ▸ (consistent.known known).parented held rfl parented
      have unparented : after.parented = false := by
        rcases whole held known with rooted | ⟨taken, all⟩
        · simpa [World.isRemoved, found, rooted] using removed
        · exact gone taken all
      have step := removeThing_keeps game id consistent answers.taken
        (count.getD held.item.count.toNat)
      exact step.trans ⟨step.consistent.disown found owned unparented, .disown _⟩
    · exact removeThing_keeps game id consistent answers.taken _

/-- A removal that is not refused gives the reference of the item up. -/
theorem internalRemoveItem_disowns (known : world.held id = some held)
    (parented : held.parented) (queried : answers.queryRemove) (removable : answers.canRemove)
    (taken : answers.taken) :
    ∀ after, (world.internalRemoveItem game answers id none).held id = some after →
      after.owned = false := by
  intro after
  obtain ⟨between, found, _, gone⟩ := removeThing_held game known answers.taken
    held.item.count.toNat
  have unparented := gone taken (.inr rfl)
  rw [World.internalRemoveItem, known]
  simp only [parented, queried, removable, Bool.not_true, Bool.false_eq_true, if_false,
    Option.getD_none]
  have removed : (world.removeThing game answers.taken id held.item.count.toNat).isRemoved
      answers.rooted id := by
    simp [World.isRemoved, found, unparented]
  have undecaying : (world.removeThing game answers.taken id held.item.count.toNat).canDecay game
      answers.rooted id = false := by
    simp [World.canDecay, found, removed, Item.canDecay]
  rw [if_pos removed, undecaying, if_neg Bool.false_ne_true]
  intro disowned
  rw [World.disown, World.releaseItem, modify_held, found, Option.map_some] at disowned
  exact (Option.some.inj disowned) ▸ rfl

/-! ## Transforming -/

/-- What transforming an item does, and of the item it gives back: it is the item, or a
new one. -/
structure Transformed (doomed : Bool) (exempt carried : Option Nat) (id : Nat) (before : World)
    (result : World × Option Nat) : Prop where
  keeps : Keeps doomed exempt carried id false before result.1
  item : ∀ new, result.2 = some new → new = id ∨ before.next ≤ new ∧ result.1.Startable new

theorem transformed_same (keeps : Keeps doomed exempt carried id false world after) :
    Transformed doomed exempt carried id world (after, some id) :=
  ⟨keeps, fun _ same => .inl (Option.some.inj same).symm⟩

theorem transformed_none (keeps : Keeps doomed exempt carried id false world after) :
    Transformed doomed exempt carried id world (after, none) :=
  ⟨keeps, fun _ absent => by simp at absent⟩

theorem replaceThing_keeps (consistent : Consistent doomed exempt carried world)
    (known : world.held id = some held) (parented : held.parented) (type count : UInt16) :
    Transformed doomed exempt carried id world
      (world.replaceThing game answers id type count) := by
  rw [World.replaceThing]
  cases created : Item.createItem game type count with
  | none => exact transformed_none (.refl consistent)
  | some newItem =>
    have old := consistent.lt_next known
    have owned := (consistent.known known).parented held rfl parented
    have first := consistent.allocate (Item.not_marked_createItem created) answers.inserted
    have kept : (world.allocate newItem answers.inserted).held id = some held := by
      exact (Function.update_of_ne (Nat.ne_of_lt old) _ _).trans known
    have orphan : ((world.allocate newItem answers.inserted).setParent id false).held id =
        some { held with parented := false } := by
      rw [World.setParent, modify_held, kept, Option.map_some]
    refine ⟨⟨first.unparent.disown orphan owned rfl, ?_⟩, ?_⟩
    · exact (Touches.allocate world newItem answers.inserted).trans
        ((Touches.modify _ id _).trans (.disown _))
    · intro new same
      cases Option.some.inj same
      exact .inr ⟨Nat.le_refl _, .inr (consistent.unqueued_of_fresh (Nat.le_refl _))⟩

/-- The item that takes the place is new, and not queued. -/
theorem replaceThing_new {type count : UInt16} {new : Nat}
    (replaced : world.replaceThing game answers id type count = (after, some new)) :
    new = world.next ∧ after.occurrences new = world.occurrences new := by
  rw [World.replaceThing] at replaced
  cases created : Item.createItem game type count with
  | none => simp [created] at replaced
  | some newItem =>
    rw [created] at replaced
    cases replaced
    exact ⟨rfl, rfl⟩

section

variable (consistent : Consistent doomed exempt carried world)
include consistent

theorem relayer_keeps {held : Held} (known : world.held id = some held) (parented : held.parented)
    (unreleased : answers.added ≠ .released) (newId : UInt16) (newCount : Int) :
    Transformed doomed exempt carried id world
      (world.relayer game answers id newId newCount) := by
  have owned := (consistent.known known).parented held rfl parented
  -- taken from its place
  obtain ⟨taken, whichTaken, keepsTaken, heldTaken⟩ :
      ∃ taken, taken = (if answers.taken then world.setParent id false else world) ∧
        Keeps doomed exempt carried id false world taken ∧
        ∃ after, taken.held id = some after ∧ after.owned := by
    refine ⟨_, rfl, ?_⟩
    split_ifs
    · refine ⟨⟨consistent.unparent, .modify world id _⟩, ?_⟩
      rw [World.setParent, modify_held, known, Option.map_some]
      exact ⟨_, rfl, owned⟩
    · exact ⟨.refl consistent, held, known, owned⟩
  obtain ⟨atTaken, knownTaken, ownedTaken⟩ := heldTaken
  -- given its new type and count
  obtain ⟨changed, whichChanged, keepsChanged, atChanged, knownChanged, ownedChanged⟩ :
      ∃ changed, changed = (taken.modifyItem id fun item =>
          if newCount ≠ -1 then (item.setID game newId).setSubType game (.ofInt newCount)
          else item.setID game newId) ∧
        Keeps doomed exempt carried id false taken changed ∧
        ∃ after, changed.held id = some after ∧ after.owned := by
    refine ⟨_, rfl, ⟨keepsTaken.consistent.modifyItem fun item marked => ?_,
      .modify taken id _⟩, ?_⟩
    · split_ifs at marked
      · exact marked_updated marked
      · exact Item.marked_setID marked
    · rw [World.modifyItem, modify_held, knownTaken, Option.map_some]
      exact ⟨_, rfl, ownedTaken⟩
  -- and put back
  have back := addThing_keeps keepsChanged.consistent knownChanged ownedChanged answers.added
  have whole := (keepsTaken.trans keepsChanged).trans back
  have unfolded : world.relayer game answers id newId newCount =
      if ((changed.addThing answers.added id).held id).all fun held => !held.parented then
        ((changed.addThing answers.added id).disown id, none)
      else (changed.addThing answers.added id, some id) := by
    rw [World.relayer, ← whichTaken, ← whichChanged]
  rw [unfolded]
  split_ifs with orphan
  · apply transformed_none
    obtain ⟨after, knownAfter, ownedAfter⟩ :
        ∃ after, (changed.addThing answers.added id).held id = some after ∧ after.owned := by
      cases added : answers.added with
      | placed =>
        rw [World.addThing, World.setParent, modify_held, knownChanged, Option.map_some]
        exact ⟨_, rfl, ownedChanged⟩
      | left => exact ⟨_, knownChanged, ownedChanged⟩
      | released => exact absurd added unreleased
    have unparented : after.parented = false := by
      rw [knownAfter] at orphan
      simpa using orphan
    exact whole.trans ⟨whole.consistent.disown knownAfter ownedAfter unparented, .disown _⟩
  · exact transformed_same whole

theorem changeInPlace_keeps (item : Item) (newId : UInt16) (newCount : Int) :
    Keeps doomed exempt carried id false world
      (world.changeInPlace game answers id item newId newCount) := by
  simp only [World.changeInPlace]
  have first : Keeps doomed exempt carried id false world
      (if (game.items item.id).id ≠ (game.items newId).id ∧
          (game.items newId).group ≠ (game.items item.id).group then
        world.modifyItem id (·.setDefaultSubtype game)
      else world) := by
    split_ifs
    · exact ⟨consistent.modifyItem fun _ => Item.marked_setDefaultSubtype.mp,
        .modify world id _⟩
    · exact .refl consistent
  by_cases updated : answers.updated
  · rw [if_pos updated]
    exact first.trans (updateThing_keeps first.consistent _ _)
  · rw [if_neg updated]
    exact first

theorem useUp_keeps {held : Held} (known : world.held id = some held) (parented : held.parented)
    (whole : answers.rooted ∨ answers.taken) (newId : UInt16) {again : World × Option Nat}
    (continues : Transformed doomed exempt carried id world again) :
    Transformed doomed exempt carried id world
      (world.useUp game answers id held.item newId again) := by
  have removal : Keeps doomed exempt carried id false world
      (world.internalRemoveItem game answers id none) := by
    refine internalRemoveItem_keeps consistent none fun _ _ => ?_
    rcases whole with rooted | taken
    · exact .inl rooted
    · exact .inr ⟨taken, .inr rfl⟩
  simp only [World.useUp]
  generalize (if (game.items held.item.id).id = (game.items newId).id then
    held.item.getDecayTo game else (newId.toNat : Int)) = newItemId
  split_ifs
  · exact transformed_none removal
  · exact transformed_none removal
  · have replaced : Transformed doomed exempt carried id world
        (world.replaceThing game answers id (.ofInt newItemId) 1) :=
      replaceThing_keeps consistent known parented _ 1
    rcases result : world.replaceThing game answers id (.ofInt newItemId) 1 with ⟨after, new⟩
    rw [result] at replaced
    cases new with
    | none => exact replaced
    | some new =>
      simp only
      split_ifs with starts
      · obtain ⟨isNext, sameQueue⟩ := replaceThing_new result
        obtain ⟨newHeld, knownNew⟩ := World.held_of_getDuration_pos starts.1
        have unqueued : after.occurrences new = 0 := by
          rw [sameQueue, consistent.unqueued_of_fresh (Nat.le_of_eq isNext.symm)]
        refine ⟨⟨replaced.keeps.consistent.pushToDecay knownNew unqueued,
          replaced.keeps.touches.trans_new (Nat.le_of_eq isNext.symm) (.pushToDecay after new)⟩,
          ?_⟩
        intro other same
        cases Option.some.inj same
        refine .inr ⟨Nat.le_of_eq isNext.symm, .inl ?_⟩
        refine ⟨_, by rw [World.pushToDecay, modify_held, knownNew]; rfl, ?_⟩
        exact (Item.marked_setDecaying _).mpr rfl
      · exact replaced
  · exact continues

theorem transformItemBody_keeps
    (unreleased : answers.added ≠ .released) (whole : answers.rooted ∨ answers.taken)
    (newId : UInt16) {again : World × Option Nat}
    (continues : Transformed doomed exempt carried id world again) (newCount : Int) :
    Transformed doomed exempt carried id world
      (world.transformItemBody game answers id newId again newCount) := by
  rw [World.transformItemBody]
  cases known : world.held id with
  | none => exact transformed_none (.refl consistent)
  | some held =>
    have same : Transformed doomed exempt carried id world (world, some id) :=
      transformed_same (.refl consistent)
    simp only
    split_ifs with _ orphan
    · exact same
    · exact transformed_none (.refl consistent)
    · exact same
    · exact same
    · exact same
    · exact relayer_keeps consistent known (by simpa using orphan) unreleased newId newCount
    · exact useUp_keeps consistent known (by simpa using orphan) whole newId continues
    · exact transformed_same (changeInPlace_keeps consistent held.item newId newCount)
    · exact replaceThing_keeps consistent known (by simpa using orphan) newId 0
    · exact replaceThing_keeps consistent known (by simpa using orphan) newId _

/-- **Transforming keeps the accounts.** It queues no item but a new one. -/
theorem transformItem_keeps
    (unreleased : answers.added ≠ .released) (whole : answers.rooted ∨ answers.taken)
    (newId : UInt16) (newCount : Int) :
    Transformed doomed exempt carried id world
      (world.transformItem game answers id newId newCount) :=
  transformItemBody_keeps consistent unreleased whole newId
    (transformItemBody_keeps consistent unreleased whole newId
      (transformed_same (.refl consistent)) (-1)) newCount

end

/-! ## Starting to decay -/

/-- What is done with the item that another decays to: an item that may be started is
queued, or decays in turn. -/
def Continues (doomed : Bool) (exempt carried : Option Nat) (next : World → Option Nat → World) :
    Prop :=
  ∀ world newItem, Consistent doomed exempt carried world →
    (∀ new, newItem = some new → world.Startable new) →
      Consistent doomed exempt carried (next world newItem) ∧
        (∀ new, newItem = some new → Touches new true world (next world newItem)) ∧
        (newItem = none → next world newItem = world)

/-- What `internalDecayItem` does before it starts the new item. -/
def decayed (game : Game) (answers : Answers) (world : World) (id : Nat) : World × Option Nat :=
  match world.held id with
  | none => (world, none)
  | some held =>
    if (game.items held.item.id).decayTo ≠ 0 then
      world.transformItem game answers id (.ofInt (held.item.getDecayTo game)) (-1)
    else (world.internalRemoveItem game answers id none, none)

theorem internalDecayItem_eq {next : World → Option Nat → World}
    (idle : ∀ world, next world none = world) :
    World.internalDecayItem game answers next world id =
      next (decayed game answers world id).1 (decayed game answers world id).2 := by
  rw [World.internalDecayItem, decayed]
  cases world.held id with
  | none => exact (idle world).symm
  | some held =>
    simp only
    split_ifs
    · rfl
    · exact (idle _).symm

theorem decayed_keeps (consistent : Consistent doomed exempt carried world)
    (unreleased : answers.added ≠ .released) (rooted : answers.rooted) :
    Transformed doomed exempt carried id world (decayed game answers world id) := by
  rw [decayed]
  cases world.held id with
  | none => exact transformed_none (.refl consistent)
  | some held =>
    simp only
    split_ifs
    · exact transformItem_keeps consistent unreleased (.inl rooted) _ (-1)
    · exact transformed_none (internalRemoveItem_keeps consistent none fun _ _ => .inl rooted)

/-- An item that was not queued may be started after it was transformed. -/
theorem Transformed.next {result : World × Option Nat} {next : World → Option Nat → World}
    (transformed : Transformed doomed exempt carried id world result)
    (continues : Continues doomed exempt carried next) (old : id < world.next)
    (unqueued : world.occurrences id = 0) :
    Keeps doomed exempt carried id true world (next result.1 result.2) := by
  obtain ⟨after, newItem⟩ := result
  have startable : ∀ new, newItem = some new → after.Startable new := by
    intro new same
    rcases transformed.item new same with rfl | ⟨_, startable⟩
    · refine .inr ?_
      rw [transformed.keeps.touches.occurrences _ old fun _ => rfl, unqueued]
    · exact startable
  obtain ⟨kept, touches, idle⟩ := continues after newItem transformed.keeps.consistent startable
  refine ⟨kept, ?_⟩
  cases newItem with
  | none =>
    simp only [idle rfl]
    exact transformed.keeps.touches.weaken
  | some new =>
    rcases transformed.item new rfl with rfl | ⟨fresh, _⟩
    · exact transformed.keeps.touches.weaken.trans (touches _ rfl)
    · exact transformed.keeps.touches.weaken.trans_new fresh (touches new rfl)

theorem startDecay_idle (depth : Nat) (answers : Nat → Answers) (world : World) :
    World.startDecay game depth answers world none = world := by
  cases depth <;> rfl

theorem placed_of_canDecay {rooted : Bool} (decays : world.canDecay game rooted id) :
    rooted ∧ ∃ held, world.held id = some held ∧ held.parented := by
  cases known : world.held id with
  | none => simp [World.canDecay, known] at decays
  | some held =>
    have still : (!held.parented || !rooted) = false := by
      by_contra removed
      rw [Bool.not_eq_false] at removed
      simp [World.canDecay, World.isRemoved, known, removed, Item.canDecay] at decays
    simp only [Bool.or_eq_false_iff, Bool.not_eq_false'] at still
    exact ⟨still.2, held, rfl, still.1⟩

/-- **Starting keeps the accounts** of an item that is queued only while marked. -/
theorem startDecay_keeps : ∀ (depth : Nat) (answers : Nat → Answers),
    (∀ n, (answers n).added ≠ .released) →
      Continues doomed exempt carried (World.startDecay game depth answers)
  | 0, _, _ => fun world newItem consistent _ =>
    ⟨consistent, fun _ _ => .refl world, fun _ => rfl⟩
  | depth + 1, answers, unreleased => by
      intro world newItem consistent startable
      cases newItem with
      | none => exact ⟨consistent, fun _ absent => by simp at absent, fun _ => rfl⟩
      | some id =>
        have keeps : Keeps doomed exempt carried id true world
            (.startDecay game (depth + 1) answers world (some id)) := by
          rw [World.startDecay]
          split_ifs with stays marked lasts
          · exact .refl consistent
          · exact .refl consistent
          · obtain ⟨held, known⟩ := World.held_of_getDuration_pos lasts
            have unqueued := (startable id rfl).resolve_left marked
            exact ⟨consistent.pushToDecay known unqueued, .pushToDecay world id⟩
          · obtain ⟨rooted, held, known, _⟩ := placed_of_canDecay (by simpa using stays)
            rw [internalDecayItem_eq (startDecay_idle depth _)]
            exact (decayed_keeps consistent (unreleased 0) rooted).next
              (startDecay_keeps depth _ fun n => unreleased (n + 1)) (consistent.lt_next known)
              ((startable id rfl).resolve_left marked)
        refine ⟨keeps.consistent, ?_, fun absent => by simp at absent⟩
        intro new same
        cases Option.some.inj same
        exact keeps.touches

end Otserv.Decay
