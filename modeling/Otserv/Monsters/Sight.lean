import Otserv.Monsters.Lists

/-!
# What is on a monster's lists

After every event each creature on a list should be there once, be within sight and on the
map, and be held by one reference (`Sound`).

A creature that leaves is looked for only in the lists of its present relation: it stays on a
list that its relation has changed from, unless the monster goes idle and forgets everything.
And a script that handles the event keeps the monster from looking (`lists_sound_iff`).
-/

namespace Otserv.Monsters

open Foundation
open Function (update update_of_ne update_self)
open Otserv.World (Position)

/-- A creature is on a list. -/
def Lists.Has (lists : Lists) (creature : Nat) : Prop :=
  creature ∈ lists.targetList ∨ creature ∈ lists.friendList

/-- Creatures are listed once, and held by a reference for each list. -/
structure Kept (lists : Lists) : Prop where
  targets : lists.targetList.Nodup
  friends : lists.friendList.Nodup
  references : ∀ creature, lists.references creature =
    lists.targetList.count creature + lists.friendList.count creature

structure Sound (world : World) : Prop extends Kept world.toLists where
  seen : ∀ creature, world.Has creature →
    world.sees (world.position creature) = true ∧ world.presence creature = .onMap

namespace Surroundings

variable (around : Surroundings) (lists : Lists)

/-- The monster goes idle once it has no target. -/
def GoesIdle : Prop :=
  around.presence around.self ≠ .removed ∧ 0 < (around.traits around.self).health ∧
    around.getMaster around.self = none ∧
      (around.traits around.self).hasAggressiveCondition = false

/-- The creature is on a list that its relation is not of. -/
def Stays (creature : Nat) : Prop :=
  creature ∈ lists.friendList ∧ around.isFriend creature = false ∨
    creature ∈ lists.targetList ∧ around.isOpponent creature = false

/-- The targets when the creature has left. -/
def targetsWithout (creature : Nat) : List Nat :=
  if around.isOpponent creature then lists.targetList.erase creature else lists.targetList

end Surroundings

/-- A creature of the lists that is removed or leaves the sight is on those of its relation
only, or the monster goes idle; and no script handles that it leaves, or that the monster
leaves it. -/
def LeavesLists (world : World) : Op → Prop
  | .move creature newPos handled =>
    world.sees newPos = true ∨ ¬world.Has creature ∨ handled = false ∧
      (¬world.Stays world.toLists creature ∨
        world.GoesIdle ∧ world.targetsWithout world.toLists creature = [])
  | .ownMove newPos _ handled _ =>
    handled = false ∨
      ∀ creature, world.Has creature → canSee newPos (world.position creature) = true
  | .remove creature handled =>
    ¬world.Has creature ∨ handled = false ∧
      (¬world.Stays world.toLists creature ∨ world.isOpponent creature = true ∧
        world.GoesIdle ∧ world.targetList.erase creature = [])
  | .appear _ _ _ _ | .change _ _ | .follow _ _ => True

/-! ## Adding and removing -/

namespace Surroundings

variable {lists : Lists} {creature : Nat}

theorem has_addFriend (other : Nat) :
    (addFriend lists creature).Has other ↔ lists.Has other ∨ other = creature := by
  unfold addFriend Lists.Has
  split
  · grind
  · grind

theorem has_addTarget (pushFront : Bool) (other : Nat) :
    (addTarget lists creature pushFront).Has other ↔ lists.Has other ∨ other = creature := by
  unfold addTarget Lists.Has
  cases pushFront with
  | true =>
    split
    · grind
    · grind
  | false =>
    split
    · grind
    · grind

theorem has_drop (gone : Nat → Bool) (other : Nat) :
    (drop lists gone).Has other ↔ lists.Has other ∧ gone other = false := by
  simp only [drop, Lists.Has, List.mem_filter, Bool.not_eq_true', ← or_and_right]

@[simp] theorem removeFriend_targetList :
    (removeFriend lists creature).targetList = lists.targetList := by
  unfold removeFriend
  split <;> rfl

@[simp] theorem removeFriend_friendList :
    (removeFriend lists creature).friendList = lists.friendList.erase creature := by
  unfold removeFriend
  split
  · rfl
  · next absent => exact (List.erase_of_not_mem absent).symm

@[simp] theorem removeTarget_targetList :
    (removeTarget lists creature).targetList = lists.targetList.erase creature := by
  unfold removeTarget
  split
  · rfl
  · next absent => exact (List.erase_of_not_mem absent).symm

@[simp] theorem removeTarget_friendList :
    (removeTarget lists creature).friendList = lists.friendList := by
  unfold removeTarget
  split <;> rfl

end Surroundings

namespace Kept

open Surroundings

variable {lists : Lists}

theorem addFriend (kept : Kept lists) (creature : Nat) : Kept (addFriend lists creature) := by
  unfold Surroundings.addFriend
  split
  · exact kept
  next absent =>
  refine ⟨kept.targets, List.nodup_cons.mpr ⟨absent, kept.friends⟩, fun other => ?_⟩
  by_cases same : other = creature
  · simp only [same, update_self, kept.references, List.count_cons_self]
    omega
  · simp only [update_of_ne same, kept.references,
      List.count_cons_of_ne (.symm same)]

theorem addTarget (kept : Kept lists) (creature : Nat) (pushFront : Bool) :
    Kept (addTarget lists creature pushFront) := by
  unfold Surroundings.addTarget
  split
  · exact kept
  next absent =>
  have perm : (if pushFront then creature :: lists.targetList
      else lists.targetList ++ [creature]).Perm (creature :: lists.targetList) := by
    cases pushFront with
    | true => exact .refl _
    | false => exact List.perm_append_singleton _ _
  refine ⟨perm.nodup_iff.mpr (List.nodup_cons.mpr ⟨absent, kept.targets⟩), kept.friends,
    fun other => ?_⟩
  rw [perm.count_eq]
  by_cases same : other = creature
  · simp only [same, update_self, kept.references, List.count_cons_self]
    omega
  · simp only [update_of_ne same, kept.references,
      List.count_cons_of_ne (.symm same)]

theorem removeFriend (kept : Kept lists) (creature : Nat) : Kept (removeFriend lists creature) := by
  unfold Surroundings.removeFriend
  split
  · next listed =>
    refine ⟨kept.targets, kept.friends.erase _, fun other => ?_⟩
    by_cases same : other = creature
    · have once := List.count_eq_one_of_mem kept.friends listed
      simp only [same, update_self, kept.references, List.count_erase_self]
      omega
    · simp only [update_of_ne same, kept.references, List.count_erase_of_ne same]
  · exact kept

theorem removeTarget (kept : Kept lists) (creature : Nat) : Kept (removeTarget lists creature) := by
  unfold Surroundings.removeTarget
  split
  · next listed =>
    refine ⟨kept.targets.erase _, kept.friends, fun other => ?_⟩
    by_cases same : other = creature
    · have once := List.count_eq_one_of_mem kept.targets listed
      simp only [same, update_self, kept.references, List.count_erase_self]
      omega
    · simp only [update_of_ne same, kept.references, List.count_erase_of_ne same]
  · exact kept

theorem drop (kept : Kept lists) (gone : Nat → Bool) : Kept (drop lists gone) where
  targets := kept.targets.filter _
  friends := kept.friends.filter _
  references := by
    intro creature
    simp only [Surroundings.drop]
    split
    · next isGone =>
      have absent : ∀ list : List Nat,
          (list.filter fun creature => !gone creature).count creature = 0 := by
        intro list
        refine List.count_eq_zero_of_not_mem fun member => ?_
        have stays := (List.mem_filter.mp member).2
        rw [isGone] at stays
        cases stays
      rw [absent, absent, kept.references, Nat.sub_self]
    · next stays =>
      have same : ∀ list : List Nat,
          (list.filter fun creature => !gone creature).count creature = list.count creature :=
        fun list => List.count_filter (by simpa using stays)
      rw [same, same, kept.references]

variable (around : Surroundings)

theorem setIdle (kept : Kept lists) (idle : Bool) : Kept (around.setIdle lists idle) := by
  unfold Surroundings.setIdle
  split
  · exact kept
  · split
    · exact kept.drop _
    · exact kept

theorem updateIdleStatus (kept : Kept lists) : Kept (around.updateIdleStatus lists) :=
  kept.setIdle around _

theorem onCreatureFound (kept : Kept lists) (creature : Nat) (pushFront : Bool) :
    Kept (around.onCreatureFound lists creature pushFront) := by
  unfold Surroundings.onCreatureFound
  split
  · exact kept
  · split
    · exact kept
    · have friend : Kept
          (if around.isFriend creature then Surroundings.addFriend lists creature else lists) := by
        split
        · exact kept.addFriend creature
        · exact kept
      refine updateIdleStatus around ?_
      split
      · exact friend.addTarget creature pushFront
      · exact friend

theorem foldl_found (spectators : List Nat) : ∀ {lists : Lists}, Kept lists →
    Kept (spectators.foldl
      (fun lists spectator => around.onCreatureFound lists spectator false) lists) := by
  induction spectators with
  | nil => exact fun kept => kept
  | cons spectator rest ih => exact fun kept => ih (kept.onCreatureFound around spectator false)

theorem updateTargetList (kept : Kept lists) (spectators : List Nat) :
    Kept (around.updateTargetList lists spectators) :=
  foldl_found around _ (kept.drop _)

theorem onCreatureLeave (kept : Kept lists) (creature : Nat) :
    Kept (around.onCreatureLeave lists creature) := by
  unfold Surroundings.onCreatureLeave
  have friend : Kept
      (if around.isFriend creature then Surroundings.removeFriend lists creature else lists) := by
    split
    · exact kept.removeFriend creature
    · exact kept
  generalize (if around.isFriend creature then Surroundings.removeFriend lists creature
    else lists) = rest at friend ⊢
  dsimp only
  split
  · split
    · exact (friend.removeTarget creature).updateIdleStatus around
    · exact friend.removeTarget creature
  · exact friend

theorem onFollowCreatureComplete (kept : Kept lists) (creature : Nat) (hasFollowPath : Bool) :
    Kept (around.onFollowCreatureComplete lists creature hasFollowPath) := by
  unfold Surroundings.onFollowCreatureComplete
  split
  · next listed =>
    have again : (creature :: lists.targetList.erase creature).Perm lists.targetList :=
      (List.perm_cons_erase listed).symm
    split
    · refine ⟨again.nodup_iff.mpr kept.targets, kept.friends, fun other => ?_⟩
      rw [again.count_eq, kept.references]
    · split
      · have atEnd := (List.perm_append_singleton creature _).trans again
        refine ⟨atEnd.nodup_iff.mpr kept.targets, kept.friends, fun other => ?_⟩
        rw [atEnd.count_eq, kept.references]
      · have removed := kept.removeTarget creature
        unfold Surroundings.removeTarget at removed
        rwa [if_pos listed] at removed
  · exact kept

end Kept

/-! ## What is on the lists afterwards -/

namespace Surroundings

variable (around : Surroundings) {lists : Lists}

/-- **Going idle** clears both lists, and nothing else happens to them. -/
theorem has_updateIdleStatus (creature : Nat) :
    (around.updateIdleStatus lists).Has creature ↔
      lists.Has creature ∧ ¬(around.GoesIdle ∧ lists.targetList = []) := by
  unfold updateIdleStatus setIdle GoesIdle
  by_cases off : around.presence around.self = .removed ∨
      (around.traits around.self).health ≤ 0
  · simp only [if_pos off]
    refine (and_iff_left fun idle => ?_).symm
    rcases off with removed | dead
    · exact idle.1.1 removed
    · omega
  · have onMap : around.presence around.self ≠ .removed := fun removed => off (.inl removed)
    have alive : 0 < (around.traits around.self).health := by
      by_contra dead
      exact off (.inr (by omega))
    simp only [if_neg off]
    by_cases alone : around.getMaster around.self = none ∧ lists.targetList = []
    · rw [if_pos alone]
      cases aggressive : (around.traits around.self).hasAggressiveCondition with
      | true =>
        simp
      | false =>
        rw [Bool.not_false, if_pos rfl, has_drop]
        refine iff_of_false (fun both => nomatch both.2) fun both => both.2 ?_
        exact ⟨⟨onMap, alive, alone.1, rfl⟩, alone.2⟩
    · rw [if_neg alone, if_neg Bool.false_ne_true]
      refine (and_iff_left fun idle => alone ?_).symm
      exact ⟨idle.1.2.2.1, idle.2⟩

variable {creature other : Nat}

theorem of_has_found {pushFront : Bool}
    (listed : (around.onCreatureFound lists creature pushFront).Has other) :
    lists.Has other ∨ other = creature ∧ creature ≠ around.self ∧
      around.sees (around.position creature) = true := by
  unfold onCreatureFound at listed
  split at listed
  · exact .inl listed
  next notSelf =>
  split at listed
  · exact .inl listed
  next sees =>
  have isSeen : around.sees (around.position creature) = true := by simpa using sees
  have friend : ∀ found, (if around.isFriend creature then addFriend lists creature
      else lists).Has found → lists.Has found ∨ found = creature := by
    intro found
    split
    · exact (has_addFriend found).mp
    · exact .inl
  have either : lists.Has other ∨ other = creature := by
    have onList := ((around.has_updateIdleStatus other).mp listed).1
    split at onList
    · rcases (has_addTarget pushFront other).mp onList with before | same
      · exact friend other before
      · exact .inr same
    · exact friend other onList
  exact either.imp_right fun same => ⟨same, notSelf, isSeen⟩

theorem of_has_foldl {creature : Nat} (spectators : List Nat) : ∀ {lists : Lists},
    (spectators.foldl
        (fun lists spectator => around.onCreatureFound lists spectator false) lists).Has creature →
      lists.Has creature ∨ creature ∈ spectators ∧ creature ≠ around.self ∧
        around.sees (around.position creature) = true := by
  induction spectators with
  | nil => exact fun listed => .inl listed
  | cons spectator rest ih =>
    intro lists listed
    rcases ih listed with before | ⟨inRest, notSelf, seen⟩
    · rcases around.of_has_found before with first | ⟨rfl, notSelf, seen⟩
      · exact .inl first
      · exact .inr ⟨List.mem_cons_self, notSelf, seen⟩
    · exact .inr ⟨List.mem_cons_of_mem _ inRest, notSelf, seen⟩

/-- **After `updateTargetList`** only creatures in sight are listed. -/
theorem of_has_updateTargetList {creature : Nat} {spectators : List Nat}
    (listed : (around.updateTargetList lists spectators).Has creature) :
    around.sees (around.position creature) = true ∧
      (lists.Has creature ∨ creature ∈ spectators ∧ creature ≠ around.self) := by
  rcases around.of_has_foldl _ listed with before | ⟨spectator, notSelf, seen⟩
  · obtain ⟨isListed, stays⟩ := (has_drop _ creature).mp before
    refine ⟨?_, .inl isListed⟩
    rw [decide_eq_false_iff_not, not_or] at stays
    simpa using stays.2
  · exact ⟨seen, .inr ⟨List.mem_of_mem_erase spectator, notSelf⟩⟩

/-- **A creature that leaves** stays on the lists that are not of its relation, unless the
monster goes idle. -/
theorem has_onCreatureLeave (kept : Kept lists) (creature : Nat) :
    (around.onCreatureLeave lists creature).Has creature ↔
      around.Stays lists creature ∧ ¬(around.isOpponent creature = true ∧ around.GoesIdle ∧
        lists.targetList.erase creature = []) := by
  have friends : creature ∈ (if around.isFriend creature then removeFriend lists creature
      else lists).friendList ↔
        creature ∈ lists.friendList ∧ around.isFriend creature = false := by
    cases friend : around.isFriend creature with
    | true => simp [kept.friends.not_mem_erase]
    | false => simp
  have targets : (if around.isFriend creature then removeFriend lists creature
      else lists).targetList = lists.targetList := by
    split
    · exact removeFriend_targetList
    · rfl
  unfold onCreatureLeave Stays
  generalize (if around.isFriend creature then removeFriend lists creature
    else lists) = rest at friends targets ⊢
  dsimp only
  cases opponent : around.isOpponent creature with
  | false =>
    rw [if_neg Bool.false_ne_true, Lists.Has, friends, targets, or_comm]
    simp
  | true =>
    have left : (removeTarget rest creature).Has creature ↔
        creature ∈ lists.friendList ∧ around.isFriend creature = false := by
      rw [Lists.Has, removeTarget_targetList, removeTarget_friendList, targets, friends]
      exact or_iff_right kept.targets.not_mem_erase
    rw [if_pos rfl]
    split
    · next empty =>
      rw [around.has_updateIdleStatus, left]
      rw [removeTarget_targetList, targets] at empty ⊢
      simp [empty]
    · next nonempty =>
      rw [removeTarget_targetList, targets] at nonempty
      rw [left]
      simp [nonempty]

theorem of_has_onCreatureLeave
    (listed : (around.onCreatureLeave lists creature).Has other) : lists.Has other := by
  have friends : (if around.isFriend creature then removeFriend lists creature
      else lists).Has other → lists.Has other := by
    split
    · rw [Lists.Has, removeFriend_targetList, removeFriend_friendList]
      exact .imp_right List.mem_of_mem_erase
    · exact id
  unfold onCreatureLeave at listed
  generalize (if around.isFriend creature then removeFriend lists creature
    else lists) = rest at friends listed
  have targets : (removeTarget rest creature).Has other → rest.Has other := by
    rw [Lists.Has, removeTarget_targetList, removeTarget_friendList]
    exact .imp_left List.mem_of_mem_erase
  dsimp only at listed
  split at listed
  · split at listed
    · exact friends (targets ((around.has_updateIdleStatus other).mp listed).1)
    · exact friends (targets listed)
  · exact friends listed

theorem setIdle_nil (empty : lists.targetList = []) (idle : Bool) :
    (around.setIdle lists idle).targetList = [] := by
  unfold setIdle
  split
  · exact empty
  · cases idle with
    | true =>
      simp [drop, empty]
    | false => exact empty

theorem onCreatureLeave_targetList (creature : Nat) :
    (around.onCreatureLeave lists creature).targetList = [] ↔
      around.targetsWithout lists creature = [] := by
  have targets : (if around.isFriend creature then removeFriend lists creature
      else lists).targetList = lists.targetList := by
    split
    · exact removeFriend_targetList
    · rfl
  unfold onCreatureLeave targetsWithout
  generalize (if around.isFriend creature then removeFriend lists creature
    else lists) = rest at targets ⊢
  dsimp only
  split
  · rw [← targets, ← removeTarget_targetList]
    split
    · next empty =>
      exact iff_of_true (around.setIdle_nil empty _) empty
    · exact .rfl
  · rw [targets]

end Surroundings

/-! ## Steps -/

/-- What holds of a world whose run is sound so far. -/
structure Invariant (world : World) : Prop extends Sound world where
  /-- The monster is on no list of its own. -/
  apart : ¬world.Has world.self
  /-- There is nothing on the lists before the monster is placed. -/
  unplaced : world.presence world.self = .unplaced → ∀ creature, ¬world.Has creature

/-- Where the creature is the only one that is new or has another place, it is the one to look
at. -/
theorem Invariant.sound_iff_of_other {world : World} (invariant : Invariant world)
    {around : Surroundings} {lists : Lists} (creature : Nat) (kept : Kept lists)
    (places : ∀ other, other ≠ creature →
      around.position other = world.position other ∧ around.presence other = world.presence other)
    (self : around.position around.self = world.position world.self)
    (listed : ∀ other, other ≠ creature → lists.Has other → world.Has other) :
    Sound ⟨around, lists⟩ ↔ (lists.Has creature →
      around.sees (around.position creature) = true ∧ around.presence creature = .onMap) := by
  refine ⟨fun sound => sound.seen creature, fun seen => ⟨kept, fun other isListed => ?_⟩⟩
  by_cases same : other = creature
  · exact same ▸ seen (same ▸ isListed)
  · have before := invariant.seen other (listed other same isListed)
    obtain ⟨position, presence⟩ := places other same
    rw [position, presence, Surroundings.sees, self]
    exact before

/-- What a step does: it is sound exactly where the guard is met, and the monster is on no list
of its own. -/
structure Exact (world after : World) (guard : Prop) : Prop where
  sound_iff : Sound after ↔ guard
  apart : ¬after.Has after.self
  unplaced : after.presence after.self = .unplaced → ∀ creature, ¬after.Has creature

/-- **After `updateTargetList`** the lists are sound. -/
theorem sound_updateTargetList {around : Surroundings} {lists : Lists} {spectators : List Nat}
    (kept : Kept lists)
    (onMap : ∀ creature, lists.Has creature ∨ creature ∈ spectators ∧ creature ≠ around.self →
      around.presence creature = .onMap ∧ creature ≠ around.self) :
    Sound ⟨around, around.updateIdleStatus (around.updateTargetList lists spectators)⟩ ∧
      ¬(around.updateIdleStatus (around.updateTargetList lists spectators)).Has around.self := by
  have listed : ∀ creature,
      (around.updateIdleStatus (around.updateTargetList lists spectators)).Has creature →
        around.sees (around.position creature) = true ∧
          (lists.Has creature ∨ creature ∈ spectators ∧ creature ≠ around.self) :=
    fun creature isListed => around.of_has_updateTargetList
      ((around.has_updateIdleStatus creature).mp isListed).1
  refine ⟨⟨(kept.updateTargetList around spectators).updateIdleStatus around, ?_⟩, ?_⟩
  · intro creature isListed
    obtain ⟨seen, known⟩ := listed creature isListed
    exact ⟨seen, (onMap creature known).1⟩
  · intro isListed
    exact (onMap _ (listed _ isListed).2).2 rfl

namespace Invariant

variable {world : World} {creature : Nat} {newPos : Position} {handled : Bool}

theorem ne_self (invariant : Invariant world) (listed : world.Has creature) :
    creature ≠ world.self :=
  fun same => invariant.apart (same ▸ listed)

theorem appear (invariant : Invariant world) {pos : Position} {spectators : List Nat}
    (legal : system.legal world (.appear creature pos spectators handled)) :
    Exact world (world.onCreatureAppear creature pos spectators handled) True := by
  obtain ⟨isNew, placed, found⟩ := legal
  by_cases isSelf : creature = world.self
  · subst isSelf
    have empty : ∀ other, ¬world.Has other := invariant.unplaced isNew
    have isOnMap : update world.presence world.self .onMap world.self = .onMap :=
      update_self _ _ _
    unfold World.onCreatureAppear
    cases handled with
    | true =>
      refine ⟨iff_of_true ⟨invariant.toKept, fun other listed => ?_⟩ trivial, ?_, ?_⟩
      · exact absurd listed (empty other)
      · exact empty world.self
      · exact fun _ => empty
    | false =>
      rw [if_neg Bool.false_ne_true, if_pos rfl]
      generalize isAround : (world.setPosition world.self pos).setPresence world.self .onMap =
        around
      have self : around.self = world.self := isAround ▸ rfl
      have updated := @sound_updateTargetList around world.toLists spectators invariant.toKept
        (by
          intro other known
          obtain ⟨inside, notSelf⟩ := known.resolve_left (empty other)
          refine ⟨?_, notSelf⟩
          rw [self] at notSelf
          rw [← isAround]
          show update world.presence world.self .onMap other = .onMap
          rw [update_of_ne notSelf]
          exact (found other inside).resolve_left notSelf)
      refine ⟨iff_of_true updated.1 trivial, updated.2, fun isUnplaced => ?_⟩
      have onMap : around.presence around.self = .onMap := by
        rw [← isAround]
        exact isOnMap
      exact absurd (onMap.symm.trans isUnplaced) (by decide)
  · have selfOnMap := placed.resolve_left isSelf
    have absent : ¬world.Has creature := by
      intro listed
      have onMap := (invariant.seen creature listed).2
      rw [isNew] at onMap
      cases onMap
    have notUnplaced : ((world.setPosition creature pos).setPresence creature .onMap).presence
        world.self ≠ .unplaced := by
      show update world.presence creature .onMap world.self ≠ .unplaced
      rw [update_of_ne (Ne.symm isSelf), selfOnMap]
      decide
    have places : ∀ other, other ≠ creature →
        ((world.setPosition creature pos).setPresence creature .onMap).position other =
            world.position other ∧
          ((world.setPosition creature pos).setPresence creature .onMap).presence other =
            world.presence other :=
      fun other apart => ⟨update_of_ne apart _ _, update_of_ne apart _ _⟩
    unfold World.onCreatureAppear
    cases handled with
    | true =>
      refine ⟨?_, invariant.apart, fun isUnplaced => absurd isUnplaced notUnplaced⟩
      refine iff_of_true ?_ trivial
      refine (invariant.sound_iff_of_other creature invariant.toKept places
        (places _ (.symm isSelf)).1 fun _ _ listed => listed).mpr ?_
      exact fun listed => absurd listed absent
    | false =>
      rw [if_neg Bool.false_ne_true, if_neg isSelf]
      have entered : ∀ other,
          (((world.setPosition creature pos).setPresence creature .onMap).onCreatureEnter
            world.toLists creature).Has other → world.Has other ∨ other = creature ∧
              ((world.setPosition creature pos).setPresence creature .onMap).sees
                (((world.setPosition creature pos).setPresence creature .onMap).position
                  creature) = true := by
        intro other listed
        exact (Surroundings.of_has_found _ listed).imp_right fun both => ⟨both.1, both.2.2⟩
      refine ⟨?_, fun listed => ?_, fun isUnplaced => absurd isUnplaced notUnplaced⟩
      · refine iff_of_true ?_ trivial
        refine (invariant.sound_iff_of_other creature
          (invariant.toKept.onCreatureFound _ creature true) places
          (places _ (.symm isSelf)).1 fun other apart listed =>
            (entered other listed).resolve_right fun both => apart both.1).mpr ?_
        intro listed
        have seen := ((entered creature listed).resolve_left absent).2
        exact ⟨seen, update_self _ _ _⟩
      · rcases entered _ listed with before | ⟨same, -⟩
        · exact invariant.apart before
        · exact isSelf same.symm

theorem ownMove (invariant : Invariant world)
    {spectators : Position → List Nat} {handled handledAgain : Bool}
    (legal : system.legal world (.ownMove newPos spectators handled handledAgain)) :
    Exact world (world.onOwnMove newPos spectators handled handledAgain)
      (LeavesLists world (.ownMove newPos spectators handled handledAgain)) := by
  obtain ⟨selfOnMap, found⟩ := legal
  have notUnplaced : world.presence world.self ≠ .unplaced := by
    rw [selfOnMap]
    decide
  -- What a look around after the move finds is sound, wherever the monster is then.
  have updated : ∀ (around : Surroundings) (lists : Lists) (pos : Position), Kept lists →
      around.self = world.self → around.presence = world.presence →
      (∀ creature, lists.Has creature → around.presence creature = .onMap ∧
        creature ≠ around.self) →
      Sound ⟨around, around.updateIdleStatus (around.updateTargetList lists (spectators pos))⟩ ∧
        ¬(around.updateIdleStatus
          (around.updateTargetList lists (spectators pos))).Has around.self := by
    intro around lists pos kept self presence onMap
    refine sound_updateTargetList kept fun creature known => ?_
    rcases known with before | ⟨inside, notSelf⟩
    · exact onMap creature before
    · exact ⟨presence ▸ found pos creature inside, notSelf⟩
  have before : ∀ creature, world.Has creature →
      world.presence creature = .onMap ∧ creature ≠ world.self :=
    fun creature listed => ⟨(invariant.seen creature listed).2, invariant.ne_self listed⟩
  unfold World.onOwnMove
  cases handled with
  | true =>
    refine ⟨?_, invariant.apart, fun isUnplaced => absurd isUnplaced notUnplaced⟩
    have atNew : ∀ creature, world.Has creature →
        ((world.setPosition world.self newPos).sees
            ((world.setPosition world.self newPos).position creature) =
          canSee newPos (world.position creature)) := by
      intro creature listed
      show canSee (update world.position world.self newPos world.self)
        (update world.position world.self newPos creature) = _
      rw [update_self, update_of_ne (invariant.ne_self listed)]
    constructor
    · intro sound
      refine .inr fun creature listed => ?_
      rw [← atNew creature listed]
      exact (sound.seen creature listed).1
    · rintro (isFalse | sees)
      · cases isFalse
      · refine ⟨invariant.toKept, fun creature listed => ?_⟩
        exact ⟨(atNew creature listed).trans (sees creature listed), (before creature listed).1⟩
  | false =>
    rw [if_neg Bool.false_ne_true]
    cases World.guardianTo (world.setPosition world.self newPos) newPos with
    | none =>
      have sound := updated (world.setPosition world.self newPos) world.toLists newPos
        invariant.toKept rfl rfl before
      exact ⟨iff_of_true sound.1 (.inl rfl), sound.2,
        fun isUnplaced => absurd isUnplaced notUnplaced⟩
    | some pos =>
      let around := (world.setPosition world.self newPos).setPosition world.self pos
      have sound : ∀ lists : Lists, Kept lists →
          (∀ creature, lists.Has creature →
            world.presence creature = .onMap ∧ creature ≠ world.self) →
          Exact world ⟨around,
              around.updateIdleStatus (around.updateTargetList lists (spectators pos))⟩
            (LeavesLists world (.ownMove newPos spectators false handledAgain)) := by
        intro lists kept known
        have sound := updated around lists pos kept rfl rfl known
        exact ⟨iff_of_true sound.1 (.inl rfl), sound.2,
          fun isUnplaced => absurd isUnplaced notUnplaced⟩
      cases handledAgain with
      | true => exact sound world.toLists invariant.toKept before
      | false =>
        have first := updated around world.toLists pos invariant.toKept rfl rfl before
        refine sound _ first.1.toKept fun creature listed => ?_
        exact ⟨(first.1.seen creature listed).2, fun same => first.2 (same ▸ listed)⟩

/-- The creature has left both lists exactly where the guard is met. -/
theorem leaves_iff (unseen : world.sees newPos = false) :
    ¬((world.Stays world.toLists creature ∧ ¬(world.isOpponent creature = true ∧
        world.GoesIdle ∧ world.targetList.erase creature = [])) ∧
          ¬(world.GoesIdle ∧ world.targetsWithout world.toLists creature = [])) ↔
      LeavesLists world (.move creature newPos false) := by
  have without : world.isOpponent creature = true ∧ world.GoesIdle ∧
      world.targetList.erase creature = [] →
        world.GoesIdle ∧ world.targetsWithout world.toLists creature = [] := by
    rintro ⟨opponent, idle, empty⟩
    refine ⟨idle, ?_⟩
    rw [Surroundings.targetsWithout, if_pos opponent]
    exact empty
  constructor
  · intro gone
    refine .inr (.inr ⟨rfl, ?_⟩)
    by_contra neither
    obtain ⟨stays, notIdle⟩ := not_or.mp neither
    exact gone ⟨⟨not_not.mp stays, fun leaves => notIdle (without leaves)⟩, notIdle⟩
  · rintro (sees | absent | ⟨-, leaves | idle⟩) ⟨⟨stays, -⟩, notIdle⟩
    · rw [unseen] at sees
      cases sees
    · exact absent (stays.elim (fun friend => .inr friend.1) fun target => .inl target.1)
    · exact leaves stays
    · exact notIdle idle

/-- **Another creature moves**: the lists are sound if it is in sight, or on none of them. -/
theorem move (invariant : Invariant world)
    (legal : system.legal world (.move creature newPos handled)) :
    Exact world (world.onCreatureMove creature newPos handled)
      (LeavesLists world (.move creature newPos handled)) := by
  obtain ⟨notSelf, onMap, selfOnMap⟩ := legal
  have notUnplaced : world.presence world.self ≠ .unplaced := by
    rw [selfOnMap]
    decide
  have selfStays : update world.position creature newPos world.self =
      world.position world.self := update_of_ne notSelf.symm _ _
  have sees : ∀ pos, (world.setPosition creature newPos).sees pos = world.sees pos := by
    intro pos
    show canSee (update world.position creature newPos world.self) pos = _
    rw [selfStays]
    rfl
  -- Only the creature that moved is new on the lists or anywhere else.
  have afterwards : ∀ lists : Lists, Kept lists →
      (∀ other, other ≠ creature → lists.Has other → world.Has other) →
      ∀ guard : Prop, ((lists.Has creature → world.sees newPos = true) ↔ guard) →
        Exact world ⟨world.setPosition creature newPos, lists⟩ guard := by
    intro lists kept listed guard iff_guard
    refine ⟨?_, fun isListed => ?_, fun isUnplaced => absurd isUnplaced notUnplaced⟩
    · rw [@sound_iff_of_other world invariant (world.setPosition creature newPos) lists creature kept
        (fun other apart => ⟨update_of_ne apart _ _, rfl⟩) selfStays listed, ← iff_guard]
      refine forall_congr' fun _ => ?_
      show (world.setPosition creature newPos).sees
        (update world.position creature newPos creature) = true ∧ _ ↔ _
      rw [update_self, sees]
      exact and_iff_left onMap
    · exact invariant.apart (listed _ notSelf.symm isListed)
  unfold World.onCreatureMove
  cases handled with
  | true =>
    refine afterwards _ invariant.toKept (fun _ _ listed => listed) _ ?_
    simp only [LeavesLists, Bool.true_eq_false, false_and, or_false]
    exact imp_iff_or_not
  | false =>
    rw [if_neg Bool.false_ne_true, sees, sees]
    cases seesNew : world.sees newPos with
    | true =>
      have guard : LeavesLists world (.move creature newPos false) := .inl seesNew
      cases seesOld : world.sees (world.position creature) with
      | true =>
        refine afterwards _ (invariant.toKept.updateIdleStatus _)
          (fun other _ listed => (Surroundings.has_updateIdleStatus _ other).mp listed |>.1)
          _ (iff_of_true (fun _ => seesNew) guard)
      | false =>
        refine afterwards _ ((invariant.toKept.onCreatureFound _ _ _).updateIdleStatus _)
          (fun other apart listed => ?_) _ (iff_of_true (fun _ => seesNew) guard)
        have found := ((Surroundings.has_updateIdleStatus _ other).mp listed).1
        exact (Surroundings.of_has_found _ found).resolve_right fun both => apart both.1
    | false =>
      have toGuard : ∀ lists : Lists,
          (¬lists.Has creature ↔ LeavesLists world (.move creature newPos false)) →
            ((lists.Has creature → world.sees newPos = true) ↔
              LeavesLists world (.move creature newPos false)) := by
        intro lists absent
        rw [← absent, seesNew]
        simp
      cases seesOld : world.sees (world.position creature) with
      | true =>
        refine afterwards _ ((invariant.toKept.onCreatureLeave _ _).updateIdleStatus _)
          (fun other _ listed => ?_) _ (toGuard _ ?_)
        · have left := ((Surroundings.has_updateIdleStatus _ other).mp listed).1
          exact Surroundings.of_has_onCreatureLeave _ left
        · rw [Surroundings.has_updateIdleStatus,
            Surroundings.has_onCreatureLeave _ invariant.toKept,
            Surroundings.onCreatureLeave_targetList]
          exact leaves_iff seesNew
      | false =>
        have absent : ¬world.Has creature := by
          intro listed
          have seen := (invariant.seen creature listed).1
          rw [seesOld] at seen
          cases seen
        refine afterwards _ (invariant.toKept.updateIdleStatus _)
          (fun other _ listed => (Surroundings.has_updateIdleStatus _ other).mp listed |>.1)
          _ (toGuard _ (iff_of_true (fun listed => absent ?_) (.inr (.inl absent))))
        exact ((Surroundings.has_updateIdleStatus _ creature).mp listed).1

/-- **A creature is removed**: the lists are sound if it is on none of them. -/
theorem remove (invariant : Invariant world)
    (legal : system.legal world (.remove creature handled)) :
    Exact world (world.onRemoveCreature creature handled)
      (LeavesLists world (.remove creature handled)) := by
  obtain ⟨-, selfOnMap⟩ := legal
  have removed : update world.presence creature .removed creature = .removed :=
    update_self _ _ _
  have notUnplaced : update world.presence creature .removed world.self ≠ .unplaced := by
    by_cases same : world.self = creature
    · rw [same, removed]
      decide
    · rw [update_of_ne same, selfOnMap]
      decide
  -- The lists are sound where the creature is not on them.
  have afterwards : ∀ lists : Lists, Kept lists →
      (∀ other, lists.Has other → world.Has other) →
      ∀ guard : Prop, (¬lists.Has creature ↔ guard) →
        Exact world ⟨world.setPresence creature .removed, lists⟩ guard := by
    intro lists kept listed guard iff_guard
    refine ⟨?_, fun isListed => invariant.apart (listed _ isListed),
      fun isUnplaced => absurd isUnplaced notUnplaced⟩
    rw [← iff_guard]
    constructor
    · intro sound isListed
      have onMap := (sound.seen creature isListed).2
      exact absurd (removed.symm.trans onMap) (by decide)
    · intro absent
      refine ⟨kept, fun other isListed => ?_⟩
      have apart : other ≠ creature := fun same => absent (same ▸ isListed)
      refine ⟨(invariant.seen other (listed other isListed)).1, ?_⟩
      show update world.presence creature .removed other = .onMap
      rw [update_of_ne apart]
      exact (invariant.seen other (listed other isListed)).2
  unfold World.onRemoveCreature
  cases handled with
  | true =>
    refine afterwards _ invariant.toKept (fun _ listed => listed) _ ?_
    simp [LeavesLists]
  | false =>
    by_cases isSelf : creature = world.self
    · rw [if_pos isSelf]
      have fewer : ∀ other, (world.setIdle world.toLists true).Has other → world.Has other := by
        intro other listed
        unfold Surroundings.setIdle at listed
        split at listed
        · exact listed
        · exact ((Surroundings.has_drop _ other).mp listed).1
      have absent : ¬world.Has creature := isSelf ▸ invariant.apart
      exact afterwards _ (invariant.toKept.setIdle _ _) fewer _
        (iff_of_true (fun listed => absent (fewer _ listed)) (.inl absent))
    · rw [if_neg isSelf]
      refine afterwards _ (invariant.toKept.onCreatureLeave _ _)
        (fun other listed => Surroundings.of_has_onCreatureLeave _ listed) _ ?_
      rw [Surroundings.has_onCreatureLeave _ invariant.toKept]
      constructor
      · intro gone
        refine .inr ⟨rfl, or_iff_not_imp_right.mpr fun notIdle stays => gone ⟨stays, notIdle⟩⟩
      · rintro (absent | ⟨-, leaves | idle⟩) ⟨stays, notIdle⟩
        · exact absent (stays.elim (fun friend => .inr friend.1) fun target => .inl target.1)
        · exact leaves stays
        · exact notIdle idle

theorem of_has_follow {around : Surroundings} {lists : Lists} {creature other : Nat}
    {hasFollowPath : Bool}
    (listed : (around.onFollowCreatureComplete lists creature hasFollowPath).Has other) :
    lists.Has other := by
  unfold Surroundings.onFollowCreatureComplete at listed
  split at listed
  · next isTarget =>
    have fewer : ∀ found, found = creature ∨ found ∈ lists.targetList.erase creature →
        found ∈ lists.targetList := by
      rintro found (rfl | inside)
      · exact isTarget
      · exact List.mem_of_mem_erase inside
    split at listed
    · exact listed.imp_left fun inside => fewer other (List.mem_cons.mp inside)
    · split at listed
      · refine listed.imp_left fun inside => fewer other ?_
        exact (List.mem_append.mp inside).elim .inr fun last => .inl (List.mem_singleton.mp last)
      · exact listed.imp_left List.mem_of_mem_erase
  · exact listed

/-- **One step** is sound exactly where the guard is met. -/
theorem step (invariant : Invariant world) {op : Op} (legal : system.legal world op) :
    Exact world (system.step world op) (LeavesLists world op) := by
  cases op with
  | appear creature pos spectators handled => exact invariant.appear legal
  | move creature newPos handled => exact invariant.move legal
  | ownMove newPos spectators handled handledAgain => exact invariant.ownMove legal
  | remove creature handled => exact invariant.remove legal
  | change creature traits =>
    exact ⟨iff_of_true ⟨invariant.toKept, invariant.seen⟩ trivial, invariant.apart,
      invariant.unplaced⟩
  | follow creature hasFollowPath =>
    have kept := invariant.toKept.onFollowCreatureComplete world.toSurroundings creature
      hasFollowPath
    refine ⟨iff_of_true ⟨kept, fun other listed => ?_⟩ trivial, fun listed => ?_,
      fun isUnplaced => ?_⟩
    · exact invariant.seen other (of_has_follow listed)
    · exact invariant.apart (of_has_follow listed)
    · have selfOnMap : world.presence world.self = .onMap := legal
      exact absurd (selfOnMap.symm.trans isUnplaced) (by decide)

end Invariant

/-- The creatures, with nothing on the lists of the monster yet. -/
def World.begin (around : Surroundings) : World := ⟨around, {}⟩

/-- **The lists hold what the monster sees**, each creature once and with one reference for each
list, exactly where no creature leaves that is on a list its relation is not of, unless the
monster goes idle, and no script handles that a listed creature leaves. -/
theorem lists_sound_iff {around : Surroundings} {ops : List Op}
    (legal : system.Legal (World.begin around) ops) :
    system.Throughout (fun _ _ after => Sound after) (World.begin around) ops ↔
      system.Throughout (fun before op _ => LeavesLists before op) (World.begin around) ops := by
  have nothing : ∀ creature, ¬(World.begin around).Has creature := by
    rintro creature (target | friend)
    · cases target
    · cases friend
  have kept : Kept (World.begin around).toLists :=
    ⟨List.nodup_nil, List.nodup_nil, fun _ => rfl⟩
  have initial : Invariant (.begin around) :=
    ⟨⟨kept, fun creature listed => absurd listed (nothing creature)⟩, nothing _,
      fun _ => nothing⟩
  have step : ∀ before op, Invariant before → system.legal before op →
      (Sound (system.step before op) ↔ LeavesLists before op) ∧
        (Sound (system.step before op) → Invariant (system.step before op)) := by
    intro before op invariant allowed
    have exact_ := invariant.step allowed
    exact ⟨exact_.sound_iff, fun sound => ⟨sound, exact_.apart, exact_.unplaced⟩⟩
  exact System.Throughout.iff_of_invariant step initial legal

/-- A monster and a trainer, who are not on the map yet. -/
def meadow : Surroundings where
  self := 0
  traits creature := if creature = 0 then { kind := .monster } else { kind := .player ⟨7, false, none⟩ }
  position _ := ⟨100, 100, 7⟩
  presence _ := .unplaced

/-- The trainer comes by and walks off. -/
def walksBy : List Op :=
  [.appear 0 ⟨100, 100, 7⟩ [] false, .appear 1 ⟨103, 100, 7⟩ [] false,
    .move 1 ⟨130, 100, 7⟩ false]

theorem lists_sound_iff_meadow :
    system.Throughout (fun _ _ after => Sound after) (World.begin meadow) walksBy ↔
      system.Throughout (fun before op _ => LeavesLists before op) (World.begin meadow) walksBy :=
  lists_sound_iff ⟨⟨by decide, by decide, by decide⟩, ⟨by decide, by decide, by decide⟩,
    ⟨by decide, by decide, by decide⟩, trivial⟩

/-- The trainer sends a summon out before walking off, and stays a target. -/
theorem target_out_of_sight :
    ∃ ops, system.Legal (World.begin meadow) ops ∧
      ¬Sound (system.run (World.begin meadow) ops) ∧
      (system.run (World.begin meadow) ops).targetList = [1] ∧
      canSee ((system.run (World.begin meadow) ops).position 0)
        ((system.run (World.begin meadow) ops).position 1) = false := by
  refine ⟨[.appear 0 ⟨100, 100, 7⟩ [] false, .appear 1 ⟨103, 100, 7⟩ [] false,
    .change 1 { kind := .player ⟨7, false, none⟩, summonCount := 1 },
    .move 1 ⟨130, 100, 7⟩ false], ?_, ?_, by decide, by decide⟩
  · exact ⟨⟨by decide, by decide, by decide⟩, ⟨by decide, by decide, by decide⟩, trivial,
      ⟨by decide, by decide, by decide⟩, trivial⟩
  · intro sound
    exact absurd (sound.seen 1 (.inl (by decide))).1 (by decide)

end Otserv.Monsters
