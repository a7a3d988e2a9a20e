import Mathlib.Algebra.Order.BigOperators.Group.Finset
import Otserv.Checks.CreatureCheck

/-!
# The checks over whole runs

Each creature stands in at most one of the lists and there once, its flag says whether it does,
and each entry holds one reference (`Agree`).

A creature that is checked throughout keeps its list, since only a creature whose flag is cleared
leaves one. The calls take the lists in turn, and a call passes each entry of its list once; so
how often the creature was made to think is how often its list came up, but for the call that has
not reached it yet (`Round`), and ten calls make it think once (`checks_sound`).
-/

namespace Otserv.Checks

open Foundation
open Function (update_self update_of_ne update)

/-- The lists, the flags and the references agree. -/
structure Agree (game : Game) : Prop where
  nodup : ∀ index, (game.checkCreatureLists index).Nodup
  one : ∀ creature index other, creature ∈ game.checkCreatureLists index →
    creature ∈ game.checkCreatureLists other → index = other
  listed_iff : ∀ creature, (game.creatures creature).inCheckCreaturesVector = true ↔
    ∃ index, creature ∈ game.checkCreatureLists index
  /-- Each entry of a list and each release holds one reference. -/
  references : ∀ creature, (game.creatures creature).referenceCounter =
    (game.creatures creature).held + game.toReleaseCreatures.count creature +
      ∑ index, (game.checkCreatureLists index).count creature

/-- The creature is listed, to be checked and alive. -/
structure Active (game : Game) (creature : Nat) : Prop where
  listed : ∃ index, creature ∈ game.checkCreatureLists index
  checked : (game.creatures creature).creatureCheck = true
  alive : 0 < (game.creatures creature).health

instance decidableActive (game : Game) (creature : Nat) : Decidable (Active game creature) :=
  decidable_of_iff
    ((∃ index, creature ∈ game.checkCreatureLists index) ∧
      (game.creatures creature).creatureCheck = true ∧ 0 < (game.creatures creature).health)
    ⟨fun ⟨listed, checked, alive⟩ => ⟨listed, checked, alive⟩,
      fun ⟨listed, checked, alive⟩ => ⟨listed, checked, alive⟩⟩

/-- Nothing is to be checked yet. -/
structure Started (game : Game) : Prop where
  empty : ∀ index, game.checkCreatureLists index = []
  released : game.toReleaseCreatures = []
  idle : game.loop = none
  unlisted : ∀ creature, (game.creatures creature).inCheckCreaturesVector = false
  unchecked : ∀ creature, (game.creatures creature).creatureCheck = false
  held : ∀ creature, (game.creatures creature).referenceCounter = (game.creatures creature).held

namespace Game

variable (game : Game) (creature : Nat)

@[simp] theorem setCreature_self (value : Creature) :
    (game.setCreature creature value).creatures creature = value :=
  update_self ..

@[simp] theorem setCreature_setCreature (value other : Creature) :
    (game.setCreature creature value).setCreature creature other =
      game.setCreature creature other := by
  simp [setCreature]

theorem setCreature_of_ne {creature other : Nat} (value : Creature) (apart : other ≠ creature) :
    (game.setCreature creature value).creatures other = game.creatures other :=
  update_of_ne apart ..

variable (index : Fin EVENT_CREATURECOUNT) (list : List Nat)

@[simp] theorem setList_self : (game.setList index list).checkCreatureLists index = list :=
  update_self ..

theorem setList_of_ne {index other : Fin EVENT_CREATURECOUNT} (list : List Nat)
    (apart : other ≠ index) :
    (game.setList index list).checkCreatureLists other = game.checkCreatureLists other :=
  update_of_ne apart ..

@[simp] theorem setList_creatures : (game.setList index list).creatures = game.creatures := rfl

@[simp] theorem listings_setCreature (creature other : Nat) (value : Creature) :
    (game.setCreature creature value).listings other = game.listings other := rfl

@[simp] theorem listings_setList_setCreature (creature other : Nat) (value : Creature)
    (index : Fin EVENT_CREATURECOUNT) (list : List Nat) :
    ((game.setCreature creature value).setList index list).listings other =
      (game.setList index list).listings other := rfl

theorem count_releaseCreature (creature other : Nat) :
    (game.releaseCreature creature).toReleaseCreatures.count other =
      game.toReleaseCreatures.count other + if other = creature then 1 else 0 := by
  rw [releaseCreature, List.count_append, List.count_singleton]
  by_cases same : other = creature
  · simp [same]
  · simp [same, Ne.symm same]

theorem listings_append (creature other : Nat) :
    (game.setList index (game.checkCreatureLists index ++ [creature])).listings other =
      game.listings other + if other = creature then 1 else 0 :=
  BucketQueue.count_append ⟨[], game.checkCreatureLists⟩ index creature other

theorem listings_setList (creature : Nat) :
    (game.setList index list).listings creature +
        (game.checkCreatureLists index).count creature =
      game.listings creature + list.count creature :=
  BucketQueue.count_setBucket ⟨[], game.checkCreatureLists⟩ index list creature

theorem count_le_listings (creature : Nat) :
    (game.checkCreatureLists index).count creature ≤ game.listings creature :=
  BucketQueue.count_bucket_le ⟨[], game.checkCreatureLists⟩ index creature

theorem listings_pos_iff :
    0 < game.listings creature ↔ ∃ index, creature ∈ game.checkCreatureLists index := by
  constructor
  · intro positive
    by_contra none
    have absent : ∀ index, (game.checkCreatureLists index).count creature = 0 := fun index =>
      List.count_eq_zero.mpr fun member => none ⟨index, member⟩
    simp [listings, BucketQueue.count, absent] at positive
  · rintro ⟨index, member⟩
    exact (List.count_pos_iff.mpr member).trans_le (game.count_le_listings index creature)

theorem listings_eraseIdx {index : Fin EVENT_CREATURECOUNT} {place creature : Nat}
    (found : (game.checkCreatureLists index)[place]? = some creature) (other : Nat) :
    (game.setList index ((game.checkCreatureLists index).eraseIdx place)).listings other +
        (if other = creature then 1 else 0) = game.listings other := by
  have exchanged := game.listings_setList index
    ((game.checkCreatureLists index).eraseIdx place) other
  obtain ⟨within, value⟩ := List.getElem?_eq_some_iff.mp found
  have split := (List.getElem_cons_eraseIdx_perm within).count_eq other
  rw [value, List.count_cons] at split
  by_cases same : other = creature
  · subst same
    simp only [beq_self_eq_true, if_true] at split ⊢
    omega
  · have apart : (creature == other) = false := by simpa using Ne.symm same
    simp only [apart, Bool.false_eq_true, if_false] at split
    rw [if_neg same]
    omega

theorem creatures_foldl_decrement (released : List Nat) (creature : Nat) :
    (released.foldl decrementReferenceCounter game).creatures creature =
      { game.creatures creature with
        referenceCounter :=
          (game.creatures creature).referenceCounter - released.count creature } := by
  induction released generalizing game with
  | nil => rfl
  | cons first released ih =>
    rw [List.foldl_cons, ih, decrementReferenceCounter, List.count_cons]
    by_cases same : creature = first
    · subst same
      simp [Nat.sub_sub, Nat.add_comm]
    · rw [setCreature_of_ne _ _ same]
      simp [Ne.symm same]

theorem foldl_decrement_fields (released : List Nat) :
    (released.foldl decrementReferenceCounter game) =
      { game with creatures := (released.foldl decrementReferenceCounter game).creatures } := by
  induction released generalizing game with
  | nil => rfl
  | cons first released ih => exact ih (game.decrementReferenceCounter first)

@[simp] theorem creatures_cleanup :
    game.cleanup.creatures creature =
      { game.creatures creature with
        referenceCounter := (game.creatures creature).referenceCounter -
          game.toReleaseCreatures.count creature } :=
  game.creatures_foldl_decrement ..

theorem cleanup_eq :
    game.cleanup =
      { game with creatures := game.cleanup.creatures, toReleaseCreatures := [] } := by
  rw [cleanup, foldl_decrement_fields]

end Game

/-! ## The invariant -/

structure Invariant (game : Game) : Prop where
  listings : ∀ creature, game.listings creature =
    if (game.creatures creature).inCheckCreaturesVector = true then 1 else 0
  checked : ∀ creature, (game.creatures creature).creatureCheck = true →
    (game.creatures creature).inCheckCreaturesVector = true
  counted : ∀ creature, (game.creatures creature).referenceCounter =
    (game.creatures creature).held + game.toReleaseCreatures.count creature +
      game.listings creature

namespace Invariant

variable {game : Game}

theorem of_started (started : Started game) : Invariant game where
  listings creature := by
    simp [Game.listings, BucketQueue.count, started.empty, started.unlisted]
  checked creature checked := by simp [started.unchecked] at checked
  counted creature := by
    simp [Game.listings, BucketQueue.count, started.empty, started.released, started.held]

section

variable (invariant : Invariant game)
include invariant

theorem listed_iff (creature : Nat) :
    (game.creatures creature).inCheckCreaturesVector = true ↔
      ∃ index, creature ∈ game.checkCreatureLists index := by
  rw [← game.listings_pos_iff, invariant.listings]
  split <;> simp_all

theorem listings_le_one (creature : Nat) : game.listings creature ≤ 1 := by
  rw [invariant.listings]
  split <;> simp

theorem nodup (index : Fin EVENT_CREATURECOUNT) : (game.checkCreatureLists index).Nodup :=
  List.nodup_iff_count_le_one.mpr fun creature =>
    (game.count_le_listings index creature).trans (invariant.listings_le_one creature)

variable {creature : Nat}

theorem one {index other : Fin EVENT_CREATURECOUNT}
    (here : creature ∈ game.checkCreatureLists index)
    (there : creature ∈ game.checkCreatureLists other) : index = other := by
  by_contra apart
  have both := Finset.sum_le_sum_of_subset (M := Nat)
    (Finset.subset_univ ({index, other} : Finset (Fin EVENT_CREATURECOUNT)))
    (f := fun each => (game.checkCreatureLists each).count creature)
  rw [Finset.sum_pair apart] at both
  have once := invariant.listings_le_one creature
  have first := List.count_pos_iff.mpr here
  have second := List.count_pos_iff.mpr there
  simp only [Game.listings, BucketQueue.count, List.count_nil, Nat.zero_add] at once
  omega

theorem agree : Agree game where
  nodup := invariant.nodup
  one _ _ _ here there := invariant.one here there
  listed_iff := invariant.listed_iff
  references creature := by
    rw [invariant.counted, Game.listings, BucketQueue.count, List.count_nil, Nat.zero_add]

/-- A step that concerns one creature. -/
theorem of_local {after : Game} (creature : Nat)
    (creatures : ∀ other, other ≠ creature → after.creatures other = game.creatures other)
    (listings : ∀ other, other ≠ creature → after.listings other = game.listings other)
    (released : ∀ other, other ≠ creature →
      after.toReleaseCreatures.count other = game.toReleaseCreatures.count other)
    (listed : after.listings creature =
      if (after.creatures creature).inCheckCreaturesVector = true then 1 else 0)
    (checked : (after.creatures creature).creatureCheck = true →
      (after.creatures creature).inCheckCreaturesVector = true)
    (counted : (after.creatures creature).referenceCounter =
      (after.creatures creature).held + after.toReleaseCreatures.count creature +
        after.listings creature) : Invariant after where
  listings other := by
    by_cases same : other = creature
    · rw [same, listed]
    · rw [listings other same, creatures other same, invariant.listings]
  checked other := by
    by_cases same : other = creature
    · rw [same]
      exact checked
    · rw [creatures other same]
      exact invariant.checked other
  counted other := by
    by_cases same : other = creature
    · rw [same, counted]
    · rw [creatures other same, listings other same, released other same, invariant.counted]

/-- A change that concerns neither the flags nor the references. -/
theorem setCreature {value : Creature}
    (listed : value.inCheckCreaturesVector = (game.creatures creature).inCheckCreaturesVector)
    (checked : value.creatureCheck = true → value.inCheckCreaturesVector = true)
    (counted : value.referenceCounter =
      value.held + game.toReleaseCreatures.count creature + game.listings creature) :
    Invariant (game.setCreature creature value) := by
  refine invariant.of_local creature (fun other => game.setCreature_of_ne value)
    (fun _ _ => rfl) (fun _ _ => rfl) ?_ ?_ ?_
  · rw [Game.setCreature_self, listed]
    exact invariant.listings creature
  · rw [Game.setCreature_self]
    exact checked
  · rw [Game.setCreature_self]
    exact counted

theorem addCreatureCheck (creature : Nat) (random : Fin EVENT_CREATURECOUNT) :
    Invariant (game.addCreatureCheck creature random) := by
  rw [Game.addCreatureCheck]
  split
  · rename_i listed
    exact invariant.setCreature rfl (fun _ => listed) (invariant.counted creature)
  · rename_i unlisted
    have fresh := invariant.listings creature
    rw [if_neg unlisted] at fresh
    have appended := game.listings_append random creature
    have counted := invariant.counted creature
    refine invariant.of_local creature (fun other apart => game.setCreature_of_ne _ apart)
      (fun other apart => ?_) (fun _ _ => rfl) ?_ (fun _ => ?_) ?_
    · rw [Game.listings_setList_setCreature, appended, if_neg apart, Nat.add_zero]
    · rw [Game.listings_setList_setCreature, appended, if_pos rfl, fresh]
      simp
    · simp
    · rw [Game.listings_setList_setCreature, appended, if_pos rfl, fresh]
      rw [fresh] at counted
      simpa [Game.setCreature, Game.setList] using counted

theorem removeCreatureCheck (creature : Nat) : Invariant (game.removeCreatureCheck creature) := by
  rw [Game.removeCreatureCheck]
  split
  · refine invariant.setCreature rfl (fun checked => ?_) (invariant.counted creature)
    cases checked
  · exact invariant

theorem cleanup : Invariant game.cleanup where
  listings creature := by
    rw [Game.cleanup_eq]
    simpa [Game.listings] using invariant.listings creature
  checked creature := by simpa using invariant.checked creature
  counted creature := by
    have counted := invariant.counted creature
    rw [Game.cleanup_eq]
    simp only [Game.listings, Game.creatures_cleanup, List.count_nil] at counted ⊢
    omega

theorem advance (loop : Loop) : Invariant (game.advance loop) :=
  ⟨invariant.listings, invariant.checked, invariant.counted⟩

/-- The reference of an entry that is erased waits to be released. -/
theorem unlist {loop : Loop}
    (found : (game.checkCreatureLists loop.index)[loop.place]? = some creature)
    (unchecked : (game.creatures creature).creatureCheck = false) :
    Invariant (game.unlist loop creature) := by
  have listed : (game.creatures creature).inCheckCreaturesVector = true :=
    (invariant.listed_iff creature).mpr ⟨loop.index, List.mem_of_getElem? found⟩
  have counted := invariant.counted creature
  have before := invariant.listings creature
  rw [if_pos listed] at before
  have erased := game.listings_eraseIdx found
  have now := erased creature
  rw [if_pos rfl, before] at now
  have listings : ∀ other, (game.unlist loop creature).listings other =
      (game.setList loop.index
        ((game.checkCreatureLists loop.index).eraseIdx loop.place)).listings other :=
    fun _ => rfl
  have value : (game.unlist loop creature).creatures creature =
      { game.creatures creature with inCheckCreaturesVector := false } :=
    Game.setCreature_self ..
  have released : ∀ other, (game.unlist loop creature).toReleaseCreatures.count other =
      game.toReleaseCreatures.count other + if other = creature then 1 else 0 :=
    Game.count_releaseCreature _ creature
  refine invariant.of_local creature (fun other apart => game.setCreature_of_ne _ apart)
    (fun other apart => ?_) (fun other apart => ?_) ?_ (fun checked => ?_) ?_
  · have elsewhere := erased other
    rw [if_neg apart, Nat.add_zero] at elsewhere
    rw [listings, elsewhere]
  · rw [released, if_neg apart, Nat.add_zero]
  · rw [listings, value]
    simp only [Bool.false_eq_true, if_false]
    omega
  · rw [value] at checked
    simp [unchecked] at checked
  · rw [listings, value, released, if_pos rfl]
    simp only
    omega

theorem checkCreature (loop : Loop) : Invariant (game.checkCreature loop) := by
  rw [Game.checkCreature]
  split
  · exact invariant
  · rename_i creature found
    split
    · have onwards := invariant.advance loop
      split
      · exact onwards.setCreature rfl (onwards.checked creature) (onwards.counted creature)
      · exact onwards
    · rename_i unchecked
      exact invariant.unlist found (by simpa using unchecked)

/-- Another gives up a reference. -/
theorem releaseCreature (someHeld : 0 < (game.creatures creature).held) :
    Invariant ((game.setCreature creature
      { game.creatures creature with
        held := (game.creatures creature).held - 1 }).releaseCreature creature) := by
  have counted := invariant.counted creature
  have released := Game.count_releaseCreature (game.setCreature creature
    { game.creatures creature with held := (game.creatures creature).held - 1 }) creature
  refine invariant.of_local creature (fun other apart => game.setCreature_of_ne _ apart)
    (fun _ _ => rfl) (fun other apart => ?_) ?_ ?_ ?_
  · rw [released, if_neg apart, Nat.add_zero]
    rfl
  · rw [Game.releaseCreature, Game.setCreature_self]
    exact invariant.listings creature
  · rw [Game.releaseCreature, Game.setCreature_self]
    exact invariant.checked creature
  · rw [released, if_pos rfl, Game.releaseCreature, Game.setCreature_self]
    simp only [Game.listings, Game.setCreature] at counted ⊢
    omega

theorem apply {op : CheckOp} (legal : op.Legal game) : Invariant (op.apply game) := by
  cases op with
  | addCreatureCheck creature random => exact invariant.addCreatureCheck creature random
  | removeCreatureCheck creature => exact invariant.removeCreatureCheck creature
  | checkCreatures => exact ⟨invariant.listings, invariant.checked, invariant.counted⟩
  | checkCreature =>
    obtain ⟨loop, here, -⟩ := legal
    rw [CheckOp.apply, Option.mem_def.mp here]
    exact invariant.checkCreature loop
  | finish =>
    have cleaned := invariant.cleanup
    exact ⟨cleaned.listings, cleaned.checked, cleaned.counted⟩
  | setHealth creature health =>
    exact invariant.setCreature rfl (invariant.checked creature) (invariant.counted creature)
  | incrementReferenceCounter creature =>
    have counted := invariant.counted creature
    refine invariant.setCreature rfl (invariant.checked creature) ?_
    simp only
    omega
  | decrementReferenceCounter creature =>
    have counted := invariant.counted creature
    have someHeld : 0 < (game.creatures creature).held := legal
    rw [CheckOp.apply, Game.decrementReferenceCounter, Game.setCreature_setCreature]
    refine invariant.setCreature ?_ ?_ ?_ <;> rw [Game.setCreature_self]
    · exact invariant.checked creature
    · simp only
      omega
  | releaseCreature creature =>
    exact invariant.releaseCreature legal
  | cleanup => exact invariant.cleanup

end

end Invariant

/-! ## How often a list comes up -/

/-- The call that is going on has not reached the creature in its list. -/
def Pending (creature : Nat) (index : Fin EVENT_CREATURECOUNT) (game : Game) : Prop :=
  ∃ loop ∈ game.loop, loop.index = index ∧
    creature ∉ (game.checkCreatureLists index).take loop.place

/-- The creature stands in the list, which comes up after `turn` calls. -/
structure Round (start : Game) (creature : Nat) (index : Fin EVENT_CREATURECOUNT) (turn : Nat)
    (game : Game) : Prop where
  listed : creature ∈ game.checkCreatureLists index
  within : ∀ loop ∈ game.loop, loop.place ≤ (game.checkCreatureLists loop.index).length
  calls : start.calls ≤ game.calls
  scheduled : game.scheduled.val =
    (start.scheduled.val + (game.calls - start.calls)) % 10
  pending : Pending creature index game → (game.creatures creature).thoughts + 1 =
    (start.creatures creature).thoughts +
      (game.calls - start.calls + 9 - turn) / 10
  passed : ¬Pending creature index game → (game.creatures creature).thoughts =
    (start.creatures creature).thoughts +
      (game.calls - start.calls + 9 - turn) / 10

namespace Round

variable {start game : Game} {creature : Nat} {index : Fin EVENT_CREATURECOUNT} {turn : Nat}

theorem refl (idle : start.loop = none) (listed : creature ∈ start.checkCreatureLists index)
    (bound : turn < 10) : Round start creature index turn start where
  listed := listed
  within loop here := by simp [idle] at here
  calls := le_rfl
  scheduled := by
    have small : start.scheduled.val < 10 := start.scheduled.isLt
    omega
  pending := by
    rintro ⟨loop, here, -⟩
    simp [idle] at here
  passed _ := by omega

section

variable (round : Round start creature index turn game)
include round

theorem of_same {after : Game} (listed : creature ∈ after.checkCreatureLists index)
    (within : ∀ loop ∈ after.loop, loop.place ≤ (after.checkCreatureLists loop.index).length)
    (calls : after.calls = game.calls) (scheduled : after.scheduled = game.scheduled)
    (thoughts : (after.creatures creature).thoughts = (game.creatures creature).thoughts)
    (pending : Pending creature index after ↔ Pending creature index game) :
    Round start creature index turn after where
  listed := listed
  within := within
  calls := by
    rw [calls]
    exact round.calls
  scheduled := by
    rw [scheduled, calls]
    exact round.scheduled
  pending waits := by
    rw [thoughts, calls]
    exact round.pending (pending.mp waits)
  passed reached := by
    rw [thoughts, calls]
    exact round.passed fun waits => reached (pending.mpr waits)

theorem creatures (values : Nat → Creature) (released : List Nat)
    (thoughts : (values creature).thoughts = (game.creatures creature).thoughts) :
    Round start creature index turn
      { game with creatures := values, toReleaseCreatures := released } :=
  round.of_same round.listed round.within rfl rfl thoughts .rfl

variable {other : Nat} {loop : Loop}

theorem setCreature {value : Creature}
    (thoughts : creature = other → value.thoughts = (game.creatures other).thoughts) :
    Round start creature index turn (game.setCreature other value) := by
  refine round.creatures _ game.toReleaseCreatures ?_
  by_cases same : creature = other
  · rw [same, update_self, thoughts same]
  · rw [update_of_ne same]

theorem append (random : Fin EVENT_CREATURECOUNT) (other : Nat) :
    Round start creature index turn
      (game.setList random (game.checkCreatureLists random ++ [other])) := by
  have kept : ∀ each, ∃ added, (game.setList random
      (game.checkCreatureLists random ++ [other])).checkCreatureLists each =
        game.checkCreatureLists each ++ added := by
    intro each
    by_cases same : each = random
    · exact ⟨[other], by rw [same, Game.setList_self]⟩
    · exact ⟨[], by rw [Game.setList_of_ne _ _ same, List.append_nil]⟩
  refine round.of_same ?_ (fun loop here => ?_) rfl rfl rfl ?_
  · obtain ⟨added, value⟩ := kept index
    rw [value]
    exact List.mem_append_left _ round.listed
  · obtain ⟨added, value⟩ := kept loop.index
    have before := round.within loop here
    rw [value, List.length_append]
    omega
  · refine exists_congr fun loop => and_congr_right fun here => and_congr_right fun same => ?_
    obtain ⟨added, value⟩ := kept index
    have before := round.within loop here
    rw [same] at before
    rw [value, List.take_append_of_le_length before]

theorem addCreatureCheck (other : Nat) (random : Fin EVENT_CREATURECOUNT) :
    Round start creature index turn (game.addCreatureCheck other random) := by
  rw [Game.addCreatureCheck]
  split
  · exact round.setCreature fun _ => rfl
  · have changed : Round start creature index turn (game.setCreature other
        { game.creatures other with
          creatureCheck := true
          inCheckCreaturesVector := true
          referenceCounter := (game.creatures other).referenceCounter + 1 }) :=
      round.setCreature fun _ => rfl
    exact changed.append random other

theorem removeCreatureCheck (other : Nat) :
    Round start creature index turn (game.removeCreatureCheck other) := by
  rw [Game.removeCreatureCheck]
  split
  · exact round.setCreature fun _ => rfl
  · exact round

theorem cleanup : Round start creature index turn game.cleanup := by
  rw [Game.cleanup_eq]
  exact round.creatures _ [] (by rw [Game.creatures_cleanup])

/-- A list comes up. -/
theorem checkCreatures (idle : game.loop = none) (bound : turn < 10)
    (turns : (start.scheduled.val + turn) % 10 = index.val) :
    Round start creature index turn game.checkCreatures := by
  have more := round.calls
  have scheduled := round.scheduled
  have thoughts := round.passed fun ⟨loop, here, _⟩ => by simp [idle] at here
  have comesUp : Pending creature index game.checkCreatures ↔ game.scheduled = index := by
    simp [Pending, Game.checkCreatures]
  have next : (game.scheduled + 1).val = (game.scheduled.val + 1) % 10 :=
    Fin.val_add ..
  constructor
  · exact round.listed
  · rintro loop ⟨⟩
    exact Nat.zero_le _
  · simp only [Game.checkCreatures]
    omega
  · simp only [Game.checkCreatures]
    omega
  · intro waits
    have now := congrArg Fin.val (comesUp.mp waits)
    simp only [Game.checkCreatures]
    omega
  · intro reached
    have now : game.scheduled.val ≠ index.val :=
      fun same => reached (comesUp.mpr (Fin.ext same))
    simp only [Game.checkCreatures]
    omega

/-- The iterator passes another entry. -/
theorem advance (here : game.loop = some loop)
    (found : (game.checkCreatureLists loop.index)[loop.place]? = some other)
    (apart : creature ≠ other) : Round start creature index turn (game.advance loop) := by
  obtain ⟨within, value⟩ := List.getElem?_eq_some_iff.mp found
  refine round.of_same round.listed ?_ rfl rfl rfl ?_
  · rintro _ ⟨⟩
    exact within
  · simp only [Pending, Game.advance, here, Option.mem_def, Option.some.injEq, exists_eq_left']
    refine and_congr_right fun same => not_congr ?_
    subst same
    rw [List.take_succ_eq_append_getElem within, value, List.mem_append, List.mem_singleton,
      or_iff_left apart]

theorem think (invariant : Invariant game) (here : game.loop = some loop)
    (found : (game.checkCreatureLists loop.index)[loop.place]? = some creature) :
    Round start creature index turn ((game.advance loop).think creature) := by
  have same : loop.index = index := invariant.one (List.mem_of_getElem? found) round.listed
  subst same
  obtain ⟨within, value⟩ := List.getElem?_eq_some_iff.mp found
  have waited : Pending creature loop.index game := by
    refine ⟨loop, here, rfl, fun earlier => ?_⟩
    obtain ⟨place, before, again⟩ := List.mem_take_iff_getElem.mp earlier
    have twice := (invariant.nodup loop.index).getElem_inj_iff.mp (again.trans value.symm)
    omega
  have reached : ¬Pending creature loop.index ((game.advance loop).think creature) := by
    rintro ⟨_, ⟨⟩, -, unreached⟩
    refine unreached (?_ : creature ∈ (game.checkCreatureLists loop.index).take (loop.place + 1))
    rw [List.take_succ_eq_append_getElem within, value]
    exact List.mem_append_right _ (List.mem_singleton.mpr rfl)
  have thoughts : (((game.advance loop).think creature).creatures creature).thoughts =
      (game.creatures creature).thoughts + 1 := by
    rw [Game.think, Game.setCreature_self]
    rfl
  constructor
  · exact round.listed
  · rintro _ ⟨⟩
    exact within
  · exact round.calls
  · exact round.scheduled
  · exact fun waits => absurd waits reached
  · intro _
    rw [thoughts]
    exact round.pending waited

/-- Another entry is erased. -/
theorem unlist (here : game.loop = some loop)
    (found : (game.checkCreatureLists loop.index)[loop.place]? = some other)
    (apart : creature ≠ other) : Round start creature index turn (game.unlist loop other) := by
  obtain ⟨within, value⟩ := List.getElem?_eq_some_iff.mp found
  have lists : (game.unlist loop other).checkCreatureLists =
      update game.checkCreatureLists loop.index
        ((game.checkCreatureLists loop.index).eraseIdx loop.place) := rfl
  have thoughts : ((game.unlist loop other).creatures creature).thoughts =
      (game.creatures creature).thoughts :=
    congrArg Creature.thoughts (game.setCreature_of_ne _ apart)
  have shorter := List.length_eraseIdx_of_lt within
  have stays : (game.unlist loop other).loop = some loop := here
  refine round.of_same ?_ ?_ rfl rfl thoughts ?_
  · rw [lists]
    by_cases same : index = loop.index
    · subst same
      rw [update_self]
      have member := (List.getElem_cons_eraseIdx_perm within).mem_iff.mpr round.listed
      rw [value] at member
      exact (List.mem_cons.mp member).resolve_left apart
    · rw [update_of_ne same]
      exact round.listed
  · intro each there
    rw [stays, Option.mem_some_iff] at there
    subst there
    rw [lists, update_self, shorter]
    omega
  · simp only [Pending, stays, here, Option.mem_def, Option.some.injEq, exists_eq_left', lists]
    refine and_congr_right fun same => not_congr ?_
    subst same
    rw [update_self, List.take_eraseIdx_eq_take_of_le _ _ _ le_rfl]

theorem checkCreature (invariant : Invariant game) (active : Active game creature)
    (here : game.loop = some loop) : Round start creature index turn (game.checkCreature loop) := by
  rw [Game.checkCreature]
  split
  · exact round
  · rename_i other found
    by_cases same : creature = other
    · subst same
      rw [if_pos active.checked, if_pos active.alive]
      exact round.think invariant here found
    · have onwards := round.advance here found same
      split
      · split
        · exact onwards.setCreature (absurd · same)
        · exact onwards
      · exact round.unlist here found same

theorem finish (here : game.loop = some loop)
    (ended : loop.place = (game.checkCreatureLists loop.index).length) :
    Round start creature index turn { game with loop := none } := by
  have before : ¬Pending creature index game := by
    rintro ⟨_, there, same, unreached⟩
    obtain rfl := Option.some.inj (here.symm.trans there)
    subst same
    rw [ended, List.take_length] at unreached
    exact unreached round.listed
  have after : ¬Pending creature index { game with loop := none } := by
    rintro ⟨_, ⟨⟩, _⟩
  refine round.of_same round.listed ?_ rfl rfl rfl (iff_of_false after before)
  rintro _ ⟨⟩

theorem apply (bound : turn < 10)
    (turns : (start.scheduled.val + turn) % 10 = index.val) (invariant : Invariant game)
    (active : Active game creature) {op : CheckOp} (legal : op.Legal game) :
    Round start creature index turn (op.apply game) := by
  cases op with
  | addCreatureCheck other random => exact round.addCreatureCheck other random
  | removeCreatureCheck other => exact round.removeCreatureCheck other
  | checkCreatures => exact round.checkCreatures legal bound turns
  | checkCreature =>
    obtain ⟨loop, here, -⟩ := legal
    rw [CheckOp.apply, Option.mem_def.mp here]
    exact round.checkCreature invariant active here
  | finish =>
    obtain ⟨loop, here, ended⟩ := legal
    have cleaned := round.cleanup
    rw [CheckOp.apply, Game.cleanup_eq]
    rw [Game.cleanup_eq] at cleaned
    exact cleaned.finish here ended
  | setHealth other health => exact round.setCreature fun _ => rfl
  | incrementReferenceCounter other => exact round.setCreature fun _ => rfl
  | decrementReferenceCounter other =>
    rw [CheckOp.apply, Game.decrementReferenceCounter, Game.setCreature_setCreature,
      Game.setCreature_self]
    exact round.setCreature fun _ => rfl
  | releaseCreature other =>
    have changed : Round start creature index turn (game.setCreature other
        { game.creatures other with held := (game.creatures other).held - 1 }) :=
      round.setCreature fun _ => rfl
    exact changed.creatures _ _ rfl
  | cleanup => exact round.cleanup

end

end Round

/-! ## Runs -/

/-- The turn of a list among the next ten calls. -/
theorem exists_turn (scheduled index : Fin EVENT_CREATURECOUNT) :
    ∃ turn < 10, (scheduled.val + turn) % 10 = index.val := by
  have small : index.val < 10 := index.isLt
  have bound : scheduled.val < 10 := scheduled.isLt
  exact ⟨(index.val + 10 - scheduled.val) % 10, by omega, by omega⟩

theorem thoughts_of_ten_calls {game : Game} (invariant : Invariant game)
    (idle : game.loop = none) {creature : Nat} {ops : List CheckOp} (legal : checks.Legal game ops)
    (active : checks.Throughout (fun before _ _ => Active before creature) game ops)
    (ended : (checks.run game ops).loop = none)
    (ten : (checks.run game ops).calls = game.calls + 10) :
    ((checks.run game ops).creatures creature).thoughts =
      (game.creatures creature).thoughts + 1 := by
  obtain _ | ⟨first, rest⟩ := ops
  · simp at ten
  obtain ⟨index, listed⟩ := active.1.listed
  obtain ⟨turn, bound, turns⟩ := exists_turn game.scheduled index
  have start : Invariant game ∧ Round game creature index turn game :=
    ⟨invariant, .refl idle listed bound⟩
  have step : ∀ before op, Invariant before ∧ Round game creature index turn before →
      checks.legal before op → Active before creature →
        Invariant (op.apply before) ∧ Round game creature index turn (op.apply before) :=
    fun before op both allowed now =>
      ⟨both.1.apply allowed, both.2.apply bound turns both.1 now allowed⟩
  have rounds := @System.run_invariant _ _ checks
    (fun each => Invariant each ∧ Round game creature index turn each)
    (fun before _ _ => Active before creature) step _ _ start legal active
  have reached : ¬Pending creature index (checks.run game (first :: rest)) := by
    rintro ⟨loop, here, -⟩
    rw [ended] at here
    cases here
  rw [rounds.2.passed reached, ten]
  omega

/-- The creature is not to be checked, and thought so often. -/
structure Off (creature thoughts : Nat) (game : Game) : Prop where
  unchecked : (game.creatures creature).creatureCheck = false
  thoughts : (game.creatures creature).thoughts = thoughts

namespace Off

variable {game : Game} {creature thoughts : Nat}

section

variable (off : Off creature thoughts game)
include off

theorem setCreature {other : Nat} {value : Creature}
    (unchecked : creature = other → value.creatureCheck = false)
    (same : creature = other → value.thoughts = (game.creatures other).thoughts) :
    Off creature thoughts (game.setCreature other value) := by
  obtain ⟨before, count⟩ := off
  by_cases here : creature = other
  · subst here
    constructor <;> rw [Game.setCreature_self]
    · exact unchecked rfl
    · exact (same rfl).trans count
  · constructor <;> rwa [Game.setCreature_of_ne _ _ here]

theorem checkCreature (loop : Loop) : Off creature thoughts (game.checkCreature loop) := by
  have onwards : Off creature thoughts (game.advance loop) := ⟨off.unchecked, off.thoughts⟩
  rw [Game.checkCreature]
  split
  · exact off
  · rename_i other found
    split
    · rename_i checked
      have apart : creature ≠ other := by
        rintro rfl
        simp [off.unchecked] at checked
      split
      · exact onwards.setCreature (absurd · apart) (absurd · apart)
      · exact onwards
    · rename_i unchecked
      have changed : Off creature thoughts (game.setCreature other
          { game.creatures other with inCheckCreaturesVector := false }) :=
        off.setCreature (fun _ => by simpa using unchecked) fun _ => rfl
      exact ⟨changed.unchecked, changed.thoughts⟩

/-- Only `addCreatureCheck` sets the flag. -/
theorem apply {op : CheckOp} (apart : ∀ random, op ≠ .addCreatureCheck creature random) :
    Off creature thoughts (op.apply game) := by
  have still : ∀ other, creature = other → (game.creatures other).creatureCheck = false := by
    rintro _ rfl
    exact off.unchecked
  cases op with
  | addCreatureCheck other random =>
    have elsewhere : creature ≠ other := fun same => apart random (by rw [same])
    rw [CheckOp.apply, Game.addCreatureCheck]
    split
    · exact off.setCreature (absurd · elsewhere) (absurd · elsewhere)
    · have changed : Off creature thoughts (game.setCreature other
          { game.creatures other with
            creatureCheck := true
            inCheckCreaturesVector := true
            referenceCounter := (game.creatures other).referenceCounter + 1 }) :=
        off.setCreature (absurd · elsewhere) (absurd · elsewhere)
      exact ⟨changed.unchecked, changed.thoughts⟩
  | removeCreatureCheck other =>
    rw [CheckOp.apply, Game.removeCreatureCheck]
    split
    · exact off.setCreature (fun _ => rfl) fun _ => rfl
    · exact off
  | checkCreatures => exact ⟨off.unchecked, off.thoughts⟩
  | checkCreature =>
    rw [CheckOp.apply]
    cases game.loop with
    | none => exact off
    | some loop => exact off.checkCreature loop
  | finish | cleanup =>
    refine ⟨?_, ?_⟩ <;> simp only [CheckOp.apply, Game.creatures_cleanup]
    · exact off.unchecked
    · exact off.thoughts
  | setHealth other health => exact off.setCreature (still other) fun _ => rfl
  | incrementReferenceCounter other => exact off.setCreature (still other) fun _ => rfl
  | decrementReferenceCounter other =>
    rw [CheckOp.apply, Game.decrementReferenceCounter, Game.setCreature_setCreature,
      Game.setCreature_self]
    exact off.setCreature (still other) fun _ => rfl
  | releaseCreature other =>
    have changed : Off creature thoughts (game.setCreature other
        { game.creatures other with held := (game.creatures other).held - 1 }) :=
      off.setCreature (still other) fun _ => rfl
    exact ⟨changed.unchecked, changed.thoughts⟩

theorem run {ops : List CheckOp} (apart : ∀ random, .addCreatureCheck creature random ∉ ops) :
    Off creature thoughts (checks.run game ops) := by
  induction ops generalizing game with
  | nil => exact off
  | cons op ops ih =>
    have first : ∀ random, op ≠ .addCreatureCheck creature random := by
      rintro random rfl
      exact apart random List.mem_cons_self
    exact ih (off.apply first) fun random later => apart random (List.mem_cons_of_mem _ later)

end

end Off

/-- **Every active creature is checked once in ten calls.** In every state of a run the lists,
the flags and the references agree; between two calls, the next ten make each creature think once
that is active throughout; and a creature whose check is removed does not think in them until it
is added again. -/
theorem checks_sound {start : Game} (started : Started start) {ops : List CheckOp}
    (legal : checks.Legal start ops) :
    Agree (checks.run start ops) ∧
      (∀ creature calls, (checks.run start ops).loop = none →
        checks.Legal (checks.run start ops) calls →
        checks.Throughout (fun before _ _ => Active before creature) (checks.run start ops)
          calls →
        (checks.run (checks.run start ops) calls).loop = none →
        (checks.run (checks.run start ops) calls).calls = (checks.run start ops).calls + 10 →
          ((checks.run (checks.run start ops) calls).creatures creature).thoughts =
            ((checks.run start ops).creatures creature).thoughts + 1) ∧
      ∀ creature rest, (∀ random, .addCreatureCheck creature random ∉ rest) →
        ((checks.run (checks.run start ops)
            (.removeCreatureCheck creature :: rest)).creatures creature).thoughts =
          ((checks.run start ops).creatures creature).thoughts := by
  have invariant : Invariant (checks.run start ops) :=
    System.run_invariant_of_legal (fun _ _ holds allowed => holds.apply allowed)
      (.of_started started) legal
  refine ⟨invariant.agree, ?_, ?_⟩
  · intro creature calls idle allowed active ended ten
    exact thoughts_of_ten_calls invariant idle allowed active ended ten
  · intro creature rest apart
    have off : Off creature ((checks.run start ops).creatures creature).thoughts
        ((checks.run start ops).removeCreatureCheck creature) := by
      rw [Game.removeCreatureCheck]
      split
      · exact ⟨by rw [Game.setCreature_self], by rw [Game.setCreature_self]⟩
      · rename_i unlisted
        exact ⟨Bool.eq_false_of_not_eq_true fun checked =>
          unlisted (invariant.checked creature checked), rfl⟩
    exact (off.run apart).thoughts

/-- Two creatures, of which the first is checked. -/
def twoCreatures : Game where
  creatures _ := { health := 100, referenceCounter := 1, held := 1 }

/-- One call of `checkCreatures` for each list, with the first creature in the third. -/
def oneRound : List CheckOp :=
  [.checkCreatures, .finish, .checkCreatures, .finish, .checkCreatures, .checkCreature, .finish,
    .checkCreatures, .finish, .checkCreatures, .finish, .checkCreatures, .finish,
    .checkCreatures, .finish, .checkCreatures, .finish, .checkCreatures, .finish,
    .checkCreatures, .finish]

theorem twoCreatures_started : Started twoCreatures where
  empty _ := rfl
  released := rfl
  idle := rfl
  unlisted _ := rfl
  unchecked _ := rfl
  held _ := rfl

theorem checks_sound_oneRound :
    ((checks.run (checks.run twoCreatures [.addCreatureCheck 0 2]) oneRound).creatures
      0).thoughts = 1 :=
  (checks_sound twoCreatures_started
    (show checks.Legal twoCreatures [.addCreatureCheck 0 2] from ⟨trivial, trivial⟩)).2.1 0
    oneRound rfl (by decide) (by decide) rfl rfl

end Otserv.Checks
