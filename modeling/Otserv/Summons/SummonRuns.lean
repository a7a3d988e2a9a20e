import Otserv.Foundation.OwnerIndex
import Otserv.Summons.Summon

/-!
# The bookkeeping of summons

A master should list its summons, each once, a summon hold one reference for it, the summons of a
master that dies be without master and health, and no loop go on from an element that its body
erased (`Sound`).

`setMaster` keeps masters and lists in agreement, whatever it is called with (`Invariant.setMaster`,
by the rules of `Foundation.Indexes`). But each loop over the summons calls it for the element it
stands on (`summons_sound_iff`).
-/

namespace Otserv.Summons

open Foundation
open Function (update update_of_ne update_self update_idem)

variable {Id : Type} [DecidableEq Id]

/-- Whether the death of a creature goes through its summons. -/
def Kind.Releases (kind : Kind) : Prop := kind = .monster ∨ kind = .duelist

/-- One step: the states before it and after it. -/
structure Sound (before : Game Id) (op : GameOp Id) (after : Game Id) : Prop where
  listed : ∀ master summon, (after.summons master).count summon =
    if after.master summon = some master then 1 else 0
  references : ∀ summon, after.references summon =
    if after.master summon = none then 0 else 1
  defined : after.undefined = false
  died : ∀ creature, op = .death creature → (before.kind creature).Releases →
    ∀ summon ∈ before.summons creature, after.master summon = none ∧ after.health summon = 0 ∧
      after.references summon = before.references summon - 1

/-- What goes through its summons has none. -/
def Barren (game : Game Id) : GameOp Id → Prop
  | .death creature => (game.kind creature).Releases → game.summons creature = []
  | .destroy creature => game.summons creature = []
  | .convinceCreature monster creature canConvinceAll isConvinceable =>
    game.convinces monster creature canConvinceAll isConvinceable = true →
      -- a monster that is its own master is so no more
      monster ≠ creature ∧ ∀ summon ∈ game.summons monster, summon = monster
  | .setMaster .. | .addGuardian .. | .removeGuardian .. | .placeCreature _
  | .removeCreature _ => True

/-! ## The invariant -/

structure Invariant (game : Game Id) : Prop where
  indexes : Indexes game.master id game.summons
  references : ∀ summon, game.references summon = if game.master summon = none then 0 else 1
  defined : game.undefined = false

namespace Invariant

variable {game : Game Id}

section

variable (invariant : Invariant game)
include invariant

omit [DecidableEq Id] in
theorem mem_iff {master summon : Id} :
    summon ∈ game.summons master ↔ game.master summon = some master := by
  refine (invariant.indexes.mem_iff master summon).trans ⟨?_, fun known => ⟨master, known, rfl⟩⟩
  rintro ⟨_, known, rfl⟩
  exact known

theorem sound {before : Game Id} {op : GameOp Id}
    (died : ∀ creature, op = .death creature → (before.kind creature).Releases →
      ∀ summon ∈ before.summons creature, game.master summon = none ∧ game.health summon = 0 ∧
        game.references summon = before.references summon - 1) : Sound before op game where
  listed := by
    intro master summon
    by_cases known : game.master summon = some master
    · rw [if_pos known]
      exact List.count_eq_one_of_mem (invariant.indexes.nodup master) (invariant.mem_iff.mpr known)
    · rw [if_neg known]
      exact List.count_eq_zero_of_not_mem (invariant.mem_iff.not.mpr known)
  references := invariant.references
  defined := invariant.defined
  died := died

omit [DecidableEq Id] in
/-- A change of what is not a matter of masters. -/
theorem congr {after : Game Id} (master : after.master = game.master)
    (summons : after.summons = game.summons) (references : after.references = game.references)
    (undefined : after.undefined = game.undefined) : Invariant after where
  indexes := by
    rw [master, summons]
    exact invariant.indexes
  references := by
    rw [master, references]
    exact invariant.references
  defined := undefined.trans invariant.defined

/-! ## `setMaster` -/

theorem references_update (creature : Id) (newMaster : Option Id) (summon : Id) :
    (update game.references creature (if newMaster = none then 0 else 1) : Id → Int)
        summon =
      if update game.master creature newMaster summon = none then 0 else 1 := by
  by_cases same : summon = creature
  · subst same
    rw [update_self, update_self]
  · rw [update_of_ne same, update_of_ne same]
    exact invariant.references summon

theorem setMaster (creature : Id) (newMaster : Option Id) :
    Invariant (game.setMaster creature newMaster) := by
  unfold Game.setMaster
  by_cases nothing : newMaster = none ∧ game.master creature = none
  · rw [if_pos nothing]
    exact invariant
  have counted := invariant.references creature
  cases newMaster with
  | none =>
    dsimp only [Game.pushSummon]
    cases known : game.master creature with
    | none => exact absurd ⟨rfl, known⟩ nothing
    | some master =>
      have member := invariant.mem_iff.mpr known
      rw [known, if_neg (Option.some_ne_none _)] at counted
      dsimp only [Game.eraseSummon]
      rw [if_pos member]
      refine ⟨?_, ?_, invariant.defined⟩
      · exact invariant.indexes.remove known (List.perm_cons_erase member).symm
      · intro summon
        have law := invariant.references_update creature none summon
        dsimp only [Game.decrementReferenceCounter]
        rw [counted]
        exact law
  | some newMaster =>
    dsimp only [Game.pushSummon, Game.incrementReferenceCounter]
    cases known : game.master creature with
    | none =>
      rw [known, if_pos rfl] at counted
      refine ⟨?_, ?_, invariant.defined⟩
      · exact invariant.indexes.insert known newMaster (List.perm_append_singleton _ _)
      · intro summon
        have law := invariant.references_update creature (some newMaster) summon
        rw [counted]
        exact law
    | some master =>
      have member := invariant.mem_iff.mpr known
      rw [known, if_neg (Option.some_ne_none _)] at counted
      have pushed : creature ∈ update game.summons newMaster
          (game.summons newMaster ++ [creature]) master := by
        by_cases same : master = newMaster
        · rw [same, update_self]
          exact List.mem_append_right _ List.mem_cons_self
        · rw [update_of_ne same]
          exact member
      dsimp only [Game.eraseSummon]
      rw [if_pos pushed]
      refine ⟨?_, ?_, invariant.defined⟩
      · dsimp only [Game.decrementReferenceCounter]
        by_cases same : master = newMaster
        · subst same
          have placed : ((game.summons master ++ [creature]).erase creature).Perm
              (creature :: update game.summons (id master)
                ((game.summons master).erase creature) (id master)) := by
            rw [id_eq, update_self, List.erase_append_left _ member]
            exact List.perm_append_singleton _ _
          have moved := invariant.indexes.move known master
            (List.perm_cons_erase member).symm placed
          rw [update_self, update_idem]
          rw [update_idem] at moved
          exact moved
        · have placed : (game.summons newMaster ++ [creature]).Perm
              (creature :: update game.summons (id master)
                ((game.summons master).erase creature) (id newMaster)) := by
            rw [id_eq, id_eq, update_of_ne (Ne.symm same)]
            exact List.perm_append_singleton _ _
          have moved := invariant.indexes.move known newMaster
            (List.perm_cons_erase member).symm placed
          rw [update_of_ne same, Function.update_comm (Ne.symm same)]
          exact moved
      · intro summon
        have law := invariant.references_update creature (some newMaster) summon
        dsimp only [Game.decrementReferenceCounter]
        rw [update_self, update_idem, counted]
        exact law

end

end Invariant

namespace Game

variable (game : Game Id)

theorem undefined_setMaster (creature : Id) (newMaster : Option Id) :
    (game.setMaster creature newMaster).undefined = game.undefined := by
  have pushed : (game.pushSummon creature newMaster).undefined = game.undefined := by
    cases newMaster with
    | none => rfl
    | some newMaster => rfl
  unfold setMaster
  split
  · rfl
  refine .trans ?_ pushed
  show (Game.eraseSummon _ creature _).undefined = _
  cases (game.pushSummon creature newMaster).master creature with
  | none => rfl
  | some master =>
    dsimp only [eraseSummon]
    split <;> rfl

theorem master_setMaster (creature : Id) (newMaster : Option Id) :
    (game.setMaster creature newMaster).master creature = newMaster := by
  unfold setMaster
  by_cases nothing : newMaster = none ∧ game.master creature = none
  · rw [if_pos nothing, nothing.2, nothing.1]
  · rw [if_neg nothing]
    exact update_self _ _ _

theorem master_setMaster_of_ne {creature other : Id} (newMaster : Option Id)
    (different : other ≠ creature) :
    (game.setMaster creature newMaster).master other = game.master other := by
  unfold setMaster
  split
  · rfl
  show update (Game.eraseSummon _ creature _).master creature newMaster other = _
  rw [update_of_ne different]
  cases newMaster with
  | none =>
    cases (game.pushSummon creature none).master creature with
    | none => rfl
    | some master =>
      dsimp only [eraseSummon]
      split <;> rfl
  | some newMaster =>
    cases (game.pushSummon creature (some newMaster)).master creature with
    | none => rfl
    | some master =>
      dsimp only [eraseSummon]
      split <;> rfl

/-! ## Loops over the summons -/

theorem forSummons_nil {master : Id} {body : Game Id → Id → Game Id}
    (empty : game.summons master = []) : game.forSummons master body = game := by
  rw [forSummons, empty, List.foldl_nil]

/-- **A loop whose body takes the first summon from its master is not defined.** -/
theorem undefined_forSummons {master : Id} {body : Game Id → Id → Game Id}
    (keeps : ∀ game summon, (body game summon).undefined = game.undefined) {first : Id}
    {rest : List Id} (some : game.summons master = first :: rest)
    (taken : first ∉ (body game first).summons master) :
    (game.forSummons master body).undefined = true := by
  have stays : ∀ (summons : List Id) (other : Game Id), other.undefined = true →
      (summons.foldl (fun game summon =>
        if summon ∈ (body game summon).summons master then body game summon
        else { body game summon with undefined := true }) other).undefined = true := by
    intro summons
    induction summons with
    | nil => exact fun _ undefined => undefined
    | cons summon summons ih =>
      intro other undefined
      refine ih _ ?_
      dsimp only
      split
      · exact (keeps other summon).trans undefined
      · rfl
  rw [forSummons, some, List.foldl_cons]
  refine stays rest _ ?_
  rw [if_neg taken]

theorem clearSummons_nil {creature : Id} (empty : game.summons creature = []) :
    game.clearSummons creature = game := by
  rw [clearSummons, ← empty, Function.update_eq_self]

end Game

namespace Invariant

variable {game : Game Id}

theorem not_mem_setMaster (invariant : Invariant game) (summon master : Id) :
    summon ∉ (game.setMaster summon none).summons master := by
  rw [(invariant.setMaster summon none).mem_iff, game.master_setMaster]
  exact Option.some_ne_none master |>.symm

theorem drainHealth (invariant : Invariant game) (creature : Id) :
    Invariant (game.drainHealth creature) := invariant.congr rfl rfl rfl rfl

/-- A step is sound where the guard holds, and then the invariant goes on. -/
structure Exact (guard : Prop) (before : Game Id) (op : GameOp Id) (after : Game Id) : Prop where
  sound_iff : Sound before op after ↔ guard
  invariant : Sound before op after → Invariant after

theorem exact_keeps {before : Game Id} {op : GameOp Id} {guard : Prop}
    (onwards : Invariant game) (holds : guard)
    (died : ∀ creature, op = .death creature → (before.kind creature).Releases →
      before.summons creature = []) : Exact guard before op game := by
  have isSound : Sound before op game := by
    refine onwards.sound fun creature isDeath releases summon among => ?_
    rw [died creature isDeath releases] at among
    exact absurd among List.not_mem_nil
  exact ⟨iff_of_true isSound holds, fun _ => onwards⟩

theorem exact_undefined {before : Game Id} {op : GameOp Id} {guard : Prop}
    (undefined : game.undefined = true) (fails : ¬guard) : Exact guard before op game := by
  have unsound : ¬Sound before op game := by
    intro isSound
    rw [isSound.defined] at undefined
    cases undefined
  exact ⟨iff_of_false unsound fails, fun isSound => absurd isSound unsound⟩

end Invariant

theorem Game.forSummons_cases (game : Game Id) (creature : Id) {body : Game Id → Id → Game Id}
    (keeps : ∀ game summon, (body game summon).undefined = game.undefined)
    (takes : ∀ summon master, summon ∉ (body game summon).summons master) :
    (game.summons creature = [] ∧ game.forSummons creature body = game) ∨
      (game.summons creature ≠ [] ∧ (game.forSummons creature body).undefined = true) := by
  by_cases empty : game.summons creature = []
  · exact .inl ⟨empty, game.forSummons_nil empty⟩
  · obtain ⟨first, rest, isCons⟩ := List.exists_cons_of_ne_nil empty
    exact .inr ⟨empty, game.undefined_forSummons keeps isCons (takes first creature)⟩

/-! ## The steps -/

namespace Invariant

variable {game : Game Id}

section

variable (invariant : Invariant game)
include invariant

theorem exact_death (creature : Id) :
    Exact (Barren game (.death creature)) game (.death creature) (game.death creature) := by
  have stays : ∀ {after : Game Id}, after = game → game.summons creature = [] →
      Exact (Barren game (.death creature)) game (.death creature) after := by
    rintro _ rfl empty
    refine exact_keeps invariant (fun _ => empty) ?_
    rintro _ ⟨⟩ _
    exact empty
  unfold Game.death
  cases kind : game.kind creature with
  | monster =>
    have releases : (game.kind creature).Releases := .inl kind
    obtain ⟨empty, same⟩ | ⟨nonempty, undefined⟩ := game.forSummons_cases creature
      (fun other summon => (other.drainHealth summon).undefined_setMaster summon none)
      fun summon master => (invariant.drainHealth summon).not_mem_setMaster summon master
    · refine stays ?_ empty
      rw [same, game.clearSummons_nil empty]
    · exact exact_undefined undefined fun barren => nonempty (barren releases)
  | duelist =>
    have releases : (game.kind creature).Releases := .inr kind
    obtain ⟨empty, same⟩ | ⟨nonempty, undefined⟩ := @Game.forSummons_cases _ _ game creature
      (fun game summon =>
        ((game.drainHealth summon).setMaster summon none).decrementReferenceCounter summon)
      (fun other summon => (other.drainHealth summon).undefined_setMaster summon none)
      fun summon master => (invariant.drainHealth summon).not_mem_setMaster summon master
    · refine stays ?_ empty
      rw [same, game.clearSummons_nil empty]
    · exact exact_undefined undefined fun barren => nonempty (barren releases)
  | player =>
    have keeps : ¬(game.kind creature).Releases := by
      rw [kind]
      exact fun releases => releases.elim nofun nofun
    refine exact_keeps invariant (fun releases => absurd releases keeps) ?_
    rintro _ ⟨⟩ releases
    exact absurd releases keeps
  | npc =>
    have keeps : ¬(game.kind creature).Releases := by
      rw [kind]
      exact fun releases => releases.elim nofun nofun
    refine exact_keeps invariant (fun releases => absurd releases keeps) ?_
    rintro _ ⟨⟩ releases
    exact absurd releases keeps

theorem exact_convince (monster creature : Id) (canConvinceAll isConvinceable : Bool) :
    Exact (Barren game (.convinceCreature monster creature canConvinceAll isConvinceable)) game
      (.convinceCreature monster creature canConvinceAll isConvinceable)
      (game.convinceCreature monster creature canConvinceAll isConvinceable) := by
  unfold Game.convinceCreature
  by_cases convinced : game.convinces monster creature canConvinceAll isConvinceable = true
  · rw [if_pos convinced]
    have started := invariant.setMaster monster (some creature)
    have emptyIff : (game.setMaster monster (some creature)).summons monster = [] ↔
        monster ≠ creature ∧ ∀ summon ∈ game.summons monster, summon = monster := by
      rw [List.eq_nil_iff_forall_not_mem]
      constructor
      · intro none
        refine ⟨fun same => ?_, fun summon among => ?_⟩
        · refine none monster (started.mem_iff.mpr ?_)
          rw [game.master_setMaster, same]
        · by_contra different
          refine none summon (started.mem_iff.mpr ?_)
          rw [game.master_setMaster_of_ne _ different]
          exact invariant.mem_iff.mp among
      · rintro ⟨other, itself⟩ summon among
        have known := started.mem_iff.mp among
        by_cases same : summon = monster
        · rw [same, game.master_setMaster] at known
          exact other (Option.some.inj known).symm
        · rw [game.master_setMaster_of_ne _ same] at known
          exact same (itself summon (invariant.mem_iff.mpr known))
    obtain ⟨empty, same⟩ | ⟨nonempty, undefined⟩ :=
      (game.setMaster monster (some creature)).forSummons_cases monster
        (fun other summon => (other.drainHealth summon).undefined_setMaster summon none)
        fun summon master => (started.drainHealth summon).not_mem_setMaster summon master
    · rw [same, Game.clearSummons_nil _ empty]
      exact exact_keeps started (fun _ => emptyIff.mp empty) nofun
    · exact exact_undefined undefined fun barren => nonempty (emptyIff.mpr (barren convinced))
  · rw [if_neg convinced]
    exact exact_keeps invariant (fun goes => absurd goes convinced) nofun

theorem exact_destroy (creature : Id) :
    Exact (Barren game (.destroy creature)) game (.destroy creature) (game.destroy creature) := by
  unfold Game.destroy
  obtain ⟨empty, same⟩ | ⟨nonempty, undefined⟩ := game.forSummons_cases creature
    (fun other summon => other.undefined_setMaster summon none)
    fun summon master => invariant.not_mem_setMaster summon master
  · rw [same]
    exact exact_keeps invariant empty nofun
  · exact exact_undefined undefined nonempty

theorem removeOne (creature : Id) : Invariant (game.removeOne creature) := by
  unfold Game.removeOne
  cases game.master creature with
  | none => exact invariant.congr rfl rfl rfl rfl
  | some master =>
    dsimp only
    split
    · exact (invariant.setMaster creature none).congr rfl rfl rfl rfl
    · exact invariant.congr rfl rfl rfl rfl

theorem removeCreatures (creatures : List Id) : Invariant (game.removeCreatures creatures) := by
  induction game, creatures using Game.removeCreatures.induct with
  | case1 game =>
    rw [Game.removeCreatures]
    exact invariant
  | case2 game creature creatures inGame ih =>
    rw [Game.removeCreatures, dif_pos inGame]
    exact ih (invariant.removeOne creature)
  | case3 game creature creatures removed ih =>
    rw [Game.removeCreatures, dif_neg removed]
    exact ih invariant

theorem exact_step (op : GameOp Id) :
    Exact (Barren game op) game op ((summoning Id).step game op) := by
  cases op with
  | setMaster creature newMaster =>
    exact exact_keeps (invariant.setMaster creature newMaster) trivial nofun
  | addGuardian creature guardian =>
    refine exact_keeps ?_ trivial nofun
    exact (invariant.setMaster guardian (some creature)).congr rfl rfl rfl rfl
  | removeGuardian creature guardian =>
    refine exact_keeps ?_ trivial nofun
    show Invariant (game.removeGuardian creature guardian)
    unfold Game.removeGuardian
    split
    · exact (invariant.setMaster guardian none).congr rfl rfl rfl rfl
    · exact invariant
  | convinceCreature monster creature canConvinceAll isConvinceable =>
    exact invariant.exact_convince monster creature canConvinceAll isConvinceable
  | death creature => exact invariant.exact_death creature
  | placeCreature creature =>
    exact exact_keeps (invariant.congr rfl rfl rfl rfl) trivial nofun
  | removeCreature creature =>
    exact exact_keeps (invariant.removeCreatures [creature]) trivial nofun
  | destroy creature => exact invariant.exact_destroy creature

end

end Invariant

/-- **Masters and summons agree, and a master that dies leaves its summons to nobody**, exactly
where a creature has no summons when it dies as a monster or duelist, is convinced or destroyed. -/
theorem summons_sound_iff (kind : Id → Kind) (health : Id → Int)
    {ops : List (GameOp Id)} (legal : (summoning Id).Legal { kind := kind, health := health } ops) :
    (summoning Id).Throughout Sound { kind := kind, health := health } ops ↔
      (summoning Id).Throughout (fun before op _ => Barren before op)
        { kind := kind, health := health } ops := by
  have initial : Invariant ({ kind := kind, health := health } : Game Id) :=
    { indexes := .of_empty (fun _ => rfl) fun _ => rfl
      references := fun _ => rfl
      defined := rfl }
  refine System.Throughout.iff_of_invariant (fun before op invariant _ => ?_) initial legal
  have isExact := invariant.exact_step op
  exact ⟨isExact.sound_iff, isExact.invariant⟩

/-- A player, two monsters and a duelist. -/
def kinds : Fin 4 → Kind
  | 0 => .player
  | 1 => .monster
  | 2 => .monster
  | 3 => .duelist

/-- The summons of a monster come to the player before it dies. -/
def deserted : List (GameOp (Fin 4)) :=
  [.placeCreature 0, .placeCreature 1, .setMaster 2 (some 1), .placeCreature 2,
    .setMaster 3 (some 1), .placeCreature 3, .setMaster 2 (some 1), .addGuardian 0 3,
    .convinceCreature 2 0 true false, .death 1, .removeGuardian 0 3, .removeCreature 0]

theorem summons_sound_iff_deserted :
    (summoning (Fin 4)).Throughout Sound { kind := kinds, health := fun _ => 10 } deserted ↔
      (summoning (Fin 4)).Throughout (fun before op _ => Barren before op)
        { kind := kinds, health := fun _ => 10 } deserted := by
  refine summons_sound_iff kinds (fun _ => 10) ?_
  exact ⟨trivial, trivial, trivial, trivial, trivial, trivial, trivial, trivial, trivial, trivial,
    trivial, trivial, trivial⟩

/-- A monster with two summons dies. -/
theorem summons_left :
    ∃ ops, (summoning (Fin 4)).Legal { kind := kinds, health := fun _ => 10 } ops ∧
      ¬(summoning (Fin 4)).Throughout Sound { kind := kinds, health := fun _ => 10 } ops := by
  refine ⟨[.placeCreature 1, .setMaster 2 (some 1), .placeCreature 2, .setMaster 3 (some 1),
    .placeCreature 3, .death 1],
    ⟨trivial, trivial, trivial, trivial, trivial, trivial, trivial⟩, ?_⟩
  rintro ⟨-, -, -, -, -, died, -⟩
  exact absurd died.defined (by decide)

end Otserv.Summons
