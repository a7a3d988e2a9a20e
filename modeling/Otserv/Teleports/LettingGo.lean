import Otserv.Teleports.Teleport

/-!
# Teleports that let go

Followed from a teleport, the destinations lead to a tile without a teleport, or back to the
teleport, or into a circle that the teleport is not in. In the first two cases
`checkInfinityLoop` comes to an end and tells which it is; in the third it goes on forever
(`checked_iff`). Then the teleport cannot let go of anything (`letsGo_iff`). An item that stairs
carry elsewhere may be handed around by teleports each of which leads out; it comes to rest
exactly when it gets to a tile without a teleport, to one that it is not taken by, or to a
teleport that leads back to itself (`Rests`).
-/

namespace Otserv.Teleports.Map

open Foundation
open Relation (ReflTransGen TransGen)
open World (Position)

/-- The destinations lead to a tile without a teleport. -/
def Reaches (map : Map) (pos : Position) : Prop :=
  ∃ last tile, ReflTransGen (Step map.destPos) pos last ∧ map last = some tile ∧
    tile.teleport = none

/-- All destinations are tiles. -/
def Existing (map : Map) : Prop :=
  ∀ pos destPos, map.destPos pos = some destPos → (map destPos).isSome

/-- The check of a teleport and its moves come to an end, and it refuses just what would never
come to a tile without a teleport. -/
structure LetsGo (map : Map) (thing : Thing) (pos : Position) : Prop where
  checked : ∃ fuel answer,
    map.checkInfinityLoopWithin pos fuel ((map.destPos pos).bind map) = some answer
  moved : ∃ fuel journey, map.addThingWithin thing fuel pos = some journey
  refused : ∀ fuel journey, map.addThingWithin thing fuel pos = some journey →
    (journey.refused = true ↔ ¬map.Reaches pos)

/-- An item comes to rest: where there is no teleport, at one that leads back to itself, or
before a tile that does not take it. The teleports before lead out. -/
inductive Rests (map : Map) (landing : Position → Option Position) : Position → Prop
  | here {pos : Position} (last : map.destPos pos = none) : Rests map landing pos
  | back {pos : Position} (leadsBack : LeadsBack map.destPos pos) : Rests map landing pos
  | stuck {pos destPos : Position} (step : map.destPos pos = some destPos)
      (leadsOut : LeadsOut map.destPos pos) (notTaken : landing destPos = none) :
      Rests map landing pos
  | on {pos destPos after : Position} (step : map.destPos pos = some destPos)
      (leadsOut : LeadsOut map.destPos pos) (lands : landing destPos = some after)
      (rests : Rests map landing after) : Rests map landing pos

/-- The destinations lead to a tile without a teleport or back to the teleport; and an item that
comes elsewhere comes to rest. -/
def Loose (map : Map) (thing : Thing) (pos : Position) : Prop :=
  match thing with
  | .creature => map.Reaches pos ∨ LeadsBack map.destPos pos
  | .item landing => map.Rests landing pos

variable {map : Map} {pos destPos : Position}

theorem reaches_iff (existing : map.Existing) (isTile : (map pos).isSome) :
    map.Reaches pos ↔ LeadsOut map.destPos pos := by
  constructor
  · rintro ⟨last, tile, way, isLast, none⟩
    exact ⟨last, way, by simp [Map.destPos, isLast, none]⟩
  · rintro ⟨last, way, isLast⟩
    have isThere : (map last).isSome := by
      rcases way.cases_tail with rfl | ⟨before, -, step⟩
      · exact isTile
      · exact existing before last step
    obtain ⟨tile, isTile⟩ := Option.isSome_iff_exists.mp isThere
    exact ⟨last, tile, way, isTile, by simpa [Map.destPos, isTile] using isLast⟩

/-! ## The check -/

section Check

variable (pos) (map)

variable {other : Position}

/-- A tile without a teleport. -/
theorem check_of_last (last : map.destPos other = none) (fuel : Nat) :
    map.checkInfinityLoopWithin pos (fuel + 1) (map other) = some false := by
  rw [Map.destPos] at last
  cases isTile : map other with
  | none => rfl
  | some tile =>
    rw [isTile, Option.bind_some] at last
    rw [checkInfinityLoopWithin, last]

/-- A tile with a teleport. -/
theorem check_of_step {other after : Position} (step : map.destPos other = some after)
    (fuel : Nat) : map.checkInfinityLoopWithin pos (fuel + 1) (map other) =
      if pos = after then some true else map.checkInfinityLoopWithin pos fuel (map after) := by
  obtain ⟨tile, isTile, isTeleport⟩ := Option.bind_eq_some_iff.mp step
  rw [isTile, checkInfinityLoopWithin, isTeleport]

variable {pos} {map}

theorem check_mono {fuel more : Nat} (le : fuel ≤ more) {answer : Bool}
    (checked : map.checkInfinityLoopWithin pos fuel (map other) = some answer) :
    map.checkInfinityLoopWithin pos more (map other) = some answer := by
  induction fuel generalizing other more with
  | zero => cases checked
  | succ fuel ih =>
    obtain ⟨more, rfl⟩ := Nat.exists_eq_add_one_of_ne_zero (Nat.ne_zero_of_lt le)
    cases step : map.destPos other with
    | none => rwa [check_of_last map pos step] at checked ⊢
    | some after =>
      rw [check_of_step map pos step] at checked ⊢
      split at checked
      next back => rwa [if_pos back]
      next => rw [if_neg ‹_›, ih (Nat.le_of_succ_le_succ le) checked]

theorem of_check {fuel : Nat} {answer : Bool}
    (checked : map.checkInfinityLoopWithin pos fuel (map other) = some answer) :
    if answer then TransGen (Step map.destPos) other pos else LeadsOut map.destPos other := by
  induction fuel generalizing other with
  | zero => cases checked
  | succ fuel ih =>
    cases step : map.destPos other with
    | none =>
      rw [check_of_last map pos step] at checked
      cases checked
      exact leadsOut_of_none step
    | some after =>
      rw [check_of_step map pos step] at checked
      split at checked
      next back =>
        cases checked
        exact .single (back ▸ step)
      next =>
        have rest := ih checked
        cases answer with
        | false => exact (leadsOut_step step).mpr rest
        | true => exact .head step rest

theorem check_of_leadsOut (leadsOut : LeadsOut map.destPos other) :
    ∃ fuel answer, map.checkInfinityLoopWithin pos fuel (map other) = some answer := by
  have steps (other after : Position) (step : map.destPos other = some after) :
      (∃ fuel answer, map.checkInfinityLoopWithin pos fuel (map after) = some answer) →
        ∃ fuel answer, map.checkInfinityLoopWithin pos fuel (map other) = some answer := by
    rintro ⟨fuel, answer, checked⟩
    refine ⟨fuel + 1, if pos = after then true else answer, ?_⟩
    rw [check_of_step map pos step, checked]
    split <;> rfl
  obtain ⟨last, way, isLast⟩ := leadsOut
  induction way using ReflTransGen.head_induction_on with
  | refl => exact ⟨1, false, check_of_last map pos isLast 0⟩
  | head step rest ih => exact steps _ _ step ih

theorem check_of_transGen (way : TransGen (Step map.destPos) other pos) :
    ∃ fuel, map.checkInfinityLoopWithin pos fuel (map other) = some true := by
  induction way using TransGen.head_induction_on with
  | single step => exact ⟨1, by rw [check_of_step map pos step, if_pos rfl]⟩
  | @head other after step rest ih =>
    obtain ⟨fuel, checked⟩ := ih
    refine ⟨fuel + 1, ?_⟩
    rw [check_of_step map pos step, checked]
    split <;> rfl

/-- **The check.** It comes to an end just when the destinations lead out or back. -/
theorem checked_iff (step : map.destPos pos = some destPos) :
    (∃ fuel answer, map.checkInfinityLoopWithin pos fuel (map destPos) = some answer) ↔
      LeadsOut map.destPos pos ∨ LeadsBack map.destPos pos := by
  constructor
  · rintro ⟨fuel, answer, checked⟩
    have meaning := of_check checked
    cases answer with
    | false => exact .inl ((leadsOut_step step).mpr meaning)
    | true => exact .inr (.head step meaning)
  · rintro (leadsOut | leadsBack)
    · exact check_of_leadsOut ((leadsOut_step step).mp leadsOut)
    · obtain ⟨fuel, checked⟩ := check_of_transGen (leadsBack.transGen (.single step))
      exact ⟨fuel, true, checked⟩

end Check

/-! ## The moves -/

section Moves

variable {thing : Thing}

theorem addThing_of_step (existing : map.Existing) (step : map.destPos pos = some destPos)
    (fuel : Nat) : map.addThingWithin thing (fuel + 1) pos =
      match map.checkInfinityLoopWithin pos fuel (map destPos) with
      | none => none
      | some true => some { refused := true }
      | some false =>
        match thing.landing destPos with
        | none => some {}
        | some after => (map.addThingWithin thing fuel after).map fun journey =>
          { moves := after :: journey.moves } := by
  obtain ⟨destTile, isTile⟩ := Option.isSome_iff_exists.mp (existing pos destPos step)
  rw [isTile]
  cases found : map.checkInfinityLoopWithin pos fuel (some destTile) with
  | none => simp only [addThingWithin, step, isTile, found]
  | some finds =>
    cases landing : thing.landing destPos with
    | none => cases finds <;> simp only [addThingWithin, step, isTile, found, landing]
    | some after => cases finds <;> simp only [addThingWithin, step, isTile, found, landing]

theorem addThing_mono (existing : map.Existing) {fuel more : Nat} (le : fuel ≤ more)
    {journey : Journey} (added : map.addThingWithin thing fuel pos = some journey) :
    map.addThingWithin thing more pos = some journey := by
  induction fuel generalizing pos more journey with
  | zero => cases added
  | succ fuel ih =>
    obtain ⟨more, rfl⟩ := Nat.exists_eq_add_one_of_ne_zero (Nat.ne_zero_of_lt le)
    have below := Nat.le_of_succ_le_succ le
    cases step : map.destPos pos with
    | none =>
      rw [addThingWithin, step] at added ⊢
      exact added
    | some destPos =>
      rw [addThing_of_step existing step] at added ⊢
      cases checked : map.checkInfinityLoopWithin pos fuel (map destPos) with
      | none =>
        rw [checked] at added
        cases added
      | some answer =>
        rw [checked] at added
        rw [check_mono below checked]
        cases answer with
        | true => exact added
        | false =>
          cases lands : thing.landing destPos with
          | none => simpa [lands] using added
          | some after =>
            simp only [lands, Option.map_eq_some_iff] at added ⊢
            obtain ⟨rest, isRest, rfl⟩ := added
            exact ⟨rest, ih below isRest, rfl⟩

/-- **The moves.** They come to an end just when the thing comes to rest. -/
theorem moved_iff (existing : map.Existing) :
    (∃ fuel journey, map.addThingWithin thing fuel pos = some journey) ↔
      map.Rests thing.landing pos := by
  constructor
  · rintro ⟨fuel, journey, added⟩
    induction fuel generalizing pos journey with
    | zero => cases added
    | succ fuel ih =>
      cases step : map.destPos pos with
      | none => exact .here step
      | some destPos =>
        rw [addThing_of_step existing step] at added
        cases checked : map.checkInfinityLoopWithin pos fuel (map destPos) with
        | none =>
          rw [checked] at added
          cases added
        | some answer =>
          have meaning := of_check checked
          cases answer with
          | true => exact .back (.head step meaning)
          | false =>
            have leadsOut := (leadsOut_step step).mpr meaning
            cases lands : thing.landing destPos with
            | none => exact .stuck step leadsOut lands
            | some after =>
              simp only [checked, lands, Option.map_eq_some_iff] at added
              obtain ⟨rest, isRest, rfl⟩ := added
              exact .on step leadsOut lands (ih rest isRest)
  · intro rests
    have answer {pos destPos : Position} (step : map.destPos pos = some destPos)
        (leadsOut : LeadsOut map.destPos pos) :
        ∃ fuel, map.checkInfinityLoopWithin pos fuel (map destPos) = some false := by
      obtain ⟨fuel, answer, checked⟩ := (checked_iff step).mpr (.inl leadsOut)
      cases answer with
      | false => exact ⟨fuel, checked⟩
      | true => exact absurd leadsOut (LeadsBack.not_leadsOut (.head step (of_check checked)))
    induction rests with
    | here last => exact ⟨1, {}, by rw [addThingWithin, last]⟩
    | @back pos leadsBack =>
      obtain ⟨destPos, step, -⟩ := TransGen.head'_iff.mp leadsBack
      obtain ⟨fuel, checked⟩ := check_of_transGen (leadsBack.transGen (.single step))
      exact ⟨fuel + 1, _, by rw [addThing_of_step existing step, checked]⟩
    | @stuck pos destPos step leadsOut notTaken =>
      obtain ⟨fuel, checked⟩ := answer step leadsOut
      refine ⟨fuel + 1, {}, ?_⟩
      rw [addThing_of_step existing step, checked]
      simp [notTaken]
    | @on pos destPos after step leadsOut lands rests ih =>
      obtain ⟨fuel, checked⟩ := answer step leadsOut
      obtain ⟨more, journey, added⟩ := ih
      refine ⟨max fuel more + 1, { moves := after :: journey.moves }, ?_⟩
      rw [addThing_of_step existing step, check_mono (le_max_left fuel more) checked]
      simp [lands, addThing_mono existing (le_max_right fuel more) added]

theorem refused_iff (existing : map.Existing) (step : map.destPos pos = some destPos) {fuel : Nat}
    {journey : Journey} (added : map.addThingWithin thing fuel pos = some journey) :
    journey.refused = true ↔ ¬LeadsOut map.destPos pos := by
  cases fuel with
  | zero => cases added
  | succ fuel =>
    rw [addThing_of_step existing step] at added
    cases checked : map.checkInfinityLoopWithin pos fuel (map destPos) with
    | none =>
      rw [checked] at added
      cases added
    | some answer =>
      have meaning := of_check checked
      rw [checked] at added
      cases answer with
      | true =>
        cases added
        exact iff_of_true rfl (LeadsBack.not_leadsOut (.head step meaning))
      | false =>
        have leadsOut := (leadsOut_step step).mpr meaning
        refine iff_of_false ?_ (not_not.mpr leadsOut)
        cases lands : thing.landing destPos with
        | none =>
          simp only [lands, Option.some_inj] at added
          simp [← added]
        | some after =>
          simp only [lands, Option.map_eq_some_iff] at added
          obtain ⟨rest, -, rfl⟩ := added
          simp

theorem rests_creature_iff :
    map.Rests Thing.creature.landing pos ↔
      LeadsOut map.destPos pos ∨ LeadsBack map.destPos pos := by
  constructor
  · intro rests
    cases rests with
    | here last => exact .inl (leadsOut_of_none last)
    | back leadsBack => exact .inr leadsBack
    | stuck step leadsOut notTaken => exact .inl leadsOut
    | on step leadsOut lands rests => exact .inl leadsOut
  · rintro (⟨last, way, isLast⟩ | leadsBack)
    · induction way using ReflTransGen.head_induction_on with
      | refl => exact .here isLast
      | head step rest ih => exact .on step ⟨last, .head step rest, isLast⟩ rfl ih
    · exact .back leadsBack

/-- **Teleports let go** of what finds its way. -/
theorem letsGo_iff (existing : map.Existing) (isTeleport : (map.destPos pos).isSome) :
    map.LetsGo thing pos ↔ map.Loose thing pos := by
  obtain ⟨destPos, step⟩ := Option.isSome_iff_exists.mp isTeleport
  have isTile : (map pos).isSome := by
    obtain ⟨tile, isTile, -⟩ := Option.bind_eq_some_iff.mp step
    rw [isTile]
    rfl
  have reaches := reaches_iff existing isTile
  have loose : map.Loose thing pos ↔ map.Rests thing.landing pos := by
    cases thing with
    | creature => rw [rests_creature_iff, Loose, reaches]
    | item landing => rfl
  rw [loose]
  constructor
  · intro letsGo
    exact (moved_iff existing).mp letsGo.moved
  · intro rests
    refine ⟨?_, (moved_iff existing).mpr rests, fun fuel journey added => ?_⟩
    · rw [step, Option.bind_some, checked_iff step]
      cases rests with
      | here last => exact .inl (leadsOut_of_none last)
      | back leadsBack => exact .inr leadsBack
      | stuck step leadsOut notTaken => exact .inl leadsOut
      | on step leadsOut lands rests => exact .inl leadsOut
    · rw [reaches]
      exact refused_iff existing step added

end Moves

/-- Three tiles in a row, of which the first has a teleport to the second and the second one to
the third. -/
def row (last : Option Position) : Map := fun pos =>
  if pos = ⟨1, 1, 7⟩ then some { teleport := some ⟨2, 1, 7⟩ }
  else if pos = ⟨2, 1, 7⟩ then some { teleport := some ⟨3, 1, 7⟩ }
  else if pos = ⟨3, 1, 7⟩ then some { teleport := last }
  else none

theorem existing_row {last : Option Position} (isTile : ∀ pos ∈ last, (row last pos).isSome) :
    (row last).Existing := by
  intro pos destPos step
  by_cases first : pos = ⟨1, 1, 7⟩
  · subst first
    cases step
    rfl
  · by_cases second : pos = ⟨2, 1, 7⟩
    · subst second
      cases step
      rfl
    · by_cases third : pos = ⟨3, 1, 7⟩
      · subst third
        exact isTile destPos step
      · simp [Map.destPos, row, first, second, third] at step

/-- A creature is brought to the end of the row. -/
theorem letsGo_row : (row none).LetsGo .creature ⟨1, 1, 7⟩ := by
  refine (letsGo_iff (existing_row (by simp)) (by decide)).mpr
    (.inl ⟨⟨3, 1, 7⟩, {}, ?_, by decide, rfl⟩)
  have first : Step (row none).destPos ⟨1, 1, 7⟩ ⟨2, 1, 7⟩ := rfl
  have second : Step (row none).destPos ⟨2, 1, 7⟩ ⟨3, 1, 7⟩ := rfl
  exact .head first (.single second)

/-- A circle that the first teleport leads into, but is not in. -/
theorem not_letsGo_row : (row (some ⟨2, 1, 7⟩)).Existing ∧
    ((row (some ⟨2, 1, 7⟩)).destPos ⟨1, 1, 7⟩).isSome ∧
    ¬(row (some ⟨2, 1, 7⟩)).LetsGo .creature ⟨1, 1, 7⟩ := by
  refine ⟨existing_row (by decide), by decide, fun letsGo => ?_⟩
  have endless (fuel : Nat) : ∀ pos ∈ [(⟨2, 1, 7⟩ : Position), ⟨3, 1, 7⟩],
      (row (some ⟨2, 1, 7⟩)).checkInfinityLoopWithin ⟨1, 1, 7⟩ fuel
        (row (some ⟨2, 1, 7⟩) pos) = none := by
    induction fuel with
    | zero => intro pos _; rfl
    | succ fuel ih =>
      intro pos member
      rcases List.mem_cons.mp member with rfl | member
      · exact ih ⟨3, 1, 7⟩ (by decide)
      · obtain rfl := List.mem_singleton.mp member
        exact ih ⟨2, 1, 7⟩ (by decide)
  obtain ⟨fuel, answer, checked⟩ := letsGo.checked
  have never := endless fuel ⟨2, 1, 7⟩ (by decide)
  exact nomatch never.symm.trans checked

end Otserv.Teleports.Map
