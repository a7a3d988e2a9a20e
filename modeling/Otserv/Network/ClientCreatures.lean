import Otserv.Network.KnownCreatures

/-!
# Client and server agree on the known creatures

The creature that is told of is in the set before one to be removed is looked for. So the search
may meet the creature itself: if the set is full, the creature is not seen and none before it is
unseen (`MeetsItself`). Then the server forgets the creature and the client learns it. In every
other call the two stay the same set, of at most 1300 creatures (`agree_iff_apart`). What the
server takes for known the client always knows (`known_throughout`).
-/

namespace Otserv.Network.Creatures

open Foundation

variable {before : Creatures} {call : CreatureCall}

/-- What is to hold after a call. -/
structure Agree (before : Creatures) (call : CreatureCall) (after : Creatures) : Prop where
  same : after.client = after.knownCreatureSet
  bounded : after.client.card ≤ 1300
  learned : call.id ∈ after.client
  known : (before.check call).1 = .known → call.id ∈ before.client

/-- The search for a creature to remove finds the one that has just been put in. -/
structure MeetsItself (before : Creatures) (call : CreatureCall) : Prop where
  unknown : call.id ∉ before.knownCreatureSet
  full : before.knownCreatureSet.card = 1300
  unseen : call.view.canSee call.id = false
  first : ∃ front rest, call.order = front ++ call.id :: rest ∧
    ∀ other ∈ front, call.view.canSee other = true

/-- Client and server agree, on a set that is not too large. -/
structure Agreed (creatures : Creatures) : Prop where
  same : creatures.client = creatures.knownCreatureSet
  bounded : creatures.knownCreatureSet.card ≤ 1300
  ids : 0 ∉ creatures.knownCreatureSet

theorem agreed_start : Agreed {} :=
  ⟨rfl, Nat.zero_le _, Finset.notMem_empty _⟩

theorem tell_of_known (isKnown : call.id ∈ before.knownCreatureSet) :
    (before.check call).1 = .known ∧ before.tell call = before := by
  simp [tell, check, checkCreatureAsKnown, isKnown, Known.learn]

theorem tell_of_room (unknown : call.id ∉ before.knownCreatureSet)
    (room : before.knownCreatureSet.card < 1300) :
    (before.check call).1 = .unknown 0 ∧ before.tell call =
      { knownCreatureSet := insert call.id before.knownCreatureSet
        client := insert call.id before.client } := by
  have fits : ¬(insert call.id before.knownCreatureSet).card > 1300 := by
    rw [Finset.card_insert_of_notMem unknown]
    omega
  have adds : before.check call = (.unknown 0, insert call.id before.knownCreatureSet) := by
    rw [check, checkCreatureAsKnown, if_neg unknown, if_neg fits]
  simp [tell, adds, Known.learn]

/-- The creature that is removed when the set is full. -/
def removed (call : CreatureCall) : UInt32 :=
  (call.order.find? fun other => !call.view.canSee other).getD (anyoneElse call.id call.order)

theorem tell_of_full (unknown : call.id ∉ before.knownCreatureSet)
    (full : before.knownCreatureSet.card = 1300) (isId : removed call ≠ 0) :
    (before.check call).1 = .unknown (removed call) ∧ before.tell call =
      { knownCreatureSet := (insert call.id before.knownCreatureSet).erase (removed call)
        client := insert call.id (before.client.erase (removed call)) } := by
  have tooMany : (insert call.id before.knownCreatureSet).card > 1300 := by
    rw [Finset.card_insert_of_notMem unknown]
    omega
  have removes : before.check call = (.unknown (removed call),
      (insert call.id before.knownCreatureSet).erase (removed call)) := by
    rw [check, checkCreatureAsKnown, if_neg unknown, if_pos tooMany]
    rfl
  simp [tell, removes, isId, Known.learn]

theorem anyoneElse_spec (id : UInt32) :
    ∀ {order : List UInt32}, order.Nodup → 2 ≤ order.length →
      anyoneElse id order ∈ order ∧ anyoneElse id order ≠ id
  | [], _, long => absurd long (by simp)
  | [_], _, long => absurd long (by simp)
  | first :: second :: _, nodup, _ => by
      by_cases itself : first = id
      · have other : second ≠ id := by
          rintro rfl
          exact (List.nodup_cons.mp nodup).1 (by simp [itself])
        simp [anyoneElse, itself, other]
      · simp [anyoneElse, itself]

theorem Asks.length_order (asks : Asks before call) (unknown : call.id ∉ before.knownCreatureSet) :
    call.order.length = before.knownCreatureSet.card + 1 := by
  have sameSet : call.order.toFinset = insert call.id before.knownCreatureSet := by
    ext other
    simp [asks.order]
  rw [← List.toFinset_card_of_nodup asks.nodup, sameSet, Finset.card_insert_of_notMem unknown]

theorem removed_spec (asks : Asks before call) (unknown : call.id ∉ before.knownCreatureSet)
    (full : before.knownCreatureSet.card = 1300) :
    removed call ∈ call.order ∧ (removed call = call.id ↔ MeetsItself before call) := by
  cases found : call.order.find? fun other => !call.view.canSee other with
  | some other =>
    have isRemoved : removed call = other := by simp [removed, found]
    obtain ⟨unseen, front, rest, split, seen⟩ := List.find?_eq_some_iff_append.mp found
    simp only [Bool.not_eq_true', Bool.not_not] at unseen seen
    have isIn : other ∈ call.order := List.mem_of_find?_eq_some found
    refine ⟨isRemoved ▸ isIn, ?_⟩
    rw [isRemoved]
    constructor
    · rintro rfl
      exact ⟨unknown, full, unseen, front, rest, split, seen⟩
    · intro meets
      obtain ⟨before, after, isSplit, allSeen⟩ := meets.first
      have isFirst : call.order.find? (fun other => !call.view.canSee other) = some call.id :=
        List.find?_eq_some_iff_append.mpr ⟨by simp [meets.unseen], before, after, isSplit,
          fun other isBefore => by simp [allSeen other isBefore]⟩
      exact Option.some.inj (found.symm.trans isFirst)
  | none =>
    have isRemoved : removed call = anyoneElse call.id call.order := by simp [removed, found]
    have allSeen : ∀ other ∈ call.order, call.view.canSee other = true := by
      simpa using found
    have idIn : call.id ∈ call.order := (asks.order _).mpr (.inl rfl)
    have meetsNot : ¬MeetsItself before call := fun meets => by
      simpa [meets.unseen] using allSeen _ idIn
    have long : 2 ≤ call.order.length := by
      rw [asks.length_order unknown, full]
      omega
    obtain ⟨isIn, other⟩ := anyoneElse_spec call.id asks.nodup long
    rw [isRemoved]
    exact ⟨isIn, iff_of_false other meetsNot⟩

/-- A call keeps client and server together exactly if the search does not meet the creature
itself. -/
theorem agree_iff (agreed : Agreed before) (asks : Asks before call) :
    (Agree before call (before.tell call) ↔ ¬MeetsItself before call) ∧
      (Agree before call (before.tell call) → Agreed (before.tell call)) := by
  by_cases isKnown : call.id ∈ before.knownCreatureSet
  · obtain ⟨-, unchanged⟩ := tell_of_known isKnown
    rw [unchanged]
    have inClient : call.id ∈ before.client := agreed.same ▸ isKnown
    refine ⟨iff_of_true ⟨agreed.same, agreed.same ▸ agreed.bounded, inClient, fun _ => inClient⟩
      fun meets => meets.unknown isKnown, fun _ => agreed⟩
  by_cases room : before.knownCreatureSet.card < 1300
  · obtain ⟨answer, after⟩ := tell_of_room isKnown room
    have small : (insert call.id before.knownCreatureSet).card ≤ 1300 := by
      rw [Finset.card_insert_of_notMem isKnown]
      omega
    rw [after]
    refine ⟨iff_of_true ⟨by rw [agreed.same], by rw [agreed.same]; exact small, by simp,
      by simp [answer]⟩ fun meets => by have := meets.full; omega, fun _ =>
      ⟨by rw [agreed.same], small, by simp [agreed.ids, asks.isId.symm]⟩⟩
  have full : before.knownCreatureSet.card = 1300 := by
    have := agreed.bounded
    omega
  obtain ⟨isIn, itself⟩ := removed_spec asks isKnown full
  have isId : removed call ≠ 0 := by
    intro zero
    rw [zero, asks.order] at isIn
    rcases isIn with isZero | isZero
    · exact asks.isId isZero.symm
    · exact agreed.ids isZero
  obtain ⟨answer, after⟩ := tell_of_full isKnown full isId
  rw [after, ← itself]
  by_cases meets : removed call = call.id
  · have apart : ¬Agree before call
        { knownCreatureSet := (insert call.id before.knownCreatureSet).erase (removed call)
          client := insert call.id (before.client.erase (removed call)) } := by
      intro agree
      have learned := agree.same ▸ agree.learned
      simp [meets] at learned
    exact ⟨iff_of_false apart (not_not.mpr meets), fun agree => absurd agree apart⟩
  · have small : ((insert call.id before.knownCreatureSet).erase (removed call)).card ≤ 1300 := by
      rw [Finset.card_erase_of_mem (by simpa [asks.order] using isIn),
        Finset.card_insert_of_notMem isKnown]
      omega
    have same : insert call.id (before.client.erase (removed call)) =
        (insert call.id before.knownCreatureSet).erase (removed call) := by
      rw [agreed.same, Finset.erase_insert_of_ne (Ne.symm meets)]
    refine ⟨iff_of_true ⟨same, same ▸ small, by simp, by simp [answer]⟩ meets, fun _ =>
      ⟨same, small, by simp [agreed.ids, asks.isId.symm]⟩⟩

/-- **Client and server agree** throughout a run exactly if no search meets the creature that has
just been put in. -/
theorem agree_iff_apart {calls : List CreatureCall} (legal : telling.Legal {} calls) :
    telling.Throughout Agree {} calls ↔
      telling.Throughout (fun before call _ => ¬MeetsItself before call) {} calls := by
  have step : ∀ before call, Agreed before → telling.legal before call →
      (Agree before call (telling.step before call) ↔ ¬MeetsItself before call) ∧
        (Agree before call (telling.step before call) → Agreed (telling.step before call)) :=
    fun _ _ => agree_iff
  exact System.Throughout.iff_of_invariant step agreed_start legal

/-- What the server takes for known is known to the client, and not too much. -/
structure Covered (creatures : Creatures) : Prop where
  subset : creatures.knownCreatureSet ⊆ creatures.client
  bounded : creatures.knownCreatureSet.card ≤ 1300
  ids : 0 ∉ creatures.knownCreatureSet

theorem Covered.tell (covered : Covered before) (asks : Asks before call) :
    Covered (before.tell call) := by
  by_cases isKnown : call.id ∈ before.knownCreatureSet
  · rwa [(tell_of_known isKnown).2]
  have ids : 0 ∉ insert call.id before.knownCreatureSet := by
    simp [covered.ids, asks.isId.symm]
  have card := Finset.card_insert_of_notMem isKnown
  rcases covered.bounded.lt_or_eq with room | full
  · rw [(tell_of_room isKnown room).2]
    exact ⟨Finset.insert_subset_insert _ covered.subset, card.trans_le room, ids⟩
  have isIn : removed call ∈ insert call.id before.knownCreatureSet := by
    simpa [asks.order] using (removed_spec asks isKnown full).1
  rw [(tell_of_full isKnown full fun zero => ids (zero ▸ isIn)).2]
  refine ⟨fun other among => ?_, ?_, fun zero => ids (Finset.mem_of_mem_erase zero)⟩
  · have := @covered.subset other
    simp only [Finset.mem_erase, Finset.mem_insert] at among ⊢
    tauto
  · rw [Finset.card_erase_of_mem isIn, card, full]

/-- **The server takes no creature for known that the client does not know**, in any run: also
where the search meets the creature itself. -/
theorem known_throughout {calls : List CreatureCall} (legal : telling.Legal {} calls) :
    telling.Throughout (fun before call after =>
      ((before.check call).1 = .known → call.id ∈ before.client) ∧ Covered after) {} calls := by
  have step : ∀ before call, Covered before → telling.legal before call → True →
      (((before.check call).1 = .known → call.id ∈ before.client) ∧
        Covered (telling.step before call)) ∧ Covered (telling.step before call) := by
    intro before call covered asks _
    refine ⟨⟨fun answer => covered.subset ?_, covered.tell asks⟩, covered.tell asks⟩
    by_contra isKnown
    unfold check checkCreatureAsKnown at answer
    rw [if_neg isKnown] at answer
    dsimp only at answer
    split at answer <;> cases answer
  have initial : Covered {} := ⟨subset_rfl, Nat.zero_le _, Finset.notMem_empty _⟩
  have always : telling.Throughout (fun _ _ _ => True) {} calls :=
    .mono (fun _ _ _ => trivial) legal
  exact .of_invariant step initial legal always

/-- All but one creature are seen. -/
def crowded (unseen : UInt32) : View where
  player := some { id := 1, myPos := ⟨100, 100, 7⟩ }
  getCreatureByID id := some { isInGhostMode := id = unseen, position := ⟨100, 100, 7⟩ }

/-- Calls for creatures after those that are known already, each found first in the set, and at
last a call for the one that is not seen. -/
def crowding (unseen : UInt32) : List UInt32 → List UInt32 → List CreatureCall
  | known, [] => [⟨unseen, unseen :: known, crowded unseen⟩]
  | known, id :: ids => ⟨id, id :: known, crowded unseen⟩ :: crowding unseen (id :: known) ids

theorem asks_next {known : List UInt32} {id : UInt32} (view : View) (isId : id ≠ 0)
    (nodup : (id :: known).Nodup) : Asks ⟨known.toFinset, known.toFinset⟩ ⟨id, id :: known, view⟩ :=
  ⟨isId, nodup, by simp⟩

/-- A creature that is not seen is told of twice. -/
theorem agree_twice : telling.Throughout Agree {} [⟨3, [3], crowded 3⟩, ⟨3, [3], crowded 3⟩] := by
  refine (agree_iff_apart ?_).mpr ?_
  · refine ⟨@asks_next [] 3 _ (by decide) (by simp), ⟨by decide, by simp, ?_⟩, trivial⟩
    simp [telling, tell, check, checkCreatureAsKnown]
  · exact ⟨fun meets => absurd meets.full (by decide), fun meets => absurd meets.full (by decide),
      trivial⟩

theorem known_throughout_once : Covered (telling.step {} ⟨3, [3], crowded 3⟩) :=
  (@known_throughout [⟨3, [3], crowded 3⟩] ⟨@asks_next [] 3 _ (by decide) (by simp), trivial⟩).1.2

/-- While there is room, one creature after the other is learned. At last the creature that is
not seen is forgotten by the server only. -/
theorem crowding_spec {unseen : UInt32} (other : unseen ≠ 1) (isId : unseen ≠ 0) :
    ∀ ids known : List UInt32, (unseen :: ids ++ known).Nodup → 0 ∉ ids ++ known →
      known.length + ids.length = 1300 →
        telling.Legal ⟨known.toFinset, known.toFinset⟩ (crowding unseen known ids) ∧
          ¬telling.Throughout Agree ⟨known.toFinset, known.toFinset⟩ (crowding unseen known ids)
  | [], known, nodup, nonzero, full => by
      rw [List.singleton_append] at nodup
      have card : known.toFinset.card = 1300 := by
        rw [List.toFinset_card_of_nodup (List.nodup_cons.mp nodup).2]
        simpa using full
      have asks := asks_next (crowded unseen) isId nodup
      have unseenNow : (crowded unseen).canSee unseen = false := by
        simp [crowded, View.canSee, Viewer.canSeeCreature, other]
      have isUnknown : unseen ∉ known.toFinset := by
        simpa using (List.nodup_cons.mp nodup).1
      have meets : MeetsItself ⟨known.toFinset, known.toFinset⟩
          ⟨unseen, unseen :: known, crowded unseen⟩ :=
        ⟨isUnknown, card, unseenNow, [], known, rfl, by simp⟩
      have agreed : Agreed ⟨known.toFinset, known.toFinset⟩ :=
        ⟨rfl, card.le, by simpa using nonzero⟩
      exact ⟨⟨asks, trivial⟩, fun agree => (agree_iff agreed asks).1.mp agree.1 meets⟩
  | id :: ids, known, nodup, nonzero, full => by
      have nodupNext : (unseen :: ids ++ id :: known).Nodup :=
        nodup.perm (.cons _ (List.perm_middle.symm))
      have apart : (id :: known).Nodup := (List.nodup_append.mp nodupNext).2.1
      have room : known.toFinset.card < 1300 := by
        have := known.toFinset_card_le
        simp only [List.length_cons] at full
        omega
      have isUnknown : id ∉ known.toFinset := by
        simpa using (List.nodup_cons.mp apart).1
      have asks := asks_next (crowded unseen) (fun zero => nonzero (by simp [zero])) apart
      have after := (@tell_of_room ⟨known.toFinset, known.toFinset⟩
        ⟨id, id :: known, crowded unseen⟩ isUnknown room).2
      have onwards := crowding_spec other isId ids (id :: known) nodupNext
        (by simpa [or_left_comm] using nonzero) (by simp only [List.length_cons] at full ⊢; omega)
      rw [List.toFinset_cons, ← after] at onwards
      exact ⟨⟨asks, onwards.1⟩, fun agree => onwards.2 agree.2⟩

/-- The ids of the creatures that fill the set. -/
def crowd : List UInt32 := (List.range 1300).map fun n => .ofNat (n + 2)

theorem notAgree_crowd : telling.Legal {} (crowding 2000 [] crowd) ∧
    ¬telling.Throughout Agree {} (crowding 2000 [] crowd) := by
  have isSmall (id : UInt32) (isIn : id ∈ crowd) : 2 ≤ id.toNat ∧ id.toNat < 1302 := by
    simp only [crowd, List.mem_map, List.mem_range] at isIn
    obtain ⟨n, less, rfl⟩ := isIn
    rw [UInt32.toNat_ofNat']
    omega
  have nodup : crowd.Nodup := by
    refine .map_on (fun n less m lessAlso same => ?_) List.nodup_range
    have sameNat := congrArg UInt32.toNat same
    simp only [List.mem_range] at less lessAlso
    rw [UInt32.toNat_ofNat', UInt32.toNat_ofNat'] at sameNat
    omega
  have apart : (2000 : UInt32) ∉ crowd := fun isIn => absurd (isSmall _ isIn).2 (by decide)
  have nonzero : (0 : UInt32) ∉ crowd := fun isIn => absurd (isSmall _ isIn).1 (by decide)
  have long : crowd.length = 1300 := by
    rw [crowd, List.length_map, List.length_range]
  exact crowding_spec (by decide) (by decide) crowd []
    (by simpa using List.nodup_cons.mpr ⟨apart, nodup⟩) (by simpa using nonzero)
    (by rw [long, List.length_nil])

end Otserv.Network.Creatures
