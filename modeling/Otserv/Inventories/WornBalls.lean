import Otserv.Foundation.Holdings
import Otserv.Inventories.Inventory

/-!
# The pokeballs a player wears

The list of a player is exact when it has every pokeball in a slot or anywhere inside what is in
one, each once (`Player.Exact`). Every operation is an item that enters or leaves what the player
has, or one that takes another's place. The functions of the slots, and `addItemBack` and
`replaceThing` of containers, do so with the list unchanged; `addThing` and `removeThing` of
containers change it by what the list of the item says.
-/

namespace Otserv.Containers.Heap

open Foundation

variable {heap : Heap}

/-- The last of the containers above is reached. -/
theorem Formed.top_spec (formed : heap.Formed) (pointer : Nat) :
    Within heap.parent pointer (heap.top pointer) ∧ heap.parent (heap.top pointer) = none := by
  obtain ⟨cost, rising⟩ := formed.rising
  have general (fuel node : Nat)
      (enough : node ∈ heap.live → Rising.rank heap.live cost node < fuel) :
      Within heap.parent node (heap.topWithin fuel node) ∧
        heap.parent (heap.topWithin fuel node) = none := by
    induction fuel generalizing node with
    | zero =>
      refine ⟨.refl, Option.eq_none_iff_forall_not_mem.mpr fun above isParent => ?_⟩
      exact Nat.not_lt_zero _ (enough (formed.present isParent))
    | succ fuel ih =>
      rw [topWithin]
      cases isParent : heap.parent node with
      | none => exact ⟨.refl, isParent⟩
      | some above =>
        have lower := rising.rank_lt (formed.present isParent) isParent
        have less := enough (formed.present isParent)
        obtain ⟨within, isRoot⟩ := ih above fun _ => by omega
        exact ⟨.head isParent within, isRoot⟩
  exact general _ pointer Rising.rank_lt_card

end Otserv.Containers.Heap

namespace Otserv.Inventories

open Foundation
open Function (update update_of_ne update_self)
open Containers (Heap)
open Containers.Heap (Brings isBall isBall_congr)
open Items (Game Item)

namespace Player

/-- An item is in a slot. -/
def worn (player : Player) (item : Nat) : Prop := ∃ slot, item ∈ player.inventory slot

/-- An item is in a slot, or anywhere inside what is in one. -/
def holds (player : Player) (item : Nat) : Prop := Held player.worn player.heap.parent item

/-- **The list is exact.** -/
def Exact (game : Game) (player : Player) : Prop :=
  Tells player.pokeballs fun ball => player.heap.isBall game ball ∧ player.holds ball

/-- The items of the game are a forest, the slots have roots of it, each one of its own, and these
are the items whose parent is the player. -/
structure Dressed (player : Player) : Prop where
  formed : player.heap.Formed
  slots : ∀ {slot item}, item ∈ player.inventory slot →
    CONST_SLOT_FIRST ≤ slot ∧ slot ≤ CONST_SLOT_LAST
  single : ∀ {slot other item}, item ∈ player.inventory slot → item ∈ player.inventory other →
    slot = other
  parented_iff : ∀ item, player.parented item = true ↔ player.worn item
  loose : ∀ item, player.worn item → player.heap.parent item = none
  plain : ∀ item, player.worn item → player.heap.skips item = false

variable {game : Game} {player : Player} {pointer item : Nat}

theorem getInventoryItem_eq (dressed : player.Dressed) (slot : Nat) :
    player.getInventoryItem slot = player.inventory slot := by
  rw [getInventoryItem]
  split_ifs with outside
  · cases isIn : player.inventory slot with
    | none => rfl
    | some item =>
      have inside := dressed.slots isIn
      omega
  · rfl

theorem getThingIndex_eq_some (dressed : player.Dressed) {slot : Nat} :
    player.getThingIndex item = some slot ↔ item ∈ player.inventory slot := by
  have isIn {index : Nat} (found : player.getThingIndex item = some index) :
      item ∈ player.inventory index := by
    have holds := List.find?_some found
    rwa [decide_eq_true_eq] at holds
  refine ⟨isIn, fun isThere => ?_⟩
  have inRange : slot ∈ List.range' CONST_SLOT_FIRST CONST_SLOT_LAST :=
    List.mem_range'_1.mpr ((dressed.slots isThere).imp_right fun most =>
      Nat.lt_of_le_of_lt most (by decide))
  cases found : player.getThingIndex item with
  | none =>
    have nowhere := List.find?_eq_none.mp found slot inRange
    rw [decide_eq_true_eq] at nowhere
    exact absurd isThere nowhere
  | some index => rw [dressed.single (isIn found) isThere]

theorem getThingIndex_eq_none (dressed : player.Dressed) :
    player.getThingIndex item = none ↔ ¬ player.worn item := by
  constructor
  · rintro nowhere ⟨slot, isIn⟩
    rw [(getThingIndex_eq_some dressed).mpr isIn] at nowhere
    cases nowhere
  · intro unworn
    cases found : player.getThingIndex item with
    | none => rfl
    | some slot => exact absurd ⟨slot, (getThingIndex_eq_some dressed).mp found⟩ unworn

/-- A container finds the player above exactly when the player has it. -/
theorem isTopParent_iff (dressed : player.Dressed) (pointer : Nat) :
    player.isTopParent pointer = true ↔ player.holds pointer := by
  obtain ⟨within, isRoot⟩ := dressed.formed.top_spec pointer
  rw [holds, Held.iff_of_within dressed.loose within, isTopParent, Bool.and_eq_true,
    Bool.not_eq_true', dressed.parented_iff]
  constructor
  · rintro ⟨isWorn, -⟩
    exact ⟨_, isWorn, .refl⟩
  · rintro ⟨root, isWorn, up⟩
    rw [within_root isRoot] at up
    subst up
    exact ⟨isWorn, dressed.plain _ isWorn⟩

theorem foldl_insertPokeball (list : List Nat) (player : Player) :
    list.foldl insertPokeball player = { player with pokeballs := player.pokeballs ++ list } := by
  induction list generalizing player with
  | nil => rw [List.foldl_nil, List.append_nil]
  | cons pokeball list ih =>
    rw [List.foldl_cons, ih, insertPokeball, List.append_assoc, List.singleton_append]

theorem foldl_removeBallFromCache (list : List Nat) (player : Player) :
    list.foldl removeBallFromCache player =
      { player with pokeballs := player.pokeballs.diff list } := by
  induction list generalizing player with
  | nil => rw [List.foldl_nil, List.diff_nil]
  | cons pokeball list ih => rw [List.foldl_cons, ih, removeBallFromCache, List.diff_cons]

/-- A stack of another size is the same kind of item. -/
theorem isBall_of_count {heap other : Heap} {count : UInt16}
    (items : other.item =
      update heap.item item ((heap.item item).setItemCount count)) :
    other.isBall game = heap.isBall game := by
  funext ball
  rw [isBall, isBall, items]
  by_cases here : ball = item
  · rw [here, update_self]
    rfl
  · rw [update_of_ne here]

/-! ## Items that enter and leave -/

section Exactness

variable {after : Player} (exactly : player.Exact game)
  (sameBalls : after.heap.isBall game = player.heap.isBall game)
include exactly sameBalls

/-- Nothing has moved. -/
theorem exact_of_same (sameList : after.pokeballs = player.pokeballs)
    (same : ∀ ball, after.holds ball ↔ player.holds ball) : after.Exact game := by
  rw [Exact, sameBalls, sameList]
  exact (Tells.congr fun ball => and_congr_right fun _ => (same ball).symm).mp exactly

theorem exact_enter_iff {more : List Nat} (longer : after.pokeballs = player.pokeballs ++ more)
    (enters : ∀ ball, after.holds ball ↔
      player.holds ball ∨ Within player.heap.parent ball item)
    (apart : ∀ ball, Within player.heap.parent ball item → ¬ player.holds ball) :
    after.Exact game ↔ Tells more (player.heap.Brings game item) := by
  rw [Exact, sameBalls, longer]
  refine (Tells.congr fun ball => ?_).trans (exactly.append_iff ?_)
  · rw [enters, and_or_left]
  · rintro ball ⟨-, within⟩ ⟨-, held⟩
    exact apart ball within held

theorem exact_enter_same_iff (sameList : after.pokeballs = player.pokeballs)
    (enters : ∀ ball, after.holds ball ↔
      player.holds ball ∨ Within player.heap.parent ball item)
    (apart : ∀ ball, Within player.heap.parent ball item → ¬ player.holds ball) :
    after.Exact game ↔ ∀ ball, ¬ player.heap.Brings game item ball := by
  rw [exact_enter_iff exactly sameBalls (sameList.trans (List.append_nil _).symm) enters apart,
    Tells.nil_iff]

theorem exact_leave_iff {gone : List Nat} (shorter : after.pokeballs = player.pokeballs.diff gone)
    (leaves : ∀ ball, after.holds ball ↔
      player.holds ball ∧ ¬ Within player.heap.parent ball item) :
    after.Exact game ↔ ∀ ball, player.heap.isBall game ball → player.holds ball →
      (ball ∈ gone ↔ Within player.heap.parent ball item) := by
  have diff := @Tells.diff_iff _ _ gone _
    (fun ball => Within player.heap.parent ball item) _ exactly
  rw [Exact, sameBalls, shorter]
  refine (Tells.congr fun ball => ?_).trans (diff.trans ?_)
  · rw [leaves, and_assoc]
  · simp only [and_imp]

theorem exact_leave_same_iff (sameList : after.pokeballs = player.pokeballs)
    (leaves : ∀ ball, after.holds ball ↔
      player.holds ball ∧ ¬ Within player.heap.parent ball item)
    (held : player.holds item)
    (roots : ∀ item, player.worn item → player.heap.parent item = none) :
    after.Exact game ↔ ∀ ball, ¬ player.heap.Brings game item ball := by
  rw [exact_leave_iff exactly sameBalls (sameList.trans (List.diff_nil _).symm) leaves]
  constructor
  · rintro same ball ⟨isBall, within⟩
    have isHeld : player.holds ball := (Held.iff_of_within roots within).mpr held
    exact List.not_mem_nil ((same ball isBall isHeld).mpr within)
  · intro none ball isBall _
    exact iff_of_false List.not_mem_nil fun within => none ball ⟨isBall, within⟩

theorem exact_swap_iff {oldItem : Nat} (sameList : after.pokeballs = player.pokeballs)
    (swaps : ∀ ball, after.holds ball ↔
      player.holds ball ∧ ¬ Within player.heap.parent ball oldItem ∨
        Within player.heap.parent ball item)
    (held : player.holds oldItem)
    (apart : ∀ ball, Within player.heap.parent ball item → ¬ player.holds ball)
    (roots : ∀ item, player.worn item → player.heap.parent item = none) :
    after.Exact game ↔ (∀ ball, ¬ player.heap.Brings game item ball) ∧
      ∀ ball, ¬ player.heap.Brings game oldItem ball := by
  rw [Exact, sameBalls, sameList]
  refine (Tells.congr fun ball => ?_).trans (exactly.swap_iff ?_ ?_)
  · rw [swaps]
    constructor
    · rintro ⟨isBall, ⟨isHeld, stays⟩ | enters⟩
      · exact .inl ⟨⟨isBall, isHeld⟩, fun brings => stays brings.2⟩
      · exact .inr ⟨isBall, enters⟩
    · rintro (⟨⟨isBall, isHeld⟩, stays⟩ | ⟨isBall, enters⟩)
      · exact ⟨isBall, .inl ⟨isHeld, fun within => stays ⟨isBall, within⟩⟩⟩
      · exact ⟨isBall, .inr enters⟩
  · rintro ball ⟨isBall, within⟩
    exact ⟨isBall, (Held.iff_of_within roots within).mpr held⟩
  · rintro ball ⟨-, within⟩ ⟨-, isHeld⟩
    exact apart ball within isHeld

end Exactness

/-! ## Slots -/

section Slots

variable (dressed : player.Dressed)
include dressed

theorem Dressed.unworn (unworn : player.parented item = false) : ¬ player.worn item := by
  intro isWorn
  rw [(dressed.parented_iff item).mpr isWorn] at unworn
  cases unworn

/-- What comes along with a spare item is not held yet. -/
theorem Dressed.apart (loose : player.heap.parent item = none)
    (unworn : player.parented item = false) (ball : Nat)
    (within : Within player.heap.parent ball item) : ¬ player.holds ball :=
  Held.not_of_root dressed.loose loose (dressed.unworn unworn) within

theorem Dressed.put (spare : player.Spare item) {slot : Nat}
    (inRange : CONST_SLOT_FIRST ≤ slot ∧ slot ≤ CONST_SLOT_LAST) {parented : Nat → Bool}
    (parented_iff : ∀ other, parented other = true ↔
      player.worn other ∧ other ∉ player.inventory slot ∨ other = item) :
    let after : Player := { player with
      parented := parented
      inventory := update player.inventory slot (some item) }
    after.Dressed ∧ ∀ other, after.worn other ↔
      player.worn other ∧ other ∉ player.inventory slot ∨ other = item := by
  intro after
  have here : after.inventory slot = some item := update_self _ _ _
  have elsewhere {other : Nat} (different : other ≠ slot) :
      after.inventory other = player.inventory other := update_of_ne different _ _
  have wears (other : Nat) : after.worn other ↔
      player.worn other ∧ other ∉ player.inventory slot ∨ other = item := by
    constructor
    · rintro ⟨place, isIn⟩
      by_cases same : place = slot
      · rw [same, here, Option.mem_some_iff] at isIn
        exact .inr isIn.symm
      · rw [elsewhere same] at isIn
        exact .inl ⟨⟨place, isIn⟩, fun isThere => same (dressed.single isIn isThere)⟩
    · rintro (⟨⟨place, isIn⟩, stays⟩ | rfl)
      · have different : place ≠ slot := by
          rintro rfl
          exact stays isIn
        exact ⟨place, (elsewhere different).symm ▸ isIn⟩
      · exact ⟨slot, here⟩
  -- the item was in no other slot
  have absent (place : Nat) : item ∉ player.inventory place := fun isIn =>
    dressed.unworn spare.unworn ⟨place, isIn⟩
  refine ⟨?_, wears⟩
  exact
    { formed := dressed.formed
      slots := by
        intro place other isIn
        by_cases same : place = slot
        · rwa [same]
        · rw [elsewhere same] at isIn
          exact dressed.slots isIn
      single := by
        intro first second other inFirst inSecond
        by_cases isFirst : first = slot
        · rw [isFirst, here, Option.mem_some_iff] at inFirst
          subst inFirst
          by_contra different
          rw [elsewhere (isFirst ▸ Ne.symm different)] at inSecond
          exact absent second inSecond
        · rw [elsewhere isFirst] at inFirst
          by_cases isSecond : second = slot
          · rw [isSecond, here, Option.mem_some_iff] at inSecond
            exact absurd (inSecond ▸ inFirst) (absent first)
          · rw [elsewhere isSecond] at inSecond
            exact dressed.single inFirst inSecond
      parented_iff := fun other => (parented_iff other).trans (wears other).symm
      loose := by
        intro other isWorn
        rcases (wears other).mp isWorn with ⟨wasWorn, -⟩ | rfl
        · exact dressed.loose other wasWorn
        · exact spare.loose
      plain := by
        intro other isWorn
        rcases (wears other).mp isWorn with ⟨wasWorn, -⟩ | rfl
        · exact dressed.plain other wasWorn
        · exact spare.plain }

theorem Dressed.takeOff {slot : Nat} (isIn : item ∈ player.inventory slot) :
    let after : Player := { player with
      parented := update player.parented item false
      inventory := update player.inventory slot none }
    after.Dressed ∧ ∀ other, after.worn other ↔ player.worn other ∧ other ≠ item := by
  intro after
  have here : after.inventory slot = none := update_self _ _ _
  have elsewhere {other : Nat} (different : other ≠ slot) :
      after.inventory other = player.inventory other := update_of_ne different _ _
  have fewer {place other : Nat} (isThere : other ∈ after.inventory place) :
      place ≠ slot ∧ other ∈ player.inventory place := by
    by_cases same : place = slot
    · rw [same, here] at isThere
      cases isThere
    · exact ⟨same, elsewhere same ▸ isThere⟩
  have wears (other : Nat) : after.worn other ↔ player.worn other ∧ other ≠ item := by
    constructor
    · rintro ⟨place, isThere⟩
      obtain ⟨different, wasThere⟩ := fewer isThere
      refine ⟨⟨place, wasThere⟩, ?_⟩
      rintro rfl
      exact different (dressed.single wasThere isIn)
    · rintro ⟨⟨place, isThere⟩, different⟩
      have apart : place ≠ slot := by
        rintro rfl
        exact different (Option.mem_unique isThere isIn)
      exact ⟨place, (elsewhere apart).symm ▸ isThere⟩
  refine ⟨?_, wears⟩
  exact
    { formed := dressed.formed
      slots := fun isThere => dressed.slots (fewer isThere).2
      single := fun inFirst inSecond => dressed.single (fewer inFirst).2 (fewer inSecond).2
      parented_iff := by
        intro other
        rw [wears]
        by_cases same : other = item
        · rw [same, show after.parented item = false from update_self _ _ _]
          exact iff_of_false Bool.false_ne_true fun both => both.2 rfl
        · rw [show after.parented other = player.parented other from
            update_of_ne same _ _, dressed.parented_iff, and_iff_left same]
      loose := fun other isWorn => dressed.loose other ((wears other).mp isWorn).1
      plain := fun other isWorn => dressed.plain other ((wears other).mp isWorn).1 }

omit dressed in
/-- What lies in no container has none above, and this is not changed. -/
theorem setParent_loose (loose : player.heap.parent item = none) :
    player.heap.setParent item none = player.heap := by
  have same : update player.heap.parent item none = player.heap.parent :=
    (congrArg (update player.heap.parent item) loose.symm).trans
      (Function.update_eq_self _ _)
  rw [Heap.setParent, same]

variable (exactly : player.Exact game)
include exactly

/-- **`Player::addThing`** changes no list. -/
theorem exact_addThing_iff (spare : player.Spare item) {index : Int32}
    (isFree : player.inventory index.toInt.toNat = none) :
    (player.addThing index item).Dressed ∧ ((player.addThing index item).Exact game ↔
      (index.toInt < CONST_SLOT_FIRST ∨ index.toInt > CONST_SLOT_LAST ∨
        ∀ ball, ¬ player.heap.Brings game item ball)) := by
  rw [addThing, ← or_assoc]
  by_cases outside : index.toInt < CONST_SLOT_FIRST ∨ index.toInt > CONST_SLOT_LAST
  · rw [if_pos outside]
    exact ⟨dressed, iff_of_true exactly (.inl outside)⟩
  rw [if_neg outside, or_iff_right outside, adopt, setSlot, setParent_loose spare.loose]
  have inRange : CONST_SLOT_FIRST ≤ index.toInt.toNat ∧ index.toInt.toNat ≤ CONST_SLOT_LAST := by
    omega
  have free (other : Nat) : other ∉ player.inventory index.toInt.toNat := by
    rw [isFree]
    exact Option.not_mem_none other
  have parented_iff (other : Nat) : update player.parented item true other = true ↔
      player.worn other ∧ other ∉ player.inventory index.toInt.toNat ∨ other = item := by
    by_cases here : other = item
    · rw [here, update_self]
      exact iff_of_true rfl (.inr rfl)
    · rw [update_of_ne here, dressed.parented_iff, or_iff_left here,
        and_iff_left (free other)]
  have putOn := dressed.put spare inRange parented_iff
  refine ⟨putOn.1, exact_enter_same_iff exactly rfl rfl (fun ball => ?_)
    (dressed.apart spare.loose spare.unworn)⟩
  refine (Held.congr (fun other => ?_) ball).trans (Held.insert_iff item ball)
  rw [putOn.2, and_iff_left (free other)]

/-- **`Player::replaceThing`**, with what its callers do, changes no list. -/
theorem exact_replaceThing_iff (spare : player.Spare item) (index : UInt32) :
    (step game player (.replaceThing index item)).Dressed ∧
      ((step game player (.replaceThing index item)).Exact game ↔
        ∀ oldItem ∈ player.inventory index.toNat,
          (∀ ball, ¬ player.heap.Brings game item ball) ∧
            ∀ ball, ¬ player.heap.Brings game oldItem ball) := by
  rw [step, getInventoryItem_eq dressed]
  cases isIn : player.inventory index.toNat with
  | none =>
    have unchanged : player.replaceThing index item = player := by
      rw [replaceThing, getInventoryItem_eq dressed, isIn, ite_self]
    simp only [unchanged]
    exact ⟨dressed, iff_of_true exactly fun _ isThere => nomatch isThere⟩
  | some oldItem =>
    have inRange := dressed.slots isIn
    have wasWorn : player.worn oldItem := ⟨_, isIn⟩
    have different : oldItem ≠ item := by
      rintro rfl
      exact dressed.unworn spare.unworn wasWorn
    rw [replaceThing, if_neg (Nat.not_lt.mpr inRange.2), getInventoryItem_eq dressed, isIn]
    simp only [disown, adopt, setSlot]
    rw [setParent_loose spare.loose, setParent_loose (dressed.loose oldItem wasWorn)]
    have old (other : Nat) : other ∉ player.inventory index.toNat ↔ other ≠ oldItem := by
      rw [isIn, Option.mem_some_iff, ne_comm]
    have parented_iff (other : Nat) :
        update (update player.parented item true) oldItem false other = true ↔
          player.worn other ∧ other ∉ player.inventory index.toNat ∨ other = item := by
      rw [old]
      by_cases isOld : other = oldItem
      · rw [isOld, update_self]
        exact iff_of_false Bool.false_ne_true fun worn =>
          worn.elim (fun both => both.2 rfl) different
      rw [update_of_ne isOld, and_iff_left isOld]
      by_cases here : other = item
      · rw [here, update_self]
        exact iff_of_true rfl (.inr rfl)
      · rw [update_of_ne here, dressed.parented_iff, or_iff_left here]
    have putOn := dressed.put spare inRange parented_iff
    simp only [Option.mem_some_iff, forall_eq']
    refine ⟨putOn.1, exact_swap_iff exactly ?_ ?_ (fun ball => ?_) ⟨oldItem, wasWorn, .refl⟩
      (dressed.apart spare.loose spare.unworn) dressed.loose⟩
    · rfl
    · rfl
    rw [holds, holds, ← Held.erase_iff dressed.loose wasWorn, ← Held.insert_iff]
    refine Held.congr (fun other => ?_) ball
    rw [putOn.2, old]

/-- **`Player::removeThing`** changes no list. -/
theorem exact_removeThing_iff (item : Nat) (count : UInt32) :
    (player.removeThing game item count).Dressed ∧
      ((player.removeThing game item count).Exact game ↔
        (player.worn item → ¬ player.heap.takesPart game item count →
          ∀ ball, ¬ player.heap.Brings game item ball)) := by
  rw [removeThing]
  cases found : player.getThingIndex item with
  | none =>
    have unworn := (getThingIndex_eq_none dressed).mp found
    exact ⟨dressed, iff_of_true exactly fun isWorn => absurd isWorn unworn⟩
  | some index =>
    have isIn := (getThingIndex_eq_some dressed).mp found
    have isWorn : player.worn item := ⟨index, isIn⟩
    rw [forall_prop_of_true isWorn]
    simp only []
    by_cases part : player.heap.takesPart game item count
    · rw [if_pos part]
      refine ⟨⟨dressed.formed, dressed.slots, dressed.single, dressed.parented_iff,
        dressed.loose, dressed.plain⟩, iff_of_true ?_ fun whole => absurd part whole⟩
      exact exact_of_same exactly (isBall_of_count rfl) rfl fun ball => .rfl
    rw [if_neg part, forall_prop_of_true part, disown, setSlot,
      setParent_loose (dressed.loose item isWorn)]
    have off := dressed.takeOff isIn
    refine ⟨off.1, exact_leave_same_iff exactly rfl rfl (fun ball => ?_)
      ⟨item, isWorn, .refl⟩ dressed.loose⟩
    rw [holds, holds, ← Held.erase_iff dressed.loose isWorn]
    exact Held.congr off.2 ball

end Slots

/-! ## Containers -/

section Containers

variable (dressed : player.Dressed) {heap : Heap}
include dressed

/-- The containers change, and nothing that is worn is put into one. -/
theorem Dressed.of_heap (list : List Nat) (formed : heap.Formed)
    (loose : ∀ item, player.worn item → heap.parent item = none)
    (skips : heap.skips = player.heap.skips) :
    ({ player with heap := heap, pokeballs := list } : Player).Dressed where
  formed := formed
  slots := dressed.slots
  single := dressed.single
  parented_iff := dressed.parented_iff
  loose := loose
  plain := by
    intro item isWorn
    rw [skips]
    exact dressed.plain item isWorn

theorem Dressed.enter (fits : player.heap.Fits pointer item)
    (unworn : player.parented item = false) (list : List Nat) (formed : heap.Formed)
    (parent : heap.parent = update player.heap.parent item (some pointer))
    (skips : heap.skips = player.heap.skips) :
    ({ player with heap := heap, pokeballs := list } : Player).Dressed ∧
      ∀ ball, ({ player with heap := heap, pokeballs := list } : Player).holds ball ↔
        player.holds ball ∨ Within player.heap.parent ball item ∧ player.holds pointer := by
  refine ⟨dressed.of_heap list formed (fun other isWorn => ?_) skips, fun ball => ?_⟩
  · have different : other ≠ item := by
      rintro rfl
      exact dressed.unworn unworn isWorn
    rw [parent, update_of_ne different]
    exact dressed.loose other isWorn
  · show Held player.worn heap.parent ball ↔ _
    rw [parent]
    exact Held.attach_iff fits.loose ball

end Containers

section Steps

variable (dressed : player.Dressed) (exactly : player.Exact game)
include dressed exactly

/-- **`Container::addThing`** inserts what the list of the item says, when the player has the
container. -/
theorem exact_containerAddThing_iff (fits : player.heap.Fits pointer item)
    (unworn : player.parented item = false) (index : Int32) :
    (player.containerAddThing game pointer index item).Dressed ∧
      ((player.containerAddThing game pointer index item).Exact game ↔
        (index ≥ (player.heap.capacity pointer).toInt32 ∨ (player.holds pointer →
          Tells (player.heap.cached game item) (player.heap.Brings game item)))) := by
  by_cases beyond : index ≥ (player.heap.capacity pointer).toInt32
  · rw [containerAddThing, if_pos beyond]
    exact ⟨dressed, iff_of_true exactly (.inl beyond)⟩
  rw [or_iff_right beyond, containerAddThing, if_neg beyond, Heap.addThing, if_neg beyond]
  have tree := @Heap.tree_internalAddThing game _ _ fits.container item
  have sameBalls := @isBall_congr game _ _ (congrArg Containers.Tree.item tree)
  have formed : (player.heap.internalAddThing game pointer item).Formed :=
    @Containers.step_formed game _ dressed.formed (.internalAddThing pointer item) fits
  have entered (list : List Nat) := dressed.enter fits unworn list formed
    (congrArg Containers.Tree.parent tree) (congrArg Containers.Tree.skips tree)
  have apart := dressed.apart fits.loose unworn
  -- the item is not above the container, so the player is found or not as before
  have found := isTopParent_iff (entered player.pokeballs).1 pointer
  rw [(entered player.pokeballs).2, or_iff_left fun both => fits.apart both.1] at found
  by_cases held : player.holds pointer
  · rw [if_pos (found.mpr held), foldl_insertPokeball]
    refine ⟨(entered _).1, ?_⟩
    rw [exact_enter_iff exactly sameBalls rfl (fun ball => ?_) apart, forall_prop_of_true held]
    rw [(entered _).2, and_iff_left held]
  · rw [if_neg (mt found.mp held)]
    refine ⟨(entered _).1, iff_of_true ?_ fun isHeld => absurd isHeld held⟩
    refine exact_of_same exactly sameBalls rfl fun ball => ?_
    exact ((entered _).2 ball).trans (or_iff_left fun both => held both.2)

/-- **`Container::addItemBack`** changes no list. -/
theorem exact_containerAddItemBack_iff (fits : player.heap.Fits pointer item)
    (unworn : player.parented item = false) :
    (player.containerAddItemBack game pointer item).Dressed ∧
      ((player.containerAddItemBack game pointer item).Exact game ↔
        (player.holds pointer → ∀ ball, ¬ player.heap.Brings game item ball)) := by
  have tree := @Heap.tree_addItemBack game _ _ fits.container item
  have sameBalls := @isBall_congr game _ _ (congrArg Containers.Tree.item tree)
  have formed : (player.heap.addItemBack game pointer item).Formed :=
    @Containers.step_formed game _ dressed.formed (.addItemBack pointer item) fits
  have entered := dressed.enter fits unworn player.pokeballs formed
    (congrArg Containers.Tree.parent tree) (congrArg Containers.Tree.skips tree)
  refine ⟨entered.1, ?_⟩
  by_cases held : player.holds pointer
  · rw [forall_prop_of_true held]
    refine exact_enter_same_iff exactly sameBalls rfl (fun ball => ?_)
      (dressed.apart fits.loose unworn)
    exact (entered.2 ball).trans (or_congr_right (and_iff_left held))
  · refine iff_of_true ?_ fun isHeld => absurd isHeld held
    refine exact_of_same exactly sameBalls rfl fun ball => ?_
    exact (entered.2 ball).trans (or_iff_left fun both => held both.2)

/-- **`Container::replaceThing`** changes no list. -/
theorem exact_containerReplaceThing_iff (fits : player.heap.Fits pointer item)
    (unworn : player.parented item = false) (index : UInt32) :
    (player.containerReplaceThing game pointer index item).Dressed ∧
      ((player.containerReplaceThing game pointer index item).Exact game ↔
        ∀ replacedItem ∈ (player.heap.itemlist pointer)[index.toNat]?, player.holds pointer →
          (∀ ball, ¬ player.heap.Brings game item ball) ∧
            ∀ ball, ¬ player.heap.Brings game replacedItem ball) := by
  rw [containerReplaceThing]
  cases found : (player.heap.itemlist pointer)[index.toNat]? with
  | none =>
    have unchanged : player.heap.replaceThing game pointer index item = player.heap := by
      rw [Heap.replaceThing, found]
    rw [unchanged]
    exact ⟨dressed, iff_of_true exactly fun _ isReplaced =>
      absurd isReplaced (Option.not_mem_none _)⟩
  | some replacedItem =>
    have isParent := dressed.formed.mem_iff.mp (List.mem_of_getElem? found)
    have acyclic := dressed.formed.not_within_of_parent isParent
    have tree := @Heap.tree_replaceThing game _ _ fits.container _ _ found item
    have parent : (player.heap.replaceThing game pointer index item).parent =
        update (update player.heap.parent item (some pointer))
          replacedItem none := congrArg Containers.Tree.parent tree
    have sameBalls := @isBall_congr game _ _ (congrArg Containers.Tree.item tree)
    have formed : (player.heap.replaceThing game pointer index item).Formed :=
      @Containers.step_formed game _ dressed.formed (.replaceThing pointer index item) fits
    have loose (other : Nat) (isWorn : player.worn other) :
        (player.heap.replaceThing game pointer index item).parent other = none := by
      have different : other ≠ item := by
        rintro rfl
        exact dressed.unworn unworn isWorn
      rw [parent]
      by_cases here : other = replacedItem
      · rw [here, update_self]
      · rw [update_of_ne here, update_of_ne different]
        exact dressed.loose other isWorn
    refine ⟨dressed.of_heap player.pokeballs formed loose
      (congrArg Containers.Tree.skips tree), ?_⟩
    have swapped (ball : Nat) : ({ player with
        heap := player.heap.replaceThing game pointer index item } : Player).holds ball ↔
        player.holds ball ∧ ¬ Within player.heap.parent ball replacedItem ∨
          Within player.heap.parent ball item ∧ player.holds pointer := by
      have general := @Held.swap_iff _ _ _ _ dressed.loose _ _ _ isParent acyclic fits.loose
        fits.apart ball
      rwa [← parent] at general
    -- what is replaced is held as its container is
    have heldToo : player.holds replacedItem ↔ player.holds pointer :=
      Held.iff_of_within dressed.loose (.single isParent)
    simp only [Option.mem_some_iff, forall_eq']
    by_cases held : player.holds pointer
    · rw [forall_prop_of_true held]
      refine exact_swap_iff exactly sameBalls rfl (fun ball => ?_) (heldToo.mpr held)
        (dressed.apart fits.loose unworn) dressed.loose
      exact (swapped ball).trans (or_congr_right (and_iff_left held))
    · refine iff_of_true ?_ fun isHeld => absurd isHeld held
      refine exact_of_same exactly sameBalls rfl fun ball => ?_
      rw [swapped, or_iff_left fun both => held both.2, and_iff_left_iff_imp]
      intro isHeld within
      exact held (heldToo.mp ((Held.iff_of_within dressed.loose within).mp isHeld))

/-- **`Container::removeThing`** removes what the list of the item says, when the player has the
container. -/
theorem exact_containerRemoveThing_iff (container : player.heap.isContainer pointer)
    (present : pointer ∈ player.heap.live) (count : UInt32) :
    (player.containerRemoveThing game pointer item count).Dressed ∧
      ((player.containerRemoveThing game pointer item count).Exact game ↔
        (item ∈ player.heap.itemlist pointer → ¬ player.heap.takesPart game item count →
          player.holds pointer → ∀ ball, player.heap.isBall game ball → player.holds ball →
            (ball ∈ player.heap.cached game item ↔ Within player.heap.parent ball item))) := by
  have formed : (player.heap.removeThing game pointer item count).Formed :=
    @Containers.step_formed game _ dressed.formed (.removeThing pointer item count)
      ⟨container, present⟩
  by_cases member : item ∈ player.heap.itemlist pointer
  swap
  · have unchanged : player.heap.removeThing game pointer item count = player.heap := by
      rw [Heap.removeThing, if_neg member]
    rw [containerRemoveThing, unchanged, if_neg fun both => member both.1]
    exact ⟨dressed, iff_of_true exactly fun isMember => absurd isMember member⟩
  by_cases part : player.heap.takesPart game item count
  · have tree := Heap.tree_removeThing_part member part
    have parent : (player.heap.removeThing game pointer item count).parent = player.heap.parent :=
      congrArg Containers.Tree.parent tree
    have sameBalls := @isBall_of_count game _ _ _ _ (congrArg Containers.Tree.item tree)
    rw [containerRemoveThing, if_neg fun both => both.2 part]
    refine ⟨dressed.of_heap player.pokeballs formed (fun other isWorn => ?_)
      (congrArg Containers.Tree.skips tree), iff_of_true ?_ fun _ whole => absurd part whole⟩
    · rw [parent, dressed.loose other isWorn]
    · refine exact_of_same exactly sameBalls rfl fun ball => ?_
      show Held player.worn (player.heap.removeThing game pointer item count).parent ball ↔ _
      rw [parent]
      rfl
  have isParent := dressed.formed.mem_iff.mp member
  have tree := Heap.tree_removeThing container member part
  have parent : (player.heap.removeThing game pointer item count).parent =
      update player.heap.parent item none := congrArg Containers.Tree.parent tree
  have sameBalls := @isBall_congr game _ _ (congrArg Containers.Tree.item tree)
  have loose (other : Nat) (isWorn : player.worn other) :
      (player.heap.removeThing game pointer item count).parent other = none := by
    rw [parent]
    by_cases here : other = item
    · rw [here, update_self]
    · rw [update_of_ne here]
      exact dressed.loose other isWorn
  have stays (list : List Nat) :=
    dressed.of_heap list formed loose (congrArg Containers.Tree.skips tree)
  have left (list : List Nat) (ball : Nat) : ({ player with
      heap := player.heap.removeThing game pointer item count
      pokeballs := list } : Player).holds ball ↔
      player.holds ball ∧ ¬ Within player.heap.parent ball item := by
    have general := @Held.detach_iff _ _ _ _ dressed.loose _ _ isParent ball
    rwa [← parent] at general
  have heldToo : player.holds item ↔ player.holds pointer :=
    Held.iff_of_within dressed.loose (.single isParent)
  -- the item was not above the container, so the player is found or not as before
  have found := isTopParent_iff (stays player.pokeballs) pointer
  rw [left, and_iff_left (dressed.formed.not_within_of_parent isParent)] at found
  rw [containerRemoveThing, if_pos ⟨member, part⟩, forall_prop_of_true member,
    forall_prop_of_true part]
  by_cases held : player.holds pointer
  · rw [if_pos (found.mpr held), foldl_removeBallFromCache]
    refine ⟨stays _, ?_⟩
    rw [exact_leave_iff exactly sameBalls rfl (left _), forall_prop_of_true held]
  · rw [if_neg (mt found.mp held)]
    refine ⟨stays _, iff_of_true ?_ fun isHeld => absurd isHeld held⟩
    refine exact_of_same exactly sameBalls rfl fun ball => ?_
    refine (left _ ball).trans (and_iff_left_iff_imp.mpr fun isHeld within => ?_)
    exact held (heldToo.mp ((Held.iff_of_within dressed.loose within).mp isHeld))

end Steps

end Player

end Otserv.Inventories
