import Otserv.ItemSaves.RowOrder

/-!
# Saved items are restored

Rows whose numbers ascend are hung from the last to the first. What a slot has in the end is the
one row that names it, and a container has the rows that name it in their order
(`hung_of_named`). With the order in which items are saved, every item comes back in its place
(`restored_of_saved`).
-/

namespace Otserv.ItemSaves

variable {Plain Pack : Type}

/-- A number of a slot. -/
def IsSlot (pid : Nat) : Prop := CONST_SLOT_FIRST ≤ pid ∧ pid ≤ CONST_SLOT_LAST

instance (pid : Nat) : Decidable (IsSlot pid) := inferInstanceAs (Decidable (_ ∧ _))

/-! ## The map of rows -/

variable {rows : List (Row Plain Pack)} {loading : Loading} {row : Row Plain Pack}

/-- Rows that come from the highest number down are sorted upwards. -/
theorem loadItems_reverse (ascending : rows.Pairwise fun first second => first.sid < second.sid) :
    loadItems rows.reverse = rows := by
  rw [loadItems, List.foldl_reverse]
  induction rows with
  | nil => rfl
  | cons row rows ih =>
    rw [List.pairwise_cons] at ascending
    rw [List.foldr_cons, ih ascending.2]
    cases rows with
    | nil => rfl
    | cons other rows => exact if_pos (ascending.1 other List.mem_cons_self)

/-- A row that does not name a slot names a container. -/
def Named (rows : List (Row Plain Pack)) (row : Row Plain Pack) : Prop :=
  IsSlot row.pid ∨ ∃ above own, (rows.find? fun other => other.sid = row.pid) = some above ∧
    above.data = .inr own

variable {itemMap : List (Row Plain Pack)}

theorem loadRow_slot (inSlot : IsSlot row.pid) :
    loadRow itemMap loading row = loading.equip row.pid row.sid := if_pos inSlot

theorem loadRow_container {row above : Row Plain Pack} {own : Pack} (noSlot : ¬IsSlot row.pid)
    (found : (itemMap.find? fun other => other.sid = row.pid) = some above)
    (isContainer : above.data = .inr own) :
    loadRow itemMap loading row = loading.internalAddThing row.pid row.sid := by
  have same : above.sid = row.pid := by
    simpa only [decide_eq_true_eq] using List.find?_some found
  have skipped : ¬(CONST_SLOT_FIRST ≤ row.pid ∧ row.pid ≤ CONST_SLOT_LAST) := noSlot
  rw [loadRow, if_neg skipped, found]
  dsimp only
  rw [isContainer, same]

theorem inside_cons_of_ne {pid : Nat}
    (different : row.pid ≠ pid) : inside (row :: rows) pid = inside rows pid := by
  rw [inside, inside, List.filter_cons_of_neg (by rw [decide_eq_true_eq]; exact different)]

theorem inside_cons_self (row : Row Plain Pack) (rows : List (Row Plain Pack)) :
    inside (row :: rows) row.pid = row.sid :: inside rows row.pid := by
  rw [inside, inside, List.filter_cons_of_pos (by rw [decide_eq_true_eq]), List.map_cons]

/-- A slot has the last of its rows, and a container has its rows in their order. -/
structure Hung (rows : List (Row Plain Pack)) (loading : Loading) : Prop where
  inventory (slot : Nat) :
    loading.inventory slot = if IsSlot slot then (inside rows slot).getLast? else none
  itemlist (pid : Nat) :
    loading.itemlist pid = if IsSlot pid then [] else inside rows pid

theorem Hung.equip (hung : Hung rows loading) (inSlot : IsSlot row.pid) :
    Hung (row :: rows) (loading.equip row.pid row.sid) := by
  have same := hung.inventory row.pid
  rw [if_pos inSlot] at same
  constructor
  · intro slot
    rw [Loading.equip, same]
    by_cases own : row.pid = slot
    · subst own
      rw [if_pos inSlot, inside_cons_self]
      cases isInside : inside rows row.pid with
      | nil => exact Function.update_self ..
      | cons sid sids =>
        rw [isInside] at same
        rw [List.getLast?_cons_cons]
        cases isLast : (sid :: sids).getLast? with
        | none => exact absurd (List.getLast?_eq_none_iff.mp isLast) (List.cons_ne_nil _ _)
        | some last => exact same.trans isLast
    · rw [inside_cons_of_ne own, ← hung.inventory slot]
      cases (inside rows row.pid).getLast? with
      | none => exact Function.update_of_ne (.symm own) ..
      | some last => rfl
  · intro pid
    have kept : (loading.equip row.pid row.sid).itemlist pid = loading.itemlist pid := by
      rw [Loading.equip]
      cases loading.inventory row.pid <;> rfl
    rw [kept, hung.itemlist]
    by_cases own : row.pid = pid
    · rw [← own, if_pos inSlot, if_pos inSlot]
    · rw [inside_cons_of_ne own]

/-- The row of an item in a container comes in front of the later ones. -/
theorem Hung.internalAddThing (hung : Hung rows loading) (noSlot : ¬IsSlot row.pid) :
    Hung (row :: rows) (loading.internalAddThing row.pid row.sid) := by
  constructor
  · intro slot
    rw [Loading.internalAddThing, hung.inventory]
    by_cases own : row.pid = slot
    · rw [← own, if_neg noSlot, if_neg noSlot]
    · rw [inside_cons_of_ne own]
  · intro pid
    rw [Loading.internalAddThing]
    by_cases own : row.pid = pid
    · subst own
      dsimp only
      rw [Function.update_self, hung.itemlist, if_neg noSlot, if_neg noSlot, inside_cons_self]
    · dsimp only
      rw [Function.update_of_ne (Ne.symm own), hung.itemlist, inside_cons_of_ne own]

/-- **What is loaded.** -/
theorem hung_of_named {itemMap rows : List (Row Plain Pack)}
    (named : ∀ row ∈ rows, Named itemMap row) :
    Hung rows (rows.reverse.foldl (loadRow itemMap) {}) := by
  rw [List.foldl_reverse]
  induction rows with
  | nil => exact ⟨fun slot => (ite_self _).symm, fun pid => (ite_self _).symm⟩
  | cons row rows ih =>
    have hung := ih fun other member => named other (List.mem_cons_of_mem _ member)
    rw [List.foldr_cons]
    by_cases inSlot : IsSlot row.pid
    · rw [loadRow_slot inSlot]
      exact hung.equip inSlot
    · rcases named row List.mem_cons_self with slot | ⟨above, own, found, isContainer⟩
      · exact absurd slot inSlot
      · rw [loadRow_container inSlot found isContainer]
        exact hung.internalAddThing inSlot

/-! ## What the rows of saved items name -/

theorem rowsFrom_pid (fuel next : Nat) (pending : List (Nat × Item Plain Pack)) :
    ∀ row ∈ rowsFrom fuel next pending, row.pid ∈ pending.map (·.1) ∨
      ∃ above ∈ rowsFrom fuel next pending, above.sid = row.pid ∧ ∃ own, above.data = .inr own := by
  induction fuel generalizing next pending with
  | zero => exact fun row member => absurd member List.not_mem_nil
  | succ fuel ih =>
    cases pending with
    | nil => exact fun row member => absurd member List.not_mem_nil
    | cons entry pending =>
      intro row member
      rcases List.mem_cons.mp member with rfl | member
      · exact .inl List.mem_cons_self
      · rcases ih _ _ row member with named | ⟨above, isAbove, isContainer⟩
        · rw [List.map_append, List.mem_append, List.map_map] at named
          rcases named with named | named
          · exact .inl (List.mem_cons_of_mem _ named)
          · obtain ⟨inner, isInner, same⟩ := List.mem_map.mp named
            refine .inr ⟨_, List.mem_cons_self, same, ?_⟩
            cases isItem : entry.2 with
            | plain data =>
              rw [isItem] at isInner
              exact absurd isInner List.not_mem_nil
            | container data items => exact ⟨data, rfl⟩
        · exact .inr ⟨above, List.mem_cons_of_mem _ isAbove, isContainer⟩

/-- Among rows of different numbers the one of a number is found. -/
theorem find_of_sid (ascending : rows.Pairwise fun first second => first.sid < second.sid)
    {above : Row Plain Pack} (member : above ∈ rows) :
    (rows.find? fun other => other.sid = above.sid) = some above := by
  induction rows with
  | nil => exact absurd member List.not_mem_nil
  | cons row rows ih =>
    rw [List.pairwise_cons] at ascending
    rcases List.mem_cons.mp member with rfl | member
    · exact List.find?_cons_of_pos (by rw [decide_eq_true_eq])
    · rw [List.find?_cons_of_neg (by
        rw [decide_eq_true_eq]; exact Nat.ne_of_lt (ascending.1 above member))]
      exact ih ascending.2 member

theorem flatMap_inside_perm {pids : List Nat} (nodup : pids.Nodup)
    (named : ∀ row ∈ rows, row.pid ∈ pids) :
    (pids.flatMap (inside rows)).Perm (rows.map Row.sid) := by
  induction rows with
  | nil =>
    have none : pids.flatMap (inside ([] : List (Row Plain Pack))) = [] :=
      List.flatMap_eq_nil_iff.mpr fun _ _ => rfl
    rw [none]
    exact .nil
  | cons row rows ih =>
    obtain ⟨before, behind, split⟩ := List.append_of_mem (named row List.mem_cons_self)
    have rest := ih fun other member => named other (List.mem_cons_of_mem _ member)
    subst split
    have notBefore : ∀ pid ∈ before, inside (row :: rows) pid = inside rows pid :=
      fun pid member => inside_cons_of_ne fun same => by
        rw [List.nodup_append] at nodup
        exact nodup.2.2 pid member row.pid List.mem_cons_self same.symm
    have notBehind : ∀ pid ∈ behind, inside (row :: rows) pid = inside rows pid :=
      fun pid member => inside_cons_of_ne fun same => by
        rw [List.nodup_append, List.nodup_cons] at nodup
        exact nodup.2.1.1 (same ▸ member)
    rw [List.flatMap_append, List.flatMap_cons] at rest ⊢
    rw [List.flatMap_congr notBefore, List.flatMap_congr notBehind, inside_cons_self,
      List.map_cons, List.cons_append]
    exact List.perm_middle.trans (rest.cons row.sid)

theorem filter_zip_of_mem {pids sids : List Nat} {pid sid : Nat} (nodup : pids.Nodup)
    (member : (pid, sid) ∈ pids.zip sids) :
    ((pids.zip sids).filter fun pair => pair.1 = pid) = [(pid, sid)] := by
  induction pids generalizing sids with
  | nil => exact absurd member List.not_mem_nil
  | cons first pids ih =>
    cases sids with
    | nil => exact absurd member List.not_mem_nil
    | cons number sids =>
      rw [List.nodup_cons] at nodup
      rw [List.zip_cons_cons] at member ⊢
      rcases List.mem_cons.mp member with same | member
      · obtain ⟨rfl, rfl⟩ := Prod.mk.injEq .. ▸ same
        have others : ((pids.zip sids).filter fun pair => pair.1 = pid) = [] :=
          List.filter_eq_nil_iff.mpr fun pair isPair => by
            rw [decide_eq_true_eq]
            rintro rfl
            exact nodup.1 (List.of_mem_zip isPair).1
        rw [List.filter_cons_of_pos (by rw [decide_eq_true_eq]), others]
      · have different : first ≠ pid := fun same =>
          nodup.1 (same ▸ (List.of_mem_zip member).1)
        rw [List.filter_cons_of_neg (by rw [decide_eq_true_eq]; exact different),
          ih nodup.2 member]

theorem inside_eq_of_older (rows : List (Row Plain Pack)) {pid next : Nat} (older : pid < next) :
    inside rows pid = ((olderRows rows next).filter fun pair => pair.1 = pid).map (·.2) := by
  rw [inside, olderRows, List.filter_map, List.map_map, List.filter_filter]
  apply congrArg (List.map Row.sid)
  apply List.filter_congr
  intro row _
  by_cases same : row.pid = pid
  · simp only [Function.comp, same, older, decide_true, Bool.and_self]
  · simp only [Function.comp, same, decide_false, Bool.false_and]

theorem HoldsAll.exists_zip {data : Nat → Option (Plain ⊕ Pack)} {itemlist : Nat → List Nat}
    {itemList : List (Nat × Item Plain Pack)} {sids : List Nat}
    (holds : HoldsAll data itemlist sids (itemList.map (·.2))) :
    ∀ entry ∈ itemList, ∃ sid, (entry.1, sid) ∈ (itemList.map (·.1)).zip sids ∧
      Holds data itemlist sid entry.2 := by
  induction itemList generalizing sids with
  | nil => exact fun entry member => absurd member List.not_mem_nil
  | cons front itemList ih =>
    cases sids with
    | nil => exact holds.elim
    | cons sid sids =>
      intro entry member
      rcases List.mem_cons.mp member with rfl | member
      · exact ⟨sid, List.mem_cons_self, holds.1⟩
      · obtain ⟨number, paired, held⟩ := ih holds.2 entry member
        exact ⟨number, List.mem_cons_of_mem _ paired, held⟩

/-! ## The items come back -/

theorem not_isSlot_of_lt {pid : Nat} (large : CONST_SLOT_LAST < pid) : ¬IsSlot pid :=
  fun inSlot => absurd inSlot.2 (Nat.not_le_of_lt large)

theorem Hung.hung_eq (hung : Hung rows loading) (large : ∀ row ∈ rows, CONST_SLOT_LAST < row.sid)
    (single : ∀ slot, IsSlot slot → (inside rows slot).length ≤ 1) :
    loading.hung rows =
      (List.range' CONST_SLOT_FIRST CONST_SLOT_LAST ++ rows.map Row.sid).flatMap (inside rows) := by
  rw [Loading.hung, List.flatMap_append, List.flatMap_map]
  congr 1
  · rw [List.filterMap_eq_flatMap_toList]
    apply List.flatMap_congr
    intro slot member
    rw [List.mem_range'_1] at member
    have inSlot : IsSlot slot := ⟨member.1, Nat.lt_succ_iff.mp (by
      rw [CONST_SLOT_FIRST, Nat.add_comm] at member; exact member.2)⟩
    rw [hung.inventory, if_pos inSlot]
    have short := single slot inSlot
    cases isInside : inside rows slot with
    | nil => rfl
    | cons sid sids =>
      rw [isInside, List.length_cons] at short
      have none : sids = [] := List.eq_nil_of_length_eq_zero (by omega)
      rw [none]
      rfl
  · apply List.flatMap_congr
    intro row member
    rw [hung.itemlist, if_neg (not_isSlot_of_lt (large row member))]

/-- **Saving and loading a player's items keeps them.** For slots from the first to the last,
none of them twice, the numbers of the rows are all different and none is a slot, and the rows,
read from the highest number down, give every item back in its place. -/
theorem restored_of_saved (itemList : List (Nat × Item Plain Pack))
    (slots : ∀ entry ∈ itemList, IsSlot entry.1) (nodup : (itemList.map (·.1)).Nodup) :
    ((saveItems itemList).map Row.sid).Nodup ∧
      (∀ row ∈ saveItems itemList, ¬IsSlot row.sid) ∧
      Restored itemList (saveItems itemList) (loadPlayer (saveItems itemList).reverse) := by
  obtain ⟨sids, holds, older⟩ := rowsFrom_holds (sizeAll (itemList.map (·.2))) 101 itemList
    (Nat.le_refl _) fun entry member => Nat.lt_of_le_of_lt (slots entry member).2 (by decide)
  have numbers := sids_rowsFrom (sizeAll (itemList.map (·.2))) 101 itemList
  have names := rowsFrom_pid (sizeAll (itemList.map (·.2))) 101 itemList
  rw [← saveItems_eq] at holds older numbers names
  generalize saveItems itemList = rows at *
  have ascending : rows.Pairwise fun first second => first.sid < second.sid := by
    rw [← List.pairwise_map, numbers]
    exact List.pairwise_lt_range'
  have from101 : ∀ sid ∈ rows.map Row.sid, 101 ≤ sid := by
    rw [numbers]
    exact fun sid member => (List.mem_range'_1.mp member).1
  have large : ∀ row ∈ rows, CONST_SLOT_LAST < row.sid := fun row member =>
    Nat.lt_of_lt_of_le (by decide) (from101 row.sid (List.mem_map_of_mem member))
  have named : ∀ row ∈ rows, Named rows row := by
    intro row member
    rcases names row member with inSlot | ⟨above, isAbove, same, isContainer⟩
    · obtain ⟨entry, isEntry, same⟩ := List.mem_map.mp inSlot
      exact .inl (same ▸ slots entry isEntry)
    · obtain ⟨own, isContainer⟩ := isContainer
      exact .inr ⟨above, own, same ▸ find_of_sid ascending isAbove, isContainer⟩
  have hung := hung_of_named named
  have ofSlot : ∀ slot, IsSlot slot →
      inside rows slot =
        (((itemList.map (·.1)).zip sids).filter fun pair => pair.1 = slot).map (·.2) :=
    fun slot inSlot => by
      rw [inside_eq_of_older rows (Nat.lt_of_le_of_lt inSlot.2 (by decide) : slot < 101), older]
  have bare : ∀ slot, slot ∉ itemList.map (·.1) → IsSlot slot → inside rows slot = [] := by
    intro slot absent inSlot
    rw [ofSlot slot inSlot, List.map_eq_nil_iff, List.filter_eq_nil_iff]
    intro pair paired
    rw [decide_eq_true_eq]
    exact fun same => absent (same ▸ (List.of_mem_zip paired).1)
  have worn : ∀ entry ∈ itemList, ∃ sid, inside rows entry.1 = [sid] ∧
      Holds (dataOf rows) (inside rows) sid entry.2 := by
    intro entry member
    obtain ⟨sid, paired, held⟩ := holds.exists_zip entry member
    exact ⟨sid, by rw [ofSlot _ (slots entry member), filter_zip_of_mem nodup paired]; rfl, held⟩
  have single : ∀ slot, IsSlot slot → (inside rows slot).length ≤ 1 := by
    intro slot inSlot
    by_cases member : slot ∈ itemList.map (·.1)
    · obtain ⟨entry, isEntry, rfl⟩ := List.mem_map.mp member
      obtain ⟨sid, isInside, -⟩ := worn entry isEntry
      rw [isInside]
      exact Nat.le_refl 1
    · rw [bare slot member inSlot]
      exact Nat.zero_le 1
  have alike : ∀ sid, (dataOf rows sid).isSome →
      dataOf rows sid = dataOf rows sid ∧
        (rows.reverse.foldl (loadRow rows) {}).itemlist sid = inside rows sid := by
    intro sid isSome
    have number : CONST_SLOT_LAST < sid :=
      Nat.lt_of_lt_of_le (by decide) (from101 sid (dataOf_isSome isSome))
    exact ⟨rfl, by rw [hung.itemlist, if_neg (not_isSlot_of_lt number)]⟩
  rw [loadPlayer, loadItems_reverse ascending]
  refine ⟨?_, fun row member => not_isSlot_of_lt (large row member), ?_, ?_, ?_⟩
  · rw [numbers]
    exact List.nodup_range'
  · intro entry member
    obtain ⟨sid, isInside, held⟩ := worn entry member
    refine ⟨sid, ?_, .congr alike sid entry.2 held⟩
    rw [hung.inventory, if_pos (slots entry member), isInside]
    rfl
  · intro slot absent
    rw [hung.inventory]
    by_cases inSlot : IsSlot slot
    · rw [if_pos inSlot, bare slot absent inSlot]
      rfl
    · exact if_neg inSlot
  · rw [hung.hung_eq large single]
    refine flatMap_inside_perm ?_ ?_
    · rw [List.nodup_append]
      refine ⟨List.nodup_range', ?_, ?_⟩
      · rw [numbers]
        exact List.nodup_range'
      · intro slot isSlot sid isSid same
        have small := (List.mem_range'_1.mp isSlot).2
        have number := from101 sid isSid
        rw [CONST_SLOT_FIRST, CONST_SLOT_LAST] at small
        omega
    · intro row member
      rw [List.mem_append]
      rcases named row member with inSlot | ⟨above, own, found, -⟩
      · refine .inl (List.mem_range'_1.mpr ⟨inSlot.1, ?_⟩)
        have small := inSlot.2
        rw [CONST_SLOT_FIRST]
        omega
      · have same : above.sid = row.pid := by
          simpa only [decide_eq_true_eq] using List.find?_some found
        exact .inr (same ▸ List.mem_map_of_mem (List.mem_of_find?_eq_some found))

/-- A backpack with a coin, a bag with a torch in it and another coin, and a sword in a hand. -/
theorem restored_of_saved_backpack :
    let itemList : List (Nat × Item String String) :=
      [(3, .container "backpack" [.plain "coin", .container "bag" [.plain "torch"], .plain "coin"]),
        (6, .plain "sword")]
    ((saveItems itemList).map fun row => (row.pid, row.sid)) =
        [(3, 101), (6, 102), (101, 103), (101, 104), (101, 105), (104, 106)] ∧
      Restored itemList (saveItems itemList) (loadPlayer (saveItems itemList).reverse) :=
  ⟨rfl, (restored_of_saved _ (by decide) (by decide)).2.2⟩

end Otserv.ItemSaves
