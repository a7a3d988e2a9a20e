import Otserv.Windows.WindowMessages

/-!
# Pages that windows show

After each change of a container, and each turn of a page, every window should show its page of the
container (`Sound`).

It does not: what enters a page in front is taken from one place too far ahead on later pages, and
is taken for what enters the windows after it, too; what is added behind is told as if it entered in
front; and an item that leaves the container behind a page makes the client append one
(`views_sound_iff`).
-/

namespace Otserv.Windows

open Foundation

variable {Item : Type} (view : View Item)

/-- Every window shows its page. -/
def Sound : Prop :=
  ∀ window ∈ view.openContainers, window.shown = view.container.page window.index

/-- What the windows are told makes them show their pages. -/
def Fitting : ViewOp Item → Prop
  | .addContainer _ => view.container.Whole 0
  | .closeContainer _ => True
  | .onSendContainer => ∀ window ∈ view.openContainers, view.container.Whole window.index
  | .seekInContainer cid index =>
    index % view.container.capacity = 0 → index < view.container.size →
      ∀ window ∈ view.openContainers, window.cid = cid → view.container.Whole index
  | .addThing index item =>
    index < view.container.capacity →
      { view.container with itemlist := item :: view.container.itemlist }.Fits
        (fun place shown => shown.take (place + 1)) (some item) view.openContainers
  | .addItemBack item =>
    { view.container with itemlist := view.container.itemlist ++ [item] }.Fits
      (fun place shown => shown.drop place) (some item) view.openContainers
  | .updateThing place changed | .replaceThing place changed | .removeThing place (some changed) =>
    place < view.container.size →
      ∀ window ∈ view.openContainers, view.container.UpdateFits place changed window
  | .removeThing place none =>
    place < view.container.size →
      ∀ window ∈ view.openContainers, view.container.RemoveFits place window

/-! ## The invariant -/

structure Invariant (view : View Item) : Prop where
  positive : 0 < view.container.capacity
  sound : Sound view
  placed : ∀ window ∈ view.openContainers, Placed view.container window.index

/-! ## The steps -/

/-- A step shows pages where it fits, and windows stay on pages that there are. -/
structure Exact (guard : Prop) (after : View Item) : Prop where
  sound_iff : Sound after ↔ guard
  positive : 0 < after.container.capacity
  placed : ∀ window ∈ after.openContainers, Placed after.container window.index

namespace Invariant

variable {view : View Item}

section

variable (invariant : Invariant view)
include invariant

/-- Nothing happens. -/
theorem exact_self {guard : Prop} (holds : guard) : Exact guard view :=
  ⟨iff_of_true invariant.sound holds, invariant.positive, invariant.placed⟩

theorem exact_addContainer (cid : Nat) :
    Exact (view.container.Whole 0) (view.addContainer cid) := by
  obtain ⟨positive, sound, placed⟩ := invariant
  have kept : ∀ window, window ∈ view.openContainers.takeWhile (fun other => other.cid < cid) ∨
      window ∈ view.openContainers.filter (fun other => cid < other.cid) →
        window ∈ view.openContainers := by
    rintro window (before | behind)
    · exact List.takeWhile_subset _ before
    · exact List.mem_of_mem_filter behind
  refine ⟨?_, positive, ?_⟩
  · show (∀ window ∈ _ ++ _ :: _, _) ↔ _
    rw [List.forall_mem_append, List.forall_mem_cons]
    constructor
    · rintro ⟨-, opened, -⟩
      exact (view.container.shown_sendContainer_iff _).mp opened
    · intro whole
      refine ⟨fun window among => sound window (kept window (.inl among)), ?_,
        fun window among => sound window (kept window (.inr among))⟩
      exact (view.container.shown_sendContainer_iff _).mpr whole
  · show ∀ window ∈ (_ ++ _ :: _ : List (Window Item)), Placed view.container window.index
    rw [List.forall_mem_append, List.forall_mem_cons]
    refine ⟨fun window among => placed window (kept window (.inl among)), ?_,
      fun window among => placed window (kept window (.inr among))⟩
    exact ⟨Nat.dvd_zero _, .inl rfl⟩

theorem exact_closeContainer (cid : Nat) : Exact True (view.closeContainer cid) := by
  obtain ⟨positive, sound, placed⟩ := invariant
  refine ⟨iff_of_true (fun window among => ?_) trivial, positive, fun window among => ?_⟩
  · exact sound window (List.mem_of_mem_filter among)
  · exact placed window (List.mem_of_mem_filter among)

theorem exact_onSendContainer :
    Exact (∀ window ∈ view.openContainers, view.container.Whole window.index)
      view.onSendContainer := by
  refine ⟨?_, invariant.positive, ?_⟩
  · show (∀ window ∈ view.openContainers.map view.container.sendContainer, _) ↔ _
    rw [List.forall_mem_map]
    exact forall₂_congr fun window _ => view.container.shown_sendContainer_iff window
  · show ∀ window ∈ view.openContainers.map view.container.sendContainer, _
    rw [List.forall_mem_map]
    exact invariant.placed

theorem exact_seekInContainer (cid index : Nat) :
    Exact (index % view.container.capacity = 0 → index < view.container.size →
      ∀ window ∈ view.openContainers, window.cid = cid → view.container.Whole index)
        (view.seekInContainer cid index) := by
  unfold View.seekInContainer
  by_cases refused : index % view.container.capacity ≠ 0 ∨ view.container.size ≤ index
  · rw [if_pos refused]
    refine invariant.exact_self fun multiple within => ?_
    exact (refused.elim (fun odd => odd multiple) (Nat.not_le.mpr within)).elim
  rw [if_neg refused]
  obtain ⟨multiple, within⟩ := not_or.mp refused
  have multiple := not_not.mp multiple
  have within := Nat.lt_of_not_le within
  refine ⟨?_, invariant.positive, ?_⟩
  · show (∀ window ∈ view.openContainers.map _, _) ↔ _
    rw [List.forall_mem_map]
    constructor
    · intro sound _ _ window among isCid
      have shown := sound window among
      rw [if_pos isCid] at shown
      exact (view.container.shown_sendContainer_iff _).mp shown
    · intro whole window among
      by_cases isCid : window.cid = cid
      · rw [if_pos isCid]
        exact (view.container.shown_sendContainer_iff _).mpr
          (whole multiple within window among isCid)
      · rw [if_neg isCid]
        exact invariant.sound window among
  · rw [List.forall_mem_map]
    intro window among
    by_cases isCid : window.cid = cid
    · rw [if_pos isCid]
      exact ⟨Nat.dvd_of_mod_eq_zero multiple, .inr within⟩
    · rw [if_neg isCid]
      exact invariant.placed window among

theorem exact_onAddContainerItem {item : Item} {itemlist : List Item}
    {part : Nat → List Item → List Item}
    (longer : itemlist.length = view.container.itemlist.length + 1)
    (shown_iff : ∀ window ∈ view.openContainers, ∀ told,
      let after := { view.container with itemlist := itemlist }
      (after.entered window (after.place window) (some told)).shown = after.page window.index ↔
        ∀ shown ∈ part (after.place window) (after.page window.index), told = shown) :
    Exact ({ view.container with itemlist := itemlist }.Fits part (some item) view.openContainers)
      (view.onAddContainerItem item itemlist) := by
  have notShorter : view.container.itemlist.length ≤ itemlist.length := by
    rw [longer]
    exact Nat.le_succ _
  have placedAfter : ∀ window ∈ view.openContainers,
      Placed { view.container with itemlist := itemlist } window.index := fun window among =>
    (invariant.placed window among).longer rfl notShorter
  have multiple := fun window among => (placedAfter window among).multiple
  refine ⟨?_, invariant.positive, fun window among => ?_⟩
  · refine @shown_sendAddContainerItem_iff Item { view.container with itemlist := itemlist }
      invariant.positive part view.openContainers shown_iff (fun window among => ?_) (some item) rfl
    exact ⟨multiple window among, (placedAfter window among).index_le⟩
  · have isIndex : window.index ∈
        (view.onAddContainerItem item itemlist).openContainers.map Window.index :=
      List.mem_map_of_mem among
    have same : (view.onAddContainerItem item itemlist).openContainers.map Window.index =
        view.openContainers.map Window.index :=
      @index_sendAddContainerItem Item { view.container with itemlist := itemlist }
        invariant.positive view.openContainers multiple (some item)
    rw [same] at isIndex
    obtain ⟨before, wasAmong, isBefore⟩ := List.mem_map.mp isIndex
    exact isBefore ▸ placedAfter before wasAmong

theorem exact_addItemBack (item : Item) :
    Exact ({ view.container with itemlist := view.container.itemlist ++ [item] }.Fits
      (fun place shown => shown.drop place) (some item) view.openContainers)
        (view.addItemBack item) := by
  refine invariant.exact_onAddContainerItem List.length_append fun window among told => ?_
  exact @shown_back_iff Item view.container
    { view.container with itemlist := view.container.itemlist ++ [item] } window item
    invariant.positive rfl rfl (invariant.placed window among).index_le
    (invariant.sound window among) told

theorem exact_addThing (index : Int) (item : Item) :
    Exact (index < view.container.capacity →
      { view.container with itemlist := item :: view.container.itemlist }.Fits
        (fun place shown => shown.take (place + 1)) (some item) view.openContainers)
          (view.addThing index item) := by
  unfold View.addThing
  by_cases refused : (view.container.capacity : Int) ≤ index
  · rw [if_pos refused]
    exact invariant.exact_self fun within => absurd within (Int.not_lt.mpr refused)
  · rw [if_neg refused, iff_true_intro (Int.lt_of_not_ge refused), true_imp_iff]
    refine invariant.exact_onAddContainerItem rfl fun window among told => ?_
    exact @shown_front_iff Item view.container
      { view.container with itemlist := item :: view.container.itemlist } window item
      invariant.positive rfl rfl (invariant.placed window among).index_le
      (invariant.sound window among) told

theorem exact_onUpdateContainerItem {place : Nat}
    (present : place < view.container.size) (changed : Item) :
    Exact (place < view.container.size →
      ∀ window ∈ view.openContainers, view.container.UpdateFits place changed window)
        (view.onUpdateContainerItem place changed) := by
  have index (container : Container Item) (window : Window Item) :
      (container.sendUpdateContainerItem (uint16 place) changed window).index = window.index := by
    unfold Container.sendUpdateContainerItem
    split
    · rfl
    · split
      · rfl
      · rfl
  refine ⟨?_, invariant.positive, ?_⟩
  · show (∀ window ∈ view.openContainers.map _, _) ↔ _
    rw [List.forall_mem_map, iff_true_intro present, true_imp_iff]
    refine forall₂_congr fun window among => ?_
    rw [index]
    exact @shown_sendUpdateContainerItem_iff Item view.container
      { view.container with itemlist := view.container.itemlist.set place changed } window rfl
      place changed rfl present (invariant.sound window among)
  · show ∀ window ∈ view.openContainers.map _, _
    rw [List.forall_mem_map]
    intro window among
    rw [index]
    exact (invariant.placed window among).longer rfl (Nat.le_of_eq List.length_set.symm)

/-- An item leaves the container. -/
theorem exact_removeThing (place : Nat) :
    Exact (place < view.container.size →
      ∀ window ∈ view.openContainers, view.container.RemoveFits place window)
        (view.removeThing place none) := by
  unfold View.removeThing
  by_cases present : place < view.container.size
  · rw [if_pos present]
    have shorter : (view.container.itemlist.eraseIdx place).length = view.container.size - 1 :=
      List.length_eraseIdx_of_lt present
    refine ⟨?_, invariant.positive, ?_⟩
    · show (∀ window ∈ view.openContainers.map _, _) ↔ _
      rw [List.forall_mem_map, iff_true_intro present, true_imp_iff]
      refine forall₂_congr fun window among => ?_
      rw [index_sendRemoveContainerItem]
      exact @shown_sendRemoveContainerItem_iff Item view.container
        { view.container with itemlist := view.container.itemlist.eraseIdx place } window
        invariant.positive (invariant.placed window among) rfl place rfl present
        (invariant.sound window among)
    · rw [List.forall_mem_map]
      intro window among
      rw [index_sendRemoveContainerItem]
      obtain ⟨multiple, within⟩ :=
        turned_placed invariant.positive (invariant.placed window among)
      exact ⟨multiple, within.imp_right fun within => Nat.lt_of_lt_of_eq within shorter.symm⟩
  · rw [if_neg present]
    exact invariant.exact_self fun isPresent => absurd isPresent present

theorem exact_step (op : ViewOp Item) : Exact (Fitting view op) ((views Item).step view op) := by
  have changes (place : Nat) (changed : Item) {after : View Item}
      (onUpdate : place < view.container.size → after = view.onUpdateContainerItem place changed)
      (absent : ¬place < view.container.size → after = view) :
      Exact (place < view.container.size →
        ∀ window ∈ view.openContainers, view.container.UpdateFits place changed window) after := by
    by_cases present : place < view.container.size
    · rw [onUpdate present]
      exact invariant.exact_onUpdateContainerItem present changed
    · rw [absent present]
      exact invariant.exact_self fun isPresent => absurd isPresent present
  cases op with
  | addContainer cid => exact invariant.exact_addContainer cid
  | closeContainer cid => exact invariant.exact_closeContainer cid
  | onSendContainer => exact invariant.exact_onSendContainer
  | seekInContainer cid index => exact invariant.exact_seekInContainer cid index
  | addThing index item => exact invariant.exact_addThing index item
  | addItemBack item => exact invariant.exact_addItemBack item
  | updateThing place changed =>
    exact changes place changed (fun present => if_pos present) fun absent => if_neg absent
  | replaceThing place item =>
    refine changes place item (fun present => ?_) fun absent => ?_
    · show view.replaceThing place item = _
      rw [View.replaceThing, Container.getItemByIndex, List.getElem?_eq_getElem present]
    · show view.replaceThing place item = _
      rw [View.replaceThing, Container.getItemByIndex,
        List.getElem?_eq_none (Nat.le_of_not_lt absent)]
  | removeThing place left =>
    cases left with
    | none => exact invariant.exact_removeThing place
    | some left =>
      exact changes place left (fun present => if_pos present) fun absent => if_neg absent

end

end Invariant

/-- Every operation may come at any time. -/
theorem legal_views (ops : List (ViewOp Item)) : (views Item).Legal view ops := by
  induction ops generalizing view with
  | nil => trivial
  | cons op ops ih => exact ⟨trivial, ih _⟩

/-- **Container windows show their pages** through every run, exactly where what they are told
fits. -/
theorem views_sound_iff {container : Container Item} (positive : 0 < container.capacity)
    (ops : List (ViewOp Item)) :
    (views Item).Throughout (fun _ _ after => Sound after) ⟨container, []⟩ ops ↔
      (views Item).Throughout (fun before op _ => Fitting before op) ⟨container, []⟩ ops := by
  have initial : Invariant (⟨container, []⟩ : View Item) := ⟨positive, nofun, nofun⟩
  refine System.Throughout.iff_of_invariant (fun before op invariant _ => ?_) initial
    (legal_views _ ops)
  have isExact := invariant.exact_step op
  exact ⟨isExact.sound_iff, fun sound => ⟨isExact.positive, sound, isExact.placed⟩⟩

/-- A window of a container of two places that is filled, looked through and emptied. -/
def looked : List (ViewOp Nat) :=
  [.addContainer 0, .addThing 0 1, .addThing 0 2, .addThing 0 3, .seekInContainer 0 2,
    .updateThing 2 4, .removeThing 1 none, .removeThing 0 (some 5), .closeContainer 0]

theorem views_sound_iff_looked :
    (views Nat).Throughout (fun _ _ after => Sound after) ⟨⟨2, false, []⟩, []⟩ looked ↔
      (views Nat).Throughout (fun before op _ => Fitting before op) ⟨⟨2, false, []⟩, []⟩ looked :=
  views_sound_iff (by decide) looked

/-- An item enters a container of 30 places a page, whose second page is open. -/
theorem shown_twice :
    ∃ (container : Container Nat) (ops : List (ViewOp Nat)), 0 < container.capacity ∧
      ¬(views Nat).Throughout (fun _ _ after => Sound after) ⟨container, []⟩ ops := by
  refine ⟨⟨30, false, List.range 31⟩, [.addContainer 0, .seekInContainer 0 30, .addThing 0 100],
    by decide, ?_⟩
  rintro ⟨-, -, last, -⟩
  have shown := last ⟨0, 30, [28, 30]⟩ List.mem_cons_self
  revert shown
  decide

end Otserv.Windows
