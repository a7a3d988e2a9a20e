import Otserv.Windows.ContainerWindow

/-!
# What messages make windows show

Each message to a window makes it show its page of the container, if it showed it before, under a
condition that is exact: for a page, and for an item that enters, changes or leaves.
-/

namespace Otserv.Windows

open Foundation

variable {Item : Type}

namespace Container

variable (container : Container Item)

def page (index : Nat) : List Item := Foundation.page index container.capacity container.itemlist

/-- A page message can take the page. -/
def Whole (index : Nat) : Prop := container.capacity ≤ 255 ∨ container.size ≤ index + 255

end Container

/-! ## Conditions -/

namespace Container

variable (container : Container Item)

/-- The place in the page at which something is told to have entered: the front, or the end of what
a browsed field shows. -/
def place (window : Window Item) : Nat :=
  if container.browseField then
    min (uint16 (container.size - 1)) (uint16 (window.index + container.capacity - 1)) -
      window.index
  else 0

/-- What is told to have entered there: the last item of a browsed field's page that is full, the
item ahead of a later page, or else what was told to the window before. -/
def entering (item : Option Item) (window : Window Item) : Option Item :=
  if container.browseField then
    if uint16 (window.index + container.capacity - 1) < uint16 (container.size - 1) then
      container.itemlist[uint16 (window.index + container.capacity - 1)]?
    else item
  else if window.index = 0 then item
  else container.itemlist[window.index - 1]?

/-- The items of a part of each page look like what is told to have entered it. -/
def Fits (part : Nat → List Item → List Item) : Option Item → List (Window Item) → Prop
  | _, [] => True
  | item, window :: rest =>
    (∀ shown ∈ part (container.place window) (container.page window.index),
      container.entering item window = some shown) ∧
    Fits part (container.entering item window) rest

/-- The message is for the item in its place, or what it is set over looks like it already. -/
def UpdateFits (place : Nat) (changed : Item) (window : Window Item) : Prop :=
  (window.index ≤ uint16 place → uint16 place < uint16 (window.index + container.capacity) →
    uint16 place ≠ place → container.itemlist[uint16 place]? = some changed) ∧
  (window.index ≤ place → place < window.index + container.capacity →
    ¬(place < uint16 (window.index + container.capacity) ∧ uint16 place = place) →
      container.itemlist[place]? = some changed)

variable (window : Window Item)

/-- The page of a window is going to be empty. -/
def Turns : Prop :=
  0 < window.index ∧ container.size - 1 ≤ window.index

instance (window : Window Item) : Decidable (container.Turns window) :=
  inferInstanceAs (Decidable (_ ∧ _))

def turned : Nat :=
  if container.Turns window then window.index - container.capacity else window.index

/-- The item that leaves the window looks like the one that leaves the page, and it does not lie
behind the page. -/
def RemoveFits (place : Nat) (window : Window Item) : Prop :=
  let index := container.turned window
  let reached := uint16 place - index
  let due := min (place - index) container.capacity
  let items := Foundation.page index (container.capacity + 1) container.itemlist
  if container.Turns window ∧ 255 < container.capacity then
    container.capacity = 256 ∧ 255 ≤ reached ∧ Alike 255 due items
  else reached < container.capacity ∧ Alike reached due items

end Container

/-- There is such a page. -/
structure Placed (container : Container Item) (index : Nat) : Prop where
  multiple : container.capacity ∣ index
  within : index = 0 ∨ index < container.size

theorem uint16_le (value : Nat) : uint16 value ≤ value := Nat.mod_le _ _

namespace Placed

variable {container : Container Item} {index : Nat}

theorem index_le (placed : Placed container index) : index ≤ container.size :=
  placed.within.elim (fun front => front ▸ Nat.zero_le _) Nat.le_of_lt

theorem capacity_le (placed : Placed container index) (later : 0 < index) :
    container.capacity ≤ index := Nat.le_of_dvd later placed.multiple

theorem longer (placed : Placed container index) {after : Container Item}
    (capacity : after.capacity = container.capacity) (longer : container.size ≤ after.size) :
    Placed after index where
  multiple := capacity ▸ placed.multiple
  within := placed.within.imp_right fun within => Nat.lt_of_lt_of_le within longer

end Placed

/-! ## Page messages -/

namespace Container

variable (container : Container Item) (window : Window Item)

theorem shown_sendContainer_iff :
    (container.sendContainer window).shown = container.page window.index ↔
      container.Whole window.index := by
  show (container.itemlist.drop window.index).take _ =
    (container.itemlist.drop window.index).take container.capacity ↔ _
  rw [List.take_eq_take_iff, List.length_drop]
  unfold Whole size
  omega

/-! ## Items that enter -/

/-- The client puts the item in at a place of what it shows. -/
def entered (place : Nat) : Option Item → Window Item
  | none => window
  | some item =>
    { window with shown := (window.shown.insertIdx place item).take container.capacity }

theorem addItemTo_eq (slot : Nat) (item : Option Item) :
    container.addItemTo window slot item =
      container.entered window (slot - window.index) item := by
  cases item with
  | none => rfl
  | some item => rfl

theorem sendAddContainerItem_cons (positive : 0 < container.capacity) (item : Option Item)
    {window : Window Item} (multiple : container.capacity ∣ window.index)
    (rest : List (Window Item)) :
    container.sendAddContainerItem item (window :: rest) =
      container.entered window (container.place window) (container.entering item window) ::
        container.sendAddContainerItem (container.entering item window) rest := by
  rw [sendAddContainerItem, place, entering]
  simp only [addItemTo_eq, getItemByIndex]
  by_cases browse : container.browseField = true
  · rw [if_pos browse, if_pos browse, if_pos browse]
    by_cases full : uint16 (window.index + container.capacity - 1) < uint16 (container.size - 1)
    · rw [if_pos full, if_pos full, Nat.min_eq_right (Nat.le_of_lt full)]
    · rw [if_neg full, if_neg full, Nat.min_eq_left (Nat.le_of_not_lt full)]
  · rw [if_neg browse, if_neg browse, if_neg browse, Nat.sub_self]
    by_cases front : window.index = 0
    · rw [if_pos front, if_neg (by omega)]
    · rw [if_neg front, if_pos (Nat.le_of_dvd (Nat.pos_of_ne_zero front) multiple)]

end Container

section Entering

variable {container : Container Item} {window : Window Item}

theorem place_le (positive : 0 < container.capacity) {old : List Item}
    (longer : container.size = old.length + 1) (within : window.index ≤ old.length) :
    container.place window < container.capacity ∧
      container.place window ≤ (page window.index container.capacity old).length := by
  rw [length_page, Container.place]
  have first := uint16_le (container.size - 1)
  have last := uint16_le (window.index + container.capacity - 1)
  split
  · omega
  · omega

theorem entering_isSome {item : Option Item} (isSome : item.isSome)
    (placed : window.index ≤ container.size) : (container.entering item window).isSome := by
  unfold Container.entering
  split
  · split
    · rename_i full
      have bound : uint16 (window.index + container.capacity - 1) < container.itemlist.length := by
        have last := uint16_le (container.size - 1)
        have isLast : container.size - 1 ≤ container.itemlist.length := Nat.sub_le _ _
        omega
      rw [List.getElem?_eq_getElem bound]
      rfl
    · exact isSome
  · split
    · exact isSome
    · rename_i later
      have bound : window.index - 1 < container.itemlist.length := by
        have isLast : window.index ≤ container.itemlist.length := placed
        omega
      rw [List.getElem?_eq_getElem bound]
      rfl

/-- **The loop over the windows.** What each of them is told of an item that entered must be
exact for it. -/
theorem shown_sendAddContainerItem_iff (positive : 0 < container.capacity)
    {part : Nat → List Item → List Item} {windows : List (Window Item)}
    (isExact : ∀ window ∈ windows, ∀ item,
      (container.entered window (container.place window) (some item)).shown =
          container.page window.index ↔
        ∀ shown ∈ part (container.place window) (container.page window.index), item = shown)
    (placed : ∀ window ∈ windows, container.capacity ∣ window.index ∧
      window.index ≤ container.size) {item : Option Item} (isSome : item.isSome) :
    (∀ window ∈ container.sendAddContainerItem item windows,
      window.shown = container.page window.index) ↔ container.Fits part item windows := by
  induction windows generalizing item with
  | nil => exact iff_of_true nofun trivial
  | cons window rest ih =>
    obtain ⟨multiple, within⟩ := placed window List.mem_cons_self
    have told := entering_isSome isSome within
    obtain ⟨entering, isEntering⟩ := Option.isSome_iff_exists.mp told
    rw [container.sendAddContainerItem_cons positive item multiple, List.forall_mem_cons,
      Container.Fits, ih (fun other among => isExact other (List.mem_cons_of_mem _ among))
        (fun other among => placed other (List.mem_cons_of_mem _ among)) told, isEntering]
    refine and_congr_left' ?_
    have same := isExact window List.mem_cons_self entering
    simp only [Option.some_inj]
    exact same

theorem index_sendAddContainerItem (positive : 0 < container.capacity)
    {windows : List (Window Item)}
    (multiple : ∀ window ∈ windows, container.capacity ∣ window.index) (item : Option Item) :
    (container.sendAddContainerItem item windows).map Window.index = windows.map Window.index := by
  induction windows generalizing item with
  | nil => rfl
  | cons window rest ih =>
    have rest := ih fun other among => multiple other (List.mem_cons_of_mem _ among)
    rw [container.sendAddContainerItem_cons positive item (multiple window List.mem_cons_self),
      List.map_cons, List.map_cons, rest]
    cases container.entering item window with
    | none => rfl
    | some entering => rfl

end Entering

section Entered

variable {container after : Container Item} {window : Window Item} {new : Item}

theorem shown_front_iff (positive : 0 < after.capacity)
    (capacity : after.capacity = container.capacity)
    (items : after.itemlist = new :: container.itemlist) (within : window.index ≤ container.size)
    (shows : window.shown = container.page window.index) (item : Item) :
    (after.entered window (after.place window) (some item)).shown = after.page window.index ↔
      ∀ shown ∈ (after.page window.index).take (after.place window + 1), item = shown := by
  have longer : after.size = container.itemlist.length + 1 := by
    rw [Container.size, items, List.length_cons]
  obtain ⟨inPage, fits⟩ := place_le positive longer within
  have bound : window.index < (new :: container.itemlist).length := Nat.lt_succ_of_le within
  have isPage : after.page window.index =
      ((new :: container.itemlist)[window.index] ::
        page window.index after.capacity container.itemlist).take after.capacity := by
    rw [Container.page, items, page_cons (List.getElem?_eq_getElem bound)]
  have isShown : window.shown = page window.index after.capacity container.itemlist := by
    rw [shows, Container.page, capacity]
  show (window.shown.insertIdx (after.place window) item).take after.capacity = _ ↔ _
  rw [isPage, isShown, take_insertIdx_eq_cons_iff fits inPage, List.take_take,
    Nat.min_eq_left (Nat.succ_le_of_lt inPage)]
  simp only [eq_comm]

theorem shown_back_iff (positive : 0 < after.capacity)
    (capacity : after.capacity = container.capacity)
    (items : after.itemlist = container.itemlist ++ [new]) (within : window.index ≤ container.size)
    (shows : window.shown = container.page window.index) (item : Item) :
    (after.entered window (after.place window) (some item)).shown = after.page window.index ↔
      ∀ shown ∈ (after.page window.index).drop (after.place window), item = shown := by
  have longer : after.size = container.itemlist.length + 1 := by
    rw [Container.size, items, List.length_append, List.length_singleton]
  obtain ⟨inPage, fits⟩ := place_le positive longer within
  have isPage : after.page window.index =
      (page window.index after.capacity container.itemlist ++ [new]).take after.capacity := by
    rw [Container.page, items, page_append within]
  have isShown : window.shown = page window.index after.capacity container.itemlist := by
    rw [shows, Container.page, capacity]
  show (window.shown.insertIdx (after.place window) item).take after.capacity = _ ↔ _
  rw [isPage, isShown, take_insertIdx_eq_append_iff fits inPage]
  simp only [eq_comm]

end Entered

/-! ## Items that change -/

section Changing

variable {container after : Container Item} {window : Window Item}

theorem shown_sendUpdateContainerItem_iff (capacity : after.capacity = container.capacity)
    {place : Nat} {changed : Item} (items : after.itemlist = container.itemlist.set place changed)
    (present : place < container.size) (shows : window.shown = container.page window.index) :
    (after.sendUpdateContainerItem (uint16 place) changed window).shown =
        after.page window.index ↔ container.UpdateFits place changed window := by
  have slot := uint16_le place
  have pageEnd := uint16_le (window.index + container.capacity)
  have length : (container.page window.index).length =
      min container.capacity (container.size - window.index) := length_page
  have item (other : Nat) (reached : window.index ≤ other)
      (inPage : other < window.index + container.capacity) :
      (container.page window.index)[other - window.index]? = container.itemlist[other]? := by
    rw [Container.page, getElem?_page, if_pos (by omega), Nat.add_sub_cancel' reached]
  have isPage : after.page window.index =
      if window.index ≤ place ∧ place < window.index + container.capacity then
        (container.page window.index).set (place - window.index) changed
      else container.page window.index := by
    rw [Container.page, items, capacity, page_set]
    by_cases before : place < window.index
    · rw [if_pos before, if_neg fun both => absurd both.1 (Nat.not_le.mpr before)]
      rfl
    rw [if_neg before]
    by_cases behind : place < window.index + container.capacity
    · rw [if_pos ⟨Nat.le_of_not_lt before, behind⟩]
      rfl
    · rw [if_neg fun both => absurd both.2 behind]
      exact List.set_eq_of_length_le (by rw [length_page]; omega)
  have isShown : (after.sendUpdateContainerItem (uint16 place) changed window).shown =
      if window.index ≤ uint16 place ∧
          uint16 place < uint16 (window.index + container.capacity) then
        (container.page window.index).set (uint16 place - window.index) changed
      else container.page window.index := by
    rw [Container.sendUpdateContainerItem, capacity, ← shows]
    by_cases before : uint16 place < window.index
    · rw [if_pos before, if_neg fun both => absurd both.1 (Nat.not_le.mpr before)]
    rw [if_neg before]
    by_cases behind : uint16 (window.index + container.capacity) ≤ uint16 place
    · rw [if_pos behind, if_neg fun both => absurd both.2 (Nat.not_lt.mpr behind)]
    · rw [if_neg behind, if_pos ⟨Nat.le_of_not_lt before, Nat.lt_of_not_le behind⟩]
      rfl
  rw [isPage, isShown]
  by_cases inPage : window.index ≤ place ∧ place < window.index + container.capacity
  · rw [if_pos inPage]
    by_cases sent : window.index ≤ uint16 place ∧
        uint16 place < uint16 (window.index + container.capacity)
    · rw [if_pos sent]
      by_cases same : uint16 place = place
      · refine iff_of_true (by rw [same]) ⟨fun _ _ differs => absurd same differs, ?_⟩
        exact fun _ _ fails => absurd ⟨same ▸ sent.2, same⟩ fails
      · rw [set_eq_set_iff (by omega) (by omega) (by omega), item _ sent.1 (by omega),
          item _ inPage.1 inPage.2]
        constructor
        · rintro ⟨atSlot, atPlace⟩
          exact ⟨fun _ _ _ => atSlot, fun _ _ _ => atPlace⟩
        · rintro ⟨atSlot, atPlace⟩
          exact ⟨atSlot sent.1 sent.2 same, atPlace inPage.1 inPage.2 fun both => same both.2⟩
    · rw [if_neg sent, eq_comm, set_eq_self_iff (by omega), item _ inPage.1 inPage.2]
      constructor
      · intro atPlace
        exact ⟨fun reached before => absurd ⟨reached, before⟩ sent, fun _ _ _ => atPlace⟩
      · rintro ⟨-, atPlace⟩
        refine atPlace inPage.1 inPage.2 fun both => sent ?_
        rw [both.2]
        exact ⟨inPage.1, both.1⟩
  · rw [if_neg inPage]
    have never : window.index ≤ place → place < window.index + container.capacity → False :=
      fun reached before => inPage ⟨reached, before⟩
    by_cases sent : window.index ≤ uint16 place ∧
        uint16 place < uint16 (window.index + container.capacity)
    · have differs : uint16 place ≠ place := by omega
      rw [if_pos sent, set_eq_self_iff (by omega), item _ sent.1 (by omega)]
      constructor
      · intro atSlot
        exact ⟨fun _ _ _ => atSlot, fun reached before => (never reached before).elim⟩
      · rintro ⟨atSlot, -⟩
        exact atSlot sent.1 sent.2 differs
    · rw [if_neg sent]
      refine iff_of_true rfl ⟨fun reached before => absurd ⟨reached, before⟩ sent, ?_⟩
      exact fun reached before => (never reached before).elim

end Changing

/-! ## Items that leave -/

section Leaving

variable {container after : Container Item} {window : Window Item}

/-- The window when its page has been turned. -/
def Container.turn (container : Container Item) (window : Window Item) : Window Item :=
  if container.Turns window then
    container.sendContainer { window with index := window.index - container.capacity }
  else window

theorem index_turn (window : Window Item) :
    (container.turn window).index = container.turned window := by
  unfold Container.turn Container.turned
  by_cases turns : container.Turns window
  · rw [if_pos turns, if_pos turns]
    rfl
  · rw [if_neg turns, if_neg turns]

theorem index_sendRemoveContainerItem (slot : Nat) (window : Window Item) :
    (container.sendRemoveContainerItem slot window).index = container.turned window :=
  index_turn window

/-- The client takes an item away, and puts the one behind the page at its end. -/
theorem shown_sendRemoveContainerItem (slot : Nat) (window : Window Item) :
    (container.sendRemoveContainerItem slot window).shown =
      (container.turn window).shown.eraseIdx (slot - container.turned window) ++
        (container.itemlist[container.turned window + container.capacity]?).toList := by
  show (container.turn window).shown.eraseIdx
      (max slot (container.turn window).index - (container.turn window).index) ++
    (container.itemlist[container.capacity + (container.turn window).index]?).toList = _
  have same : max slot (container.turned window) - container.turned window =
      slot - container.turned window := by omega
  rw [index_turn, same, Nat.add_comm]

theorem turned_placed (positive : 0 < container.capacity) (placed : Placed container window.index) :
    container.capacity ∣ container.turned window ∧
      (container.turned window = 0 ∨ container.turned window < container.size - 1) := by
  unfold Container.turned
  by_cases turns : container.Turns window
  · rw [if_pos turns]
    have within := placed.within
    exact ⟨Nat.dvd_sub placed.multiple (Nat.dvd_refl _), by omega⟩
  · rw [if_neg turns]
    refine ⟨placed.multiple, ?_⟩
    unfold Container.Turns at turns
    omega

theorem shown_turn (shows : window.shown = container.page window.index)
    (whole : ¬(container.Turns window ∧ 255 < container.capacity)) :
    (container.turn window).shown = container.page (container.turned window) := by
  unfold Container.turn Container.turned
  by_cases turns : container.Turns window
  · rw [if_pos turns, if_pos turns]
    refine (container.shown_sendContainer_iff _).mpr (.inl ?_)
    exact Nat.le_of_not_lt fun cut => whole ⟨turns, cut⟩
  · rw [if_neg turns, if_neg turns]
    exact shows

theorem size_of_turns (placed : Placed container window.index) (turns : container.Turns window) :
    container.size = container.turned window + container.capacity + 1 := by
  have room := placed.capacity_le turns.1
  have within := placed.within
  obtain ⟨later, last⟩ := turns
  rw [Container.turned, if_pos ⟨later, last⟩]
  omega

theorem shown_turn_cut (placed : Placed container window.index) (turns : container.Turns window)
    (cut : 255 < container.capacity) :
    (container.turn window).shown = page (container.turned window) 255 container.itemlist := by
  have size := size_of_turns placed turns
  have enough : min (min container.capacity (container.size - container.turned window)) 255 =
      255 := by omega
  rw [Container.turned, if_pos turns] at enough ⊢
  rw [Container.turn, if_pos turns]
  show (container.itemlist.drop (window.index - container.capacity)).take _ = _
  rw [enough]
  rfl

theorem shown_sendRemoveContainerItem_iff (positive : 0 < container.capacity)
    (placed : Placed container window.index) (capacity : after.capacity = container.capacity)
    {place : Nat} (items : after.itemlist = container.itemlist.eraseIdx place)
    (present : place < container.size) (shows : window.shown = container.page window.index) :
    (container.sendRemoveContainerItem (uint16 place) window).shown =
        after.page (container.turned window) ↔ container.RemoveFits place window := by
  have slot := uint16_le place
  obtain ⟨-, within⟩ := turned_placed positive placed
  have size := size_of_turns placed
  have isTurned := shown_turn shows
  have isCut := shown_turn_cut placed
  rw [shown_sendRemoveContainerItem]
  unfold Container.RemoveFits
  dsimp only
  generalize isIndex : container.turned window = index at within size isTurned isCut
  generalize isReached : uint16 place - index = reached
  generalize isDue : min (place - index) container.capacity = due
  have isPage : after.page index =
      (page index (container.capacity + 1) container.itemlist).eraseIdx due := by
    rw [Container.page, items, capacity, page_eraseIdx, isDue]
  have length : (page index (container.capacity + 1) container.itemlist).length =
      min (container.capacity + 1) (container.size - index) := length_page
  rw [isPage]
  by_cases cut : container.Turns window ∧ 255 < container.capacity
  · rw [if_pos cut, isCut cut.1 cut.2]
    have size := size cut.1
    obtain ⟨last, isLast⟩ : ∃ last, container.itemlist[index + container.capacity]? = some last :=
      ⟨_, List.getElem?_eq_getElem (Nat.lt_of_lt_of_eq (Nat.lt_succ_self _) size.symm)⟩
    have length255 : (page index 255 container.itemlist).length = 255 := by
      rw [length_page]
      show min 255 (container.size - index) = 255
      omega
    have lengthAfter :
        ((page index (container.capacity + 1) container.itemlist).eraseIdx due).length =
          container.capacity := by
      rw [List.length_eraseIdx_of_lt (by omega), length]
      omega
    by_cases behind : 255 ≤ reached
    · by_cases isWidth : container.capacity = 256
      · have sameErased : page index 255 container.itemlist =
            (page index 256 container.itemlist).eraseIdx 255 := (eraseIdx_page_succ length255).symm
        rw [List.eraseIdx_of_length_le (by omega), sameErased, isWidth,
          eraseIdx_append_next (Nat.lt_succ_self 255), eraseIdx_eq_iff (by omega)]
        exact ⟨fun alike => ⟨rfl, behind, alike⟩, fun both => both.2.2⟩
      · refine iff_of_false (fun same => ?_) fun both => isWidth both.1
        have sameLength := congrArg List.length same
        rw [List.eraseIdx_of_length_le (by omega), isLast, lengthAfter, List.length_append,
          length255] at sameLength
        exact isWidth sameLength.symm
    · refine iff_of_false (fun same => ?_) fun both => behind both.2.1
      have sameLength := congrArg List.length same
      rw [isLast, lengthAfter, List.length_append, List.length_eraseIdx_of_lt (by omega),
        length255] at sameLength
      have short : 255 = container.capacity := sameLength
      omega
  rw [if_neg cut, isTurned cut, Container.page]
  by_cases inPage : reached < container.capacity
  · rw [eraseIdx_append_next inPage, eraseIdx_eq_iff (by omega)]
    exact (and_iff_right inPage).symm
  · refine iff_of_false (fun same => ?_) fun both => inPage both.1
    have sameLength := congrArg List.length same
    have short : (page index container.capacity container.itemlist).length ≤ reached := by
      rw [length_page]
      omega
    rw [List.eraseIdx_of_length_le short, ← page_succ, length,
      List.length_eraseIdx_of_lt (by omega), length] at sameLength
    omega

end Leaving

end Otserv.Windows
