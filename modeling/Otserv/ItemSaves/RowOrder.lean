import Otserv.ItemSaves.SaveItems

/-!
# The order of saved items

The rows of a player's items come in the order of a queue of items: an item gets the next
number, and what is in it goes to the end of the queue (`saveItems_eq`). So the rows that name a
number as their container are, in their order, the items of that container, and hanging them
from the last row to the first, each in front, gives each container its items in their order
(`restored_of_saved`).
-/

namespace Otserv.ItemSaves

variable {Plain Pack : Type}

/-! ## Rows as a queue of items -/

/-- The rows of items, with what they are in, that are numbered from one on. -/
def rowsFrom : Nat → Nat → List (Nat × Item Plain Pack) → List (Row Plain Pack)
  | 0, _, _ => []
  | _ + 1, _, [] => []
  | fuel + 1, next, (pid, item) :: pending =>
    ⟨pid, next, item.data⟩ ::
      rowsFrom fuel (next + 1) (pending ++ item.itemlist.map fun inside => (next, inside))

variable (fuel next : Nat)

@[simp] theorem rowsFrom_nil : rowsFrom fuel next ([] : List (Nat × Item Plain Pack)) = [] := by
  cases fuel <;> rfl

theorem Item.size_eq (item : Item Plain Pack) : item.size = sizeAll item.itemlist + 1 := by
  cases item with
  | plain data => simp only [Item.size, Item.itemlist, sizeAll]
  | container data items => simp only [Item.size, Item.itemlist]

theorem sizeAll_append (first second : List (Item Plain Pack)) :
    sizeAll (first ++ second) = sizeAll first + sizeAll second := by
  induction first with
  | nil => simp only [List.nil_append, sizeAll, Nat.zero_add]
  | cons item first ih => simp only [List.cons_append, sizeAll, ih, Nat.add_assoc]

variable (queue : List (List (Item Plain Pack) × Nat))

/-- The items that wait in the queue of containers. -/
def waiting : List (Nat × Item Plain Pack) :=
  queue.flatMap fun block => block.1.map fun item => (block.2, item)

variable (first second : List (List (Item Plain Pack) × Nat))

theorem waiting_append :
    waiting (first ++ second) = waiting first ++ waiting second := List.flatMap_append

/-- The containers of the queue, and the items in them. -/
def weight : Nat :=
  (queue.map fun block => sizeAll block.1 + 1).sum

theorem weight_append : weight (first ++ second) = weight first + weight second := by
  rw [weight, List.map_append, List.sum_append]
  rfl

/-- What a block of items does to the state: their rows are written, and their containers join
the queue. -/
structure Block (entries : List (Nat × Item Plain Pack)) (saving after : Saving Plain Pack)
    (joined : List (List (Item Plain Pack) × Nat)) (written : List (Row Plain Pack)) : Prop where
  runningId : after.runningId = saving.runningId + entries.length
  queue : after.queue = saving.queue ++ joined
  rows : after.rows = saving.rows ++ written
  size : sizeAll (entries.map (·.2)) = entries.length + sizeAll ((waiting joined).map (·.2))
  weight : weight joined ≤ sizeAll (entries.map (·.2))
  order (fuel : Nat) (pending : List (Nat × Item Plain Pack)) :
    rowsFrom (entries.length + fuel) (saving.runningId + 1) (entries ++ pending) =
      written ++ rowsFrom fuel (after.runningId + 1) (pending ++ waiting joined)

theorem Block.single (saving : Saving Plain Pack) (pid : Nat) (item : Item Plain Pack) :
    ∃ joined, Block [(pid, item)] saving (saving.saveItem pid item) joined
      [⟨pid, saving.runningId + 1, item.data⟩] := by
  cases item with
  | plain data =>
    refine ⟨[], rfl, (List.append_nil _).symm, rfl, rfl, Nat.zero_le _, fun fuel pending => ?_⟩
    rw [List.length_singleton, Nat.add_comm]
    rfl
  | container data items =>
    have size : sizeAll ([(pid, .container data items)].map (·.2)) = sizeAll items + 1 := by
      simp only [List.map_cons, List.map_nil, sizeAll, Item.size, Nat.add_zero]
    have behind : waiting [(items, saving.runningId + 1)] =
        items.map fun item => (saving.runningId + 1, item) := List.flatMap_singleton _ _
    refine ⟨[(items, saving.runningId + 1)], rfl, rfl, rfl, ?_, ?_, fun fuel pending => ?_⟩
    · rw [size, behind, List.map_map, Nat.add_comm]
      exact congrArg (1 + sizeAll ·) items.map_id.symm
    · exact Nat.le_of_eq size.symm
    · rw [List.length_singleton, Nat.add_comm, behind]
      rfl

theorem Block.trans {first second : List (Nat × Item Plain Pack)}
    {saving between after : Saving Plain Pack}
    {joined more : List (List (Item Plain Pack) × Nat)} {written others : List (Row Plain Pack)}
    (block : Block first saving between joined written)
    (next : Block second between after more others) :
    Block (first ++ second) saving after (joined ++ more) (written ++ others) where
  runningId := by rw [next.runningId, block.runningId, List.length_append, Nat.add_assoc]
  queue := by rw [next.queue, block.queue, List.append_assoc]
  rows := by rw [next.rows, block.rows, List.append_assoc]
  size := by
    rw [List.map_append, sizeAll_append, block.size, next.size, List.length_append,
      waiting_append, List.map_append, sizeAll_append]
    omega
  weight := by
    rw [weight_append, List.map_append, sizeAll_append]
    exact Nat.add_le_add block.weight next.weight
  order fuel pending := by
    rw [List.length_append, Nat.add_assoc, List.append_assoc, block.order, List.append_assoc,
      next.order, waiting_append, List.append_assoc, List.append_assoc]

theorem Block.foldl (entries : List (Nat × Item Plain Pack)) (saving : Saving Plain Pack) :
    ∃ joined written, Block entries saving
      (entries.foldl (fun saving entry => saving.saveItem entry.1 entry.2) saving) joined
        written := by
  induction entries generalizing saving with
  | nil =>
    refine ⟨[], [], rfl, (List.append_nil _).symm, (List.append_nil _).symm, rfl, Nat.le_refl 0,
      fun fuel pending => ?_⟩
    have none : pending ++ waiting [] = pending := pending.append_nil
    rw [none, List.length_nil, Nat.zero_add]
    rfl
  | cons entry entries ih =>
    obtain ⟨joined, first⟩ := Block.single saving entry.1 entry.2
    obtain ⟨more, written, rest⟩ := ih (saving.saveItem entry.1 entry.2)
    exact ⟨_, _, first.trans rest⟩

theorem saveQueue_rows (fuel : Nat) (saving : Saving Plain Pack)
    (enough : weight saving.queue ≤ fuel) (more : Nat)
    (enoughRows : sizeAll ((waiting saving.queue).map (·.2)) ≤ more) :
    (saving.saveQueue fuel).rows =
      saving.rows ++ rowsFrom more (saving.runningId + 1) (waiting saving.queue) := by
  induction fuel generalizing saving more with
  | zero =>
    have empty : saving.queue = [] := by
      cases isQueue : saving.queue with
      | nil => rfl
      | cons block queue =>
        rw [isQueue] at enough
        simp only [weight, List.map_cons, List.sum_cons] at enough
        omega
    rw [empty]
    exact (congrArg (saving.rows ++ ·) (rowsFrom_nil _ _)).trans (List.append_nil _) |>.symm
  | succ fuel ih =>
    rw [Saving.saveQueue]
    cases isQueue : saving.queue with
    | nil =>
      exact (congrArg (saving.rows ++ ·) (rowsFrom_nil _ _)).trans (List.append_nil _) |>.symm
    | cons front queue =>
      obtain ⟨items, parentId⟩ := front
      rw [isQueue] at enough enoughRows
      obtain ⟨joined, written, block⟩ := Block.foldl
        (items.map fun item => (parentId, item)) { saving with queue }
      rw [List.foldl_map] at block
      have split : waiting ((items, parentId) :: queue) =
          (items.map fun item => (parentId, item)) ++ waiting queue := rfl
      have front : sizeAll ((items.map fun item => (parentId, item)).map (·.2)) =
          sizeAll items := by
        rw [List.map_map]
        exact congrArg sizeAll items.map_id
      have weights : weight ((items, parentId) :: queue) =
          sizeAll items + 1 + weight queue := List.sum_cons
      rw [split, List.map_append, sizeAll_append, block.size] at enoughRows
      have lighter := block.weight
      have rest := ih _ (by rw [block.queue, weight_append]; dsimp only; omega)
        (more - (items.map fun item => (parentId, item)).length) (by
          rw [block.queue, waiting_append, List.map_append, sizeAll_append]
          dsimp only
          omega)
      have order := block.order (more - (items.map fun item => (parentId, item)).length)
        (waiting queue)
      rw [Nat.add_sub_cancel' (by omega)] at order
      rw [split, order, ← List.append_assoc, ← block.rows, ← waiting_append]
      rw [block.queue] at rest
      exact rest

/-- **The rows come in the order of a queue of items.** -/
theorem saveItems_eq (itemList : List (Nat × Item Plain Pack)) :
    saveItems itemList = rowsFrom (sizeAll (itemList.map (·.2))) 101 itemList := by
  obtain ⟨joined, written, block⟩ := Block.foldl itemList ({} : Saving Plain Pack)
  have rows := saveQueue_rows (sizeAll (itemList.map (·.2))) _
    (by rw [block.queue]; exact block.weight) (sizeAll (itemList.map (·.2)) - itemList.length)
    (by rw [block.queue, block.size]; exact Nat.le_of_eq (Nat.add_sub_cancel_left _ _).symm)
  have order := block.order (sizeAll (itemList.map (·.2)) - itemList.length) []
  rw [Nat.add_sub_cancel' (by rw [block.size]; exact Nat.le_add_right _ _), List.append_nil,
    List.nil_append] at order
  rw [saveItems, rows, block.rows, block.queue, order]
  rfl

/-! ## What the rows say -/

variable (rows : List (Row Plain Pack))

/-- The numbers of the rows that name one as their slot or container. -/
def inside (pid : Nat) : List Nat :=
  (rows.filter fun row => row.pid = pid).map Row.sid

variable (pending : List (Nat × Item Plain Pack))

theorem sids_rowsFrom :
    (rowsFrom fuel next pending).map Row.sid =
      List.range' next (rowsFrom fuel next pending).length := by
  induction fuel generalizing next pending with
  | zero => rfl
  | succ fuel ih =>
    cases pending with
    | nil => rfl
    | cons entry pending =>
      rw [rowsFrom, List.map_cons, ih, List.length_cons, List.range'_succ]

theorem dataOf_isSome {rows : List (Row Plain Pack)} {sid : Nat}
    (isSome : (dataOf rows sid).isSome) : sid ∈ rows.map Row.sid := by
  rw [dataOf, Option.isSome_map, List.find?_isSome] at isSome
  obtain ⟨row, member, same⟩ := isSome
  exact List.mem_map.mpr ⟨row, member, of_decide_eq_true same⟩

mutual

variable {data other : Nat → Option (Plain ⊕ Pack)} {itemlist others : Nat → List Nat}

theorem Holds.congr
    (same : ∀ sid, (data sid).isSome → other sid = data sid ∧ others sid = itemlist sid)
    (sid : Nat) : (item : Item Plain Pack) → Holds data itemlist sid item →
      Holds other others sid item
  | .plain own, holds => by
      obtain ⟨sameData, sameList⟩ := same sid (by rw [holds.1]; rfl)
      exact ⟨sameData.trans holds.1, sameList.trans holds.2⟩
  | .container own items, holds => by
      obtain ⟨sameData, sameList⟩ := same sid (by rw [holds.1]; rfl)
      refine ⟨sameData.trans holds.1, ?_⟩
      rw [sameList]
      exact .congr same (itemlist sid) items holds.2

theorem HoldsAll.congr
    (same : ∀ sid, (data sid).isSome → other sid = data sid ∧ others sid = itemlist sid) :
    (sids : List Nat) → (items : List (Item Plain Pack)) → HoldsAll data itemlist sids items →
      HoldsAll other others sids items
  | [], [], _ => trivial
  | sid :: sids, item :: items, holds =>
    ⟨.congr same sid item holds.1, .congr same sids items holds.2⟩

end

variable {data : Nat → Option (Plain ⊕ Pack)} {itemlist : Nat → List Nat}

theorem HoldsAll.append {first second : List (Item Plain Pack)} {sids : List Nat}
    (holds : HoldsAll data itemlist sids (first ++ second)) :
    ∃ before behind, sids = before ++ behind ∧ HoldsAll data itemlist before first ∧
      HoldsAll data itemlist behind second := by
  induction first generalizing sids with
  | nil => exact ⟨[], sids, rfl, trivial, holds⟩
  | cons item first ih =>
    cases sids with
    | nil => exact holds.elim
    | cons sid sids =>
      obtain ⟨before, behind, rfl, held, rest⟩ := ih holds.2
      exact ⟨sid :: before, behind, rfl, ⟨holds.1, held⟩, rest⟩

theorem HoldsAll.length_eq :
    {sids : List Nat} → {items : List (Item Plain Pack)} → HoldsAll data itemlist sids items →
      sids.length = items.length
  | [], [], _ => rfl
  | _ :: _, _ :: _, holds => congrArg (· + 1) holds.2.length_eq

/-- The slots or containers, and the numbers, of the rows that name an older one than `next`. -/
def olderRows (next : Nat) : List (Nat × Nat) :=
  (rows.filter fun row => row.pid < next).map fun row => (row.pid, row.sid)

theorem filter_zip_append (pids news before behind : List Nat) {next : Nat}
    (older : ∀ pid ∈ pids, pid < next) (same : ∀ pid ∈ news, pid = next)
    (length : pids.length = before.length) (lengthNews : news.length = behind.length) :
    (((pids ++ news).zip (before ++ behind)).filter fun pair => pair.1 < next) =
        pids.zip before ∧
      ((((pids ++ news).zip (before ++ behind)).filter fun pair => pair.1 = next).map (·.2)) =
        behind := by
  have first : ∀ pair ∈ pids.zip before, pair.1 < next := fun pair member =>
    older pair.1 (List.of_mem_zip member).1
  have second : ∀ pair ∈ news.zip behind, pair.1 = next := fun pair member =>
    same pair.1 (List.of_mem_zip member).1
  rw [List.zip_append length, List.filter_append, List.filter_append]
  constructor
  · rw [List.filter_eq_self.mpr fun pair member => decide_eq_true (first pair member),
      List.filter_eq_nil_iff.mpr fun pair member => by
        rw [decide_eq_true_eq, second pair member]; exact Nat.lt_irrefl next, List.append_nil]
  · rw [List.filter_eq_self.mpr fun pair member => decide_eq_true (second pair member),
      List.filter_eq_nil_iff.mpr fun pair member => by
        rw [decide_eq_true_eq]; exact Nat.ne_of_lt (first pair member), List.nil_append,
      List.map_snd_zip (Nat.le_of_eq lengthNews.symm)]

theorem later_of_cons {row : Row Plain Pack} {rows : List (Row Plain Pack)} {sid : Nat}
    (own : row.sid < sid) (above : row.pid < sid) :
    dataOf (row :: rows) sid = dataOf rows sid ∧ inside (row :: rows) sid = inside rows sid := by
  constructor
  · rw [dataOf, dataOf, List.find?_cons_of_neg (by
      rw [decide_eq_true_eq]; exact Nat.ne_of_lt own)]
  · rw [inside, inside, List.filter_cons_of_neg (by
      rw [decide_eq_true_eq]; exact Nat.ne_of_lt above)]

theorem inside_eq_olderRows (sid : Nat) :
    inside rows sid =
      ((olderRows rows (sid + 1)).filter fun pair => pair.1 = sid).map (·.2) := by
  rw [inside, olderRows, List.filter_map, List.map_map, List.filter_filter]
  apply congrArg (List.map Row.sid)
  apply List.filter_congr
  intro row _
  by_cases same : row.pid = sid
  · simp only [Function.comp, same, decide_true, Nat.lt_succ_self, Bool.and_self]
  · simp only [Function.comp, same, decide_false, Bool.false_and]

theorem olderRows_eq_filter (next : Nat) :
    olderRows rows next = (olderRows rows (next + 1)).filter fun pair => pair.1 < next := by
  rw [olderRows, olderRows, List.filter_map, List.filter_filter]
  apply congrArg (List.map _)
  apply List.filter_congr
  intro row _
  by_cases older : row.pid < next
  · simp only [Function.comp, older, Nat.lt_succ_of_lt older, decide_true, Bool.and_self]
  · simp only [Function.comp, older, decide_false, Bool.false_and]

theorem holds_cons {rows : List (Row Plain Pack)} {pid next : Nat} {item : Item Plain Pack}
    {others : List (Item Plain Pack)} {pids before : List Nat} (pidOlder : pid < next)
    (later : ∀ sid, (dataOf rows sid).isSome → next < sid)
    (holdsOthers : HoldsAll (dataOf rows) (inside rows) before others)
    (holdsInside : HoldsAll (dataOf rows) (inside rows) (inside rows next) item.itemlist)
    (isOlder : olderRows rows next = pids.zip before) :
    HoldsAll (dataOf (⟨pid, next, item.data⟩ :: rows)) (inside (⟨pid, next, item.data⟩ :: rows))
        (next :: before) (item :: others) ∧
      olderRows (⟨pid, next, item.data⟩ :: rows) next = (pid :: pids).zip (next :: before) := by
  have alike : ∀ sid, (dataOf rows sid).isSome →
      dataOf (⟨pid, next, item.data⟩ :: rows) sid = dataOf rows sid ∧
        inside (⟨pid, next, item.data⟩ :: rows) sid = inside rows sid := fun sid isSome =>
    later_of_cons (later sid isSome) (Nat.lt_trans pidOlder (later sid isSome))
  have own : dataOf (⟨pid, next, item.data⟩ :: rows) next = some item.data := by
    rw [dataOf, List.find?_cons_of_pos (by rw [decide_eq_true_eq]), Option.map_some]
  have below : inside (⟨pid, next, item.data⟩ :: rows) next = inside rows next := by
    rw [inside, inside, List.filter_cons_of_neg (by
      rw [decide_eq_true_eq]; exact Nat.ne_of_lt pidOlder)]
  refine ⟨⟨?_, .congr alike before others holdsOthers⟩, ?_⟩
  · have held := HoldsAll.congr alike _ item.itemlist holdsInside
    cases item with
    | plain data =>
      refine ⟨own, ?_⟩
      rw [below]
      cases isInside : inside rows next with
      | nil => rfl
      | cons sid sids =>
        rw [isInside] at holdsInside
        exact holdsInside.elim
    | container data items =>
      refine ⟨own, ?_⟩
      rw [below]
      exact held
  · rw [olderRows, List.filter_cons_of_pos (by rw [decide_eq_true_eq]; exact pidOlder),
      List.map_cons, List.zip_cons_cons]
    exact congrArg _ isOlder

/-- **What the rows say of the items.** The rows that name an older one are those of the items
that wait, in their order, and below each is what is in it. -/
theorem rowsFrom_holds
    (enough : sizeAll (pending.map (·.2)) ≤ fuel) (older : ∀ entry ∈ pending, entry.1 < next) :
    ∃ sids, HoldsAll (dataOf (rowsFrom fuel next pending)) (inside (rowsFrom fuel next pending))
        sids (pending.map (·.2)) ∧
      olderRows (rowsFrom fuel next pending) next = (pending.map (·.1)).zip sids := by
  induction fuel generalizing next pending with
  | zero =>
    cases pending with
    | nil => exact ⟨[], trivial, rfl⟩
    | cons entry pending =>
      rw [List.map_cons, sizeAll, entry.2.size_eq] at enough
      omega
  | succ fuel ih =>
    cases pending with
    | nil => exact ⟨[], trivial, rfl⟩
    | cons entry pending =>
      obtain ⟨pid, item⟩ := entry
      have pidOlder : pid < next := older (pid, item) List.mem_cons_self
      have othersOlder : ∀ entry ∈ pending, entry.1 < next := fun entry member =>
        older entry (List.mem_cons_of_mem _ member)
      have items : (pending ++ item.itemlist.map fun inside => (next, inside)).map (·.2) =
          pending.map (·.2) ++ item.itemlist := by
        rw [List.map_append, List.map_map]
        exact congrArg (pending.map (·.2) ++ ·) item.itemlist.map_id
      have pids : (pending ++ item.itemlist.map fun inside => (next, inside)).map (·.1) =
          pending.map (·.1) ++ item.itemlist.map fun _ => next := by
        rw [List.map_append, List.map_map]
        rfl
      obtain ⟨sids, holds, rows⟩ := ih (next + 1)
        (pending ++ item.itemlist.map fun inside => (next, inside))
        (by
          rw [List.map_cons, sizeAll, item.size_eq] at enough
          rw [items, sizeAll_append]
          omega)
        (by
          intro entry member
          rcases List.mem_append.mp member with member | member
          · exact Nat.lt_succ_of_lt (othersOlder entry member)
          · obtain ⟨inner, -, rfl⟩ := List.mem_map.mp member
            exact next.lt_succ_self)
      rw [items] at holds
      obtain ⟨before, behind, rfl, holdsPending, holdsInside⟩ := holds.append
      rw [pids] at rows
      obtain ⟨first, second⟩ := filter_zip_append (pending.map (·.1))
        (item.itemlist.map fun _ => next) before behind
        (fun pid member => by
          obtain ⟨entry, isEntry, rfl⟩ := List.mem_map.mp member
          exact othersOlder entry isEntry)
        (fun pid member => by
          obtain ⟨inner, -, same⟩ := List.mem_map.mp member
          exact same.symm)
        (by rw [holdsPending.length_eq, List.length_map, List.length_map])
        (by rw [List.length_map, holdsInside.length_eq])
      rw [← rows, ← olderRows_eq_filter] at first
      rw [← rows, ← inside_eq_olderRows] at second
      rw [← second] at holdsInside
      refine ⟨next :: before, holds_cons pidOlder (fun sid isSome => ?_) holdsPending
        holdsInside first⟩
      have member := dataOf_isSome isSome
      rw [sids_rowsFrom, List.mem_range'_1] at member
      exact member.1

end Otserv.ItemSaves
