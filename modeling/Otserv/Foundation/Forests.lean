import Otserv.Foundation.Ancestry
import Mathlib.Algebra.BigOperators.Group.Finset.Basic
import Mathlib.Tactic.Abel

/-!
# Forests with cached sums

The nodes of a forest know their parent and list their children, and the two agree
(`Forest`). A root may be hung under a node that is not below it, and a node may be taken
down (`Forest.attach`, `Forest.detach`).

A node may also keep the sum of the weights of its children, where the weight of a node is
its own and that sum. When all sums are right, each is the own weight of all that is below
the node (`Forest.total_eq_sum_inside`). When one node's sum lacks something (`Owes`), the
lack is handed to the parent by mending it there, which mends everything
(`Forest.raise_balanced`) unless the way up leaves a node out (`Forest.raise_unbalanced`).
-/

namespace Otserv.Foundation

open Function (update update_of_ne update_self)

variable {Node : Type*}

/-- Parents and lists of children that agree, with no cycles. -/
structure Forest (nodes : Finset Node) (parent : Node → Option Node)
    (children : Node → List Node) : Prop where
  nodup : ∀ node, (children node).Nodup
  mem_iff : ∀ {node child}, child ∈ children node ↔ node ∈ parent child
  present : ∀ {node above}, above ∈ parent node → node ∈ nodes
  rising : ∃ cost, Rising nodes parent cost

namespace Forest

variable {nodes : Finset Node} {parent : Node → Option Node} {children : Node → List Node}

theorem mono (forest : Forest nodes parent children) {more : Finset Node} (subset : nodes ⊆ more) :
    Forest more parent children where
  nodup := forest.nodup
  mem_iff := forest.mem_iff
  present := fun isParent => subset (forest.present isParent)
  rising := by
    obtain ⟨cost, rising⟩ := forest.rising
    refine ⟨cost, fun node _ above isParent => ?_⟩
    obtain ⟨present, lower⟩ := rising node (forest.present isParent) above isParent
    exact ⟨subset present, lower⟩

/-- Nothing is below itself. -/
theorem irrefl (forest : Forest nodes parent children) (node : Node) :
    ¬ Inside parent node node := by
  intro cycle
  obtain ⟨cost, rising⟩ := forest.rising
  obtain ⟨above, isParent, -⟩ := Relation.TransGen.head'_iff.mp cycle
  exact rising.acyclic (forest.present isParent) cycle

theorem not_within_of_parent (forest : Forest nodes parent children) {node above : Node}
    (isParent : above ∈ parent node) : ¬ Within parent above node := fun within =>
  forest.irrefl node (.head' isParent within)

theorem row {node first second : Node} (toFirst : Within parent node first)
    (toSecond : Within parent node second) :
    Within parent first second ∨ Within parent second first := by
  have unique : Relator.RightUnique (Above parent) := fun _ _ _ => Option.mem_unique
  exact Relation.ReflTransGen.total_of_right_unique unique toFirst toSecond

theorem inside_iff (forest : Forest nodes parent children) (node top : Node) :
    Inside parent node top ↔ ∃ child ∈ children top, Within parent node child := by
  rw [Inside, Relation.TransGen.tail'_iff]
  simp only [forest.mem_iff]
  exact exists_congr fun child => and_comm

theorem apart_of_siblings (forest : Forest nodes parent children) {top first second : Node}
    (isFirst : first ∈ children top) (isSecond : second ∈ children top)
    (different : first ≠ second) (below : Node) :
    ¬ (Within parent below first ∧ Within parent below second) := by
  -- no child of a node is below another
  have apart {first second : Node} (isFirst : first ∈ children top)
      (isSecond : second ∈ children top) (different : first ≠ second) :
      ¬ Within parent first second := by
    intro within
    rcases within.cases_head with same | ⟨above, isParent, further⟩
    · exact different same
    · rw [Option.mem_unique isParent (forest.mem_iff.mp isFirst)] at further
      exact forest.not_within_of_parent (forest.mem_iff.mp isSecond) further
  rintro ⟨toFirst, toSecond⟩
  rcases row toFirst toSecond with within | within
  · exact apart isFirst isSecond different within
  · exact apart isSecond isFirst different.symm within

variable [DecidableEq Node]

theorem attach (forest : Forest nodes parent children) {hung hook : Node} {list : List Node}
    (present : hung ∈ nodes) (hookPresent : hook ∈ nodes) (isRoot : parent hung = none)
    (apart : ¬ Within parent hook hung) (listed : list.Perm (hung :: children hook)) :
    Forest nodes (update parent hung (some hook))
      (update children hook list) where
  nodup := by
    intro node
    by_cases here : node = hook
    · subst here
      rw [update_self, listed.nodup_iff, List.nodup_cons]
      refine ⟨fun member => ?_, forest.nodup node⟩
      rw [forest.mem_iff, isRoot] at member
      cases member
    · rw [update_of_ne here]
      exact forest.nodup node
  mem_iff := by
    intro node child
    by_cases isHung : child = hung
    · subst isHung
      rw [update_self, Option.mem_some_iff]
      by_cases here : node = hook
      · subst here
        rw [update_self, listed.mem_iff]
        exact iff_of_true List.mem_cons_self rfl
      · rw [update_of_ne here, forest.mem_iff, isRoot]
        exact iff_of_false (Option.not_mem_none node) fun same => here same.symm
    · rw [update_of_ne isHung]
      by_cases here : node = hook
      · subst here
        rw [update_self, listed.mem_iff, List.mem_cons, forest.mem_iff]
        exact or_iff_right isHung
      · rw [update_of_ne here, forest.mem_iff]
  present := by
    intro node above isParent
    by_cases isHung : node = hung
    · rwa [isHung]
    · rw [update_of_ne isHung] at isParent
      exact forest.present isParent
  rising := by
    obtain ⟨cost, rising⟩ := forest.rising
    exact rising.attach hookPresent apart

/-- A node is taken down, with all that is below it. -/
theorem detach (forest : Forest nodes parent children) {hung hook : Node} {list : List Node}
    (isHook : parent hung = some hook) (listed : (hung :: list).Perm (children hook)) :
    Forest nodes (update parent hung none) (update children hook list) := by
  have apart : hung ∉ list ∧ list.Nodup := by
    rw [← List.nodup_cons, listed.nodup_iff]
    exact forest.nodup hook
  refine ⟨?_, ?_, ?_, ?_⟩
  · intro node
    by_cases here : node = hook
    · rw [here, update_self]
      exact apart.2
    · rw [update_of_ne here]
      exact forest.nodup node
  · intro node child
    by_cases isHung : child = hung
    · subst isHung
      rw [update_self]
      refine iff_of_false ?_ (Option.not_mem_none node)
      by_cases here : node = hook
      · rw [here, update_self]
        exact apart.1
      · rw [update_of_ne here, forest.mem_iff, isHook, Option.mem_some_iff]
        exact fun same => here same.symm
    · rw [update_of_ne isHung]
      by_cases here : node = hook
      · subst here
        rw [update_self, ← forest.mem_iff, ← listed.mem_iff, List.mem_cons]
        exact (or_iff_right isHung).symm
      · rw [update_of_ne here, forest.mem_iff]
  · intro node above isParent
    by_cases isHung : node = hung
    · rw [isHung, update_self] at isParent
      cases isParent
    · rw [update_of_ne isHung] at isParent
      exact forest.present isParent
  · obtain ⟨cost, rising⟩ := forest.rising
    exact ⟨cost, rising.detach hung⟩

end Forest

/-! ## Sums -/

variable {Weight : Type*} [AddCommGroup Weight]

/-- The weight of a node: its own and the sum it keeps. -/
def weight (own total : Node → Weight) (node : Node) : Weight := own node + total node

variable (own total : Node → Weight) (children : Node → List Node)

/-- The sum of the weights of the children. -/
def contents (node : Node) : Weight :=
  ((children node).map (weight own total)).sum

/-- The sums are right, but one that lacks something. -/
def Owes [DecidableEq Node] (own total : Node → Weight) (children : Node → List Node)
    (debtor : Node) (debt : Weight) : Prop :=
  ∀ node, contents own total children node = total node + if node = debtor then debt else 0

/-- The sums are right. -/
def Balanced : Prop :=
  ∀ node, contents own total children node = total node

/-- Raises the sum of a node and of those reached from it. -/
def raise [DecidableEq Node] (next : Node → Option Node) :
    Nat → Node → Weight → (Node → Weight) → Node → Weight
  | 0, _, _, total => total
  | fuel + 1, node, diff, total =>
    let total := update total node (total node + diff)
    match next node with
    | some above => raise next fuel above diff total
    | none => total

theorem raise_zero [DecidableEq Node] (next : Node → Option Node) (fuel : Nat) (node : Node)
    (total : Node → Weight) : raise next fuel node 0 total = total := by
  induction fuel generalizing node with
  | zero => rfl
  | succ fuel ih =>
    rw [raise, add_zero, Function.update_eq_self]
    cases next node with
    | none => rfl
    | some above => exact ih above

theorem Owes.balanced [DecidableEq Node] {own total : Node → Weight} {children : Node → List Node}
    {debtor : Node} (owes : Owes own total children debtor 0) : Balanced own total children := by
  intro node
  rw [owes node, ite_self, add_zero]

theorem sum_map_raised [DecidableEq Node] {term : Node → Weight} {list : List Node}
    (nodup : list.Nodup) (raised : Node) (diff : Weight) :
    (list.map fun node => term node + if node = raised then diff else 0).sum =
      (list.map term).sum + if raised ∈ list then diff else 0 := by
  induction list with
  | nil => simp
  | cons head rest ih =>
    obtain ⟨absent, nodup⟩ := List.nodup_cons.mp nodup
    rw [List.map_cons, List.sum_cons, ih nodup, List.map_cons, List.sum_cons]
    by_cases here : head = raised
    · subst here
      rw [if_pos rfl, if_neg absent, if_pos List.mem_cons_self]
      abel
    · have same : raised ∈ head :: rest ↔ raised ∈ rest := by
        rw [List.mem_cons]
        exact or_iff_right fun same => here same.symm
      rw [if_neg here, if_congr same rfl rfl]
      abel

namespace Forest

variable [DecidableEq Node] {nodes : Finset Node} {parent next : Node → Option Node}
  {children : Node → List Node} {own total : Node → Weight} {node : Node} {diff : Weight}

/-- What the parent gains when a sum is raised. -/
theorem contents_update (forest : Forest nodes parent children) (node other : Node) :
    contents own (update total node (total node + diff)) children other =
      contents own total children other + if other ∈ parent node then diff else 0 := by
  have raised : weight own (update total node (total node + diff)) =
      fun child => weight own total child + if child = node then diff else 0 := by
    funext child
    by_cases here : child = node
    · rw [here, weight, weight, update_self, if_pos rfl, add_assoc]
    · rw [weight, weight, update_of_ne here, if_neg here, add_zero]
  rw [contents, contents, raised, sum_map_raised (forest.nodup other),
    if_congr forest.mem_iff rfl rfl]

/-- The lack is made up for, and the parent's sum lacks the same. -/
theorem owes_parent (forest : Forest nodes parent children)
    (owes : Owes own total children node diff) {above : Node} (isParent : parent node = some above) :
    Owes own (update total node (total node + diff)) children above diff := by
  have apart : node ≠ above := by
    rintro rfl
    exact forest.not_within_of_parent isParent .refl
  intro other
  rw [forest.contents_update, owes other, isParent]
  by_cases here : other = node
  · subst here
    rw [update_self, if_pos rfl, if_neg apart, if_neg]
    rw [Option.mem_some_iff]
    exact fun same => apart same.symm
  · rw [update_of_ne here, if_neg here, add_zero]
    simp only [Option.mem_some_iff, eq_comm]

theorem balanced_of_root (forest : Forest nodes parent children)
    (owes : Owes own total children node diff) (isRoot : parent node = none) :
    Balanced own (update total node (total node + diff)) children := by
  intro other
  rw [forest.contents_update, owes other, isRoot, if_neg (Option.not_mem_none other), add_zero]
  by_cases here : other = node
  · rw [here, update_self, if_pos rfl]
  · rw [update_of_ne here, if_neg here, add_zero]

theorem owes_of_list (balanced : Balanced own total children) {list : List Node}
    (sum : (list.map (weight own total)).sum = contents own total children node + diff) :
    Owes own total (update children node list) node diff := by
  intro other
  by_cases here : other = node
  · subst here
    rw [contents, update_self, sum, balanced other, if_pos rfl]
  · rw [contents, update_of_ne here, if_neg here, add_zero]
    exact balanced other

theorem owes_of_own (forest : Forest nodes parent children) (balanced : Balanced own total children)
    {child : Node} (isParent : parent child = some node) (changed : Weight) :
    Owes (update own child changed) total children node (changed - own child) := by
  intro other
  have raised : weight (update own child changed) total =
      fun node => weight own total node + if node = child then changed - own child else 0 := by
    funext node
    by_cases here : node = child
    · subst here
      rw [weight, weight, update_self, if_pos rfl]
      abel
    · rw [weight, weight, update_of_ne here, if_neg here, add_zero]
  have isChild : child ∈ children other ↔ other = node := by
    rw [forest.mem_iff, isParent, Option.mem_some_iff, eq_comm]
  rw [contents, raised, sum_map_raised (forest.nodup other), if_congr isChild rfl rfl]
  exact congrArg (· + _) (balanced other)

variable {cost : Node → Nat} {fuel : Nat}

/-- **Raising the sums on the way up.** -/
theorem raise_balanced (forest : Forest nodes parent children)
    (rising : Rising nodes parent cost) (member : node ∈ nodes)
    (enough : Rising.rank nodes cost node < fuel)
    (follows : ∀ {passed}, Within parent node passed → next passed = parent passed)
    (owes : Owes own total children node diff) :
    Balanced own (raise next fuel node diff total) children := by
  induction fuel generalizing node total with
  | zero => omega
  | succ fuel ih =>
    rw [raise, follows .refl]
    cases isParent : parent node with
    | none => exact forest.balanced_of_root owes isParent
    | some above =>
      have lower := rising.rank_lt member isParent
      refine ih (rising node member above isParent).1 (by omega) (fun within => ?_)
        (forest.owes_parent owes isParent)
      exact follows (.head isParent within)

theorem raise_of_lt (rising : Rising nodes next cost)
    (member : node ∈ nodes) {other : Node} (higher : cost node < cost other) :
    raise next fuel node diff total other = total other := by
  induction fuel generalizing node total with
  | zero => rfl
  | succ fuel ih =>
    have apart : other ≠ node := by
      rintro rfl
      exact lt_irrefl _ higher
    rw [raise]
    cases isNext : next node with
    | none => exact update_of_ne apart _ _
    | some above =>
      obtain ⟨present, lower⟩ := rising node member above isNext
      have kept := @ih (update total node (total node + diff)) above present
        (lower.trans higher)
      exact kept.trans (update_of_ne apart _ _)

/-- **A node left out on the way up.** -/
theorem raise_unbalanced (forest : Forest nodes parent children)
    (rising : Rising nodes parent cost) (risingNext : Rising nodes next cost)
    (skips : ∀ {passed}, Within parent node passed → next passed = parent passed ∨
      ∃ above ∈ parent passed, ∀ beyond ∈ next passed, cost beyond < cost above)
    (member : node ∈ nodes) (owes : Owes own total children node diff)
    (notNothing : diff ≠ 0) {skipping : Node} (passed : Within parent node skipping)
    (leftOut : next skipping ≠ parent skipping) :
    ¬ Balanced own (raise next fuel node diff total) children := by
  -- a node whose own sum is not mended, nor those of its children
  have unmended {debtor : Node} {sums sums' : Node → Weight}
      (owes : Owes own sums children debtor diff) (same : sums' debtor = sums debtor)
      (sameBelow : ∀ child ∈ children debtor, sums' child = sums child) :
      ¬ Balanced own sums' children := by
    intro balanced
    have sameContents :
        contents own sums' children debtor = contents own sums children debtor := by
      refine congrArg List.sum (List.map_congr_left fun child member => ?_)
      rw [weight, weight, sameBelow child member]
    have lacking := owes debtor
    rw [← sameContents, balanced debtor, same, if_pos rfl] at lacking
    exact notNothing (left_eq_add.mp lacking)
  induction fuel generalizing node total with
  | zero => exact unmended owes rfl fun _ _ => rfl
  | succ fuel ih =>
    rw [raise]
    by_cases agrees : next node = parent node
    · rcases passed.cases_head with same | ⟨above, isParent, further⟩
      · rw [same] at agrees
        exact absurd agrees leftOut
      · rw [agrees, Option.mem_def.mp isParent]
        exact ih (fun within => skips (.head isParent within))
          (rising node member above isParent).1 (forest.owes_parent owes isParent) further
    · obtain ⟨above, isParent, lower⟩ := (skips .refl).resolve_left agrees
      have owesAbove := forest.owes_parent owes isParent
      cases isNext : next node with
      | none => exact unmended owesAbove rfl fun _ _ => rfl
      | some beyond =>
        obtain ⟨present, -⟩ := risingNext node member beyond isNext
        have lower := lower beyond isNext
        refine unmended owesAbove (raise_of_lt risingNext present lower) ?_
        intro child isChild
        have isParent := forest.mem_iff.mp isChild
        obtain ⟨-, higher⟩ := rising child (forest.present isParent) above isParent
        exact raise_of_lt risingNext present (lower.trans higher)

open Classical in
/-- **The sum of all that is below.** When the sums are right, each is that of the own
weights of everything below the node. -/
theorem total_eq_sum_inside (forest : Forest nodes parent children)
    (balanced : Balanced own total children) (node : Node) :
    total node = ∑ below ∈ nodes with Inside parent below node, own below := by
  obtain ⟨cost, rising⟩ := forest.rising
  induction height : Rising.height nodes cost node using Nat.strong_induction_on
    generalizing node with
  | _ bound ih =>
    -- a child weighs what it is and what is below it
    have ofChild (child : Node) (isChild : child ∈ (children node).toFinset) :
        weight own total child = ∑ below ∈ nodes with Within parent below child, own below := by
      have isParent := forest.mem_iff.mp (List.mem_toFinset.mp isChild)
      have present := forest.present isParent
      have lower := rising.height_lt present isParent
      have split : {below ∈ nodes | Within parent below child} =
          insert child {below ∈ nodes | Inside parent below child} := by
        ext below
        rw [Finset.mem_insert, Finset.mem_filter, Finset.mem_filter, Within,
          Relation.reflTransGen_iff_eq_or_transGen]
        constructor
        · rintro ⟨member, same | inside⟩
          · exact .inl same.symm
          · exact .inr ⟨member, inside⟩
        · rintro (same | ⟨member, inside⟩)
          · exact ⟨same ▸ present, .inl same.symm⟩
          · exact ⟨member, .inr inside⟩
      rw [split, Finset.sum_insert, weight, ih _ (height ▸ lower) child rfl]
      rw [Finset.mem_filter]
      exact fun both => forest.irrefl child both.2
    have union : {below ∈ nodes | Inside parent below node} =
        (children node).toFinset.biUnion
          fun child => {below ∈ nodes | Within parent below child} := by
      ext below
      rw [Finset.mem_filter, forest.inside_iff, Finset.mem_biUnion]
      constructor
      · rintro ⟨member, child, isChild, within⟩
        exact ⟨child, List.mem_toFinset.mpr isChild, Finset.mem_filter.mpr ⟨member, within⟩⟩
      · rintro ⟨child, isChild, within⟩
        obtain ⟨member, within⟩ := Finset.mem_filter.mp within
        exact ⟨member, child, List.mem_toFinset.mp isChild, within⟩
    have apart : (((children node).toFinset : Set Node)).PairwiseDisjoint
        fun child => {below ∈ nodes | Within parent below child} := by
      intro first isFirst second isSecond different
      refine Finset.disjoint_left.mpr fun below inFirst inSecond => ?_
      exact forest.apart_of_siblings (List.mem_toFinset.mp isFirst)
        (List.mem_toFinset.mp isSecond) different below
        ⟨(Finset.mem_filter.mp inFirst).2, (Finset.mem_filter.mp inSecond).2⟩
    calc total node = contents own total children node := (balanced node).symm
      _ = ∑ child ∈ (children node).toFinset, weight own total child :=
        (List.sum_toFinset _ (forest.nodup node)).symm
      _ = ∑ child ∈ (children node).toFinset,
            ∑ below ∈ nodes with Within parent below child, own below :=
        Finset.sum_congr rfl ofChild
      _ = ∑ below ∈ nodes with Inside parent below node, own below := by
        rw [union, Finset.sum_biUnion apart]

end Forest

end Otserv.Foundation
