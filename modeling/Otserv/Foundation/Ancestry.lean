import Mathlib.Data.Finset.Card

/-!
# Parents of lower cost

The nodes of a search each have a cost, and may have a parent among the nodes, whose cost
is lower (`Rising`). That is kept when a node with a parent is added (`Rising.insert`) and
when a node gets another parent at a lower cost (`Rising.reparent`), whatever children it
has. Then no node is its own ancestor (`Rising.acyclic`), and the number of nodes of lower
cost, which is below the number of all, falls from each node to its parent
(`Rising.rank_lt`).

When nothing but parents counts, a whole tree may be hung under a node that is not in it:
some costs rise along the parents then as well (`Rising.attach`). What is above what
afterwards is told by `inside_attach` and `inside_detach`.
-/

namespace Otserv.Foundation

open Function (update update_of_ne update_self)

variable {Node : Type*}

/-- Each parent is a node, of lower cost. -/
def Rising (nodes : Finset Node) (parent : Node → Option Node) (cost : Node → Nat) : Prop :=
  ∀ node ∈ nodes, ∀ above ∈ parent node, above ∈ nodes ∧ cost above < cost node

namespace Rising

variable {nodes : Finset Node} {parent : Node → Option Node} {cost : Node → Nat}

section update

variable [DecidableEq Node]

theorem insert (rising : Rising nodes parent cost) {new above : Node} (absent : new ∉ nodes)
    (present : above ∈ nodes) {newCost : Nat} (higher : cost above < newCost) :
    Rising (Insert.insert new nodes) (update parent new (some above))
      (update cost new newCost) := by
  intro node member other isParent
  have old {node : Node} (present : node ∈ nodes) : node ≠ new := fun same =>
    absent (same ▸ present)
  rcases Finset.mem_insert.mp member with rfl | member
  · rw [update_self, Option.mem_some_iff] at isParent
    subst isParent
    rw [update_self, update_of_ne (old present)]
    exact ⟨Finset.mem_insert_of_mem present, higher⟩
  · rw [update_of_ne (old member)] at isParent
    obtain ⟨there, lower⟩ := rising node member other isParent
    rw [update_of_ne (old member), update_of_ne (old there)]
    exact ⟨Finset.mem_insert_of_mem there, lower⟩

theorem reparent (rising : Rising nodes parent cost) {node above : Node} (present : above ∈ nodes)
    {newCost : Nat} (higher : cost above < newCost) (lower : newCost < cost node) :
    Rising nodes (update parent node (some above))
      (update cost node newCost) := by
  intro child member other isParent
  -- the cost of a parent does not rise
  have falls (other : Node) : update cost node newCost other ≤ cost other := by
    by_cases here : other = node
    · rw [here, update_self]
      exact lower.le
    · rw [update_of_ne here]
  by_cases here : child = node
  · subst here
    rw [update_self, Option.mem_some_iff] at isParent
    subst isParent
    rw [update_self]
    exact ⟨present, (falls above).trans_lt higher⟩
  · rw [update_of_ne here] at isParent
    obtain ⟨there, less⟩ := rising child member other isParent
    rw [update_of_ne here]
    exact ⟨there, (falls other).trans_lt less⟩

end update

theorem mono (rising : Rising nodes parent cost) {other : Node → Option Node}
    (fewer : ∀ {node above}, above ∈ other node → above ∈ parent node) :
    Rising nodes other cost := fun node member above isParent =>
  rising node member above (fewer isParent)

theorem ancestor (rising : Rising nodes parent cost) {node above : Node} (member : node ∈ nodes)
    (ancestor : Relation.TransGen (fun child above => above ∈ parent child) node above) :
    above ∈ nodes ∧ cost above < cost node := by
  induction ancestor with
  | single isParent => exact rising node member _ isParent
  | tail _ isParent ih =>
    obtain ⟨there, lower⟩ := rising _ ih.1 _ isParent
    exact ⟨there, lower.trans ih.2⟩

theorem acyclic (rising : Rising nodes parent cost) {node : Node} (member : node ∈ nodes) :
    ¬ Relation.TransGen (fun child above => above ∈ parent child) node node := fun cycle =>
  lt_irrefl _ (rising.ancestor member cycle).2

/-- The number of nodes of lower cost. -/
def rank (nodes : Finset Node) (cost : Node → Nat) (node : Node) : Nat :=
  (nodes.filter fun other => cost other < cost node).card

theorem rank_lt_card {node : Node} (member : node ∈ nodes) : rank nodes cost node < nodes.card := by
  apply Finset.card_lt_card
  rw [Finset.filter_ssubset]
  exact ⟨node, member, lt_irrefl _⟩

theorem rank_lt (rising : Rising nodes parent cost) {node above : Node} (member : node ∈ nodes)
    (isParent : above ∈ parent node) : rank nodes cost above < rank nodes cost node := by
  obtain ⟨there, lower⟩ := rising node member above isParent
  apply Finset.card_lt_card
  rw [Finset.ssubset_iff_of_subset]
  · exact ⟨above, Finset.mem_filter.mpr ⟨there, lower⟩,
      fun below => lt_irrefl _ (Finset.mem_filter.mp below).2⟩
  · intro other below
    obtain ⟨present, less⟩ := Finset.mem_filter.mp below
    exact Finset.mem_filter.mpr ⟨present, less.trans lower⟩

/-- The number of nodes of higher cost. -/
def height (nodes : Finset Node) (cost : Node → Nat) (node : Node) : Nat :=
  (nodes.filter fun other => cost node < cost other).card

theorem height_lt (rising : Rising nodes parent cost) {node above : Node} (member : node ∈ nodes)
    (isParent : above ∈ parent node) : height nodes cost node < height nodes cost above := by
  obtain ⟨-, lower⟩ := rising node member above isParent
  apply Finset.card_lt_card
  rw [Finset.ssubset_iff_of_subset]
  · exact ⟨node, Finset.mem_filter.mpr ⟨member, lower⟩,
      fun higher => lt_irrefl _ (Finset.mem_filter.mp higher).2⟩
  · intro other higher
    obtain ⟨present, less⟩ := Finset.mem_filter.mp higher
    exact Finset.mem_filter.mpr ⟨present, lower.trans less⟩

end Rising

/-! ## Trees that are hung up and taken down -/

/-- The second node is the parent of the first. -/
abbrev Above (parent : Node → Option Node) (node above : Node) : Prop := above ∈ parent node

/-- A node is another, or somewhere below it. -/
abbrev Within (parent : Node → Option Node) : Node → Node → Prop :=
  Relation.ReflTransGen (Above parent)

/-- A node is somewhere below another. -/
abbrev Inside (parent : Node → Option Node) : Node → Node → Prop :=
  Relation.TransGen (Above parent)

variable [DecidableEq Node] {nodes : Finset Node} {parent : Node → Option Node}
  {cost : Node → Nat}

omit [DecidableEq Node] in
theorem within_root {node top : Node} (isRoot : parent node = none) :
    Within parent node top ↔ top = node := by
  constructor
  · intro within
    rcases within.cases_head with same | ⟨above, isParent, -⟩
    · exact same.symm
    · rw [Above, isRoot] at isParent
      cases isParent
  · rintro rfl
    exact .refl

omit [DecidableEq Node] in
/-- What is above a node depends on the parents met on the way up. -/
theorem within_congr {other : Node → Option Node} {node : Node}
    (same : ∀ {passed}, Within parent node passed → other passed = parent passed) (top : Node) :
    Within other node top ↔ Within parent node top := by
  constructor
  · intro reaches
    induction reaches with
    | refl => exact .refl
    | tail _ isParent ih =>
      rw [Above, same ih] at isParent
      exact ih.tail isParent
  · intro reaches
    induction reaches with
    | refl => exact .refl
    | tail passed isParent ih =>
      refine ih.tail ?_
      rwa [Above, same passed]

theorem update_of_within {hung node passed : Node} (apart : ¬ Within parent node hung)
    (above : Option Node) (reaches : Within parent node passed) :
    update parent hung above passed = parent passed := by
  refine update_of_ne ?_ _ _
  rintro rfl
  exact apart reaches

theorem within_update {hung node : Node} (apart : ¬ Within parent node hung)
    (above : Option Node) (top : Node) :
    Within (update parent hung above) node top ↔ Within parent node top :=
  within_congr (update_of_within apart above) top

theorem within_update_self {hung node : Node} (above : Option Node) :
    Within (update parent hung above) node hung ↔ Within parent node hung := by
  constructor
  · intro within
    induction within using Relation.ReflTransGen.head_induction_on with
    | refl => exact .refl
    | @head below next isParent _ ih =>
      by_cases here : below = hung
      · rw [here]
      · exact .head (by rwa [Above, update_of_ne here] at isParent) ih
  · intro within
    induction within using Relation.ReflTransGen.head_induction_on with
    | refl => exact .refl
    | @head below next isParent _ ih =>
      by_cases here : below = hung
      · rw [here]
      · exact .head (by rwa [Above, update_of_ne here]) ih

theorem inside_attach {hung hook : Node} (isRoot : parent hung = none) (node top : Node) :
    Inside (update parent hung (some hook)) node top ↔
      Inside parent node top ∨ Within parent node hung ∧ Within parent hook top := by
  have keeps {node above : Node} (isParent : Above parent node above) :
      Above (update parent hung (some hook)) node above := by
    have different : node ≠ hung := by
      rintro rfl
      rw [Above, isRoot] at isParent
      cases isParent
    rwa [Above, update_of_ne different]
  have hooked : Above (update parent hung (some hook)) hung hook := by
    rw [Above, update_self]
    rfl
  constructor
  · intro inside
    induction inside using Relation.TransGen.head_induction_on with
    | @single node isParent =>
      by_cases here : node = hung
      · subst here
        rw [Above, update_self, Option.mem_some_iff] at isParent
        subst isParent
        exact .inr ⟨.refl, .refl⟩
      · rw [Above, update_of_ne here] at isParent
        exact .inl (.single isParent)
    | @head node middle isParent _ ih =>
      by_cases here : node = hung
      · subst here
        rw [Above, update_self, Option.mem_some_iff] at isParent
        subst isParent
        rcases ih with inside | ⟨-, within⟩
        · exact .inr ⟨.refl, inside.to_reflTransGen⟩
        · exact .inr ⟨.refl, within⟩
      · rw [Above, update_of_ne here] at isParent
        rcases ih with inside | ⟨below, within⟩
        · exact .inl (.head isParent inside)
        · exact .inr ⟨.head isParent below, within⟩
  · rintro (inside | ⟨below, within⟩)
    · exact inside.lift id fun _ _ => keeps
    · have toHook := Relation.TransGen.tail' (below.lift id fun _ _ => keeps) hooked
      exact toHook.trans_left (within.lift id fun _ _ => keeps)

/-- What is above a node when another has been taken down was above it before. -/
theorem within_of_detach {hung node top : Node}
    (within : Within (update parent hung none) node top) : Within parent node top := by
  refine within.lift id fun below above isParent => ?_
  by_cases here : below = hung
  · rw [Above, here, update_self] at isParent
    cases isParent
  · rwa [Above, update_of_ne here] at isParent

theorem inside_detach {hung hook : Node} (isHook : parent hung = some hook)
    (acyclic : ¬ Within parent hook hung) (node top : Node) :
    Inside (update parent hung none) node top ↔
      Inside parent node top ∧ ¬ (Within parent node hung ∧ Within parent hook top) := by
  have isRoot : update parent hung none hung = none := update_self _ _ _
  have back : update (update parent hung none) hung (some hook) = parent := by
    rw [Function.update_idem, ← isHook, Function.update_eq_self]
  have attached := @inside_attach _ _ _ _ hook isRoot node top
  rw [back, within_update acyclic] at attached
  have toHung {node : Node} : Within (update parent hung none) node hung ↔
      Within parent node hung := within_update_self none
  rw [toHung] at attached
  constructor
  · intro inside
    refine ⟨attached.mpr (.inl inside), ?_⟩
    rintro ⟨below, beyond⟩
    -- what is above the node is in a row, and above its root there is nothing
    have unique : Relator.RightUnique (Above (update parent hung none)) :=
      fun _ _ _ => Option.mem_unique
    have beyond := (within_update acyclic none top).mpr beyond
    rcases Relation.ReflTransGen.total_of_right_unique unique (toHung.mpr below)
      inside.to_reflTransGen with up | down
    · rcases up.cases_head with rfl | ⟨next, isNext, -⟩
      · exact acyclic (toHung.mp beyond)
      · rw [Above, isRoot] at isNext
        cases isNext
    · exact acyclic (toHung.mp (beyond.trans down))
  · rintro ⟨inside, apart⟩
    rcases attached.mp inside with inside | both
    · exact inside
    · exact absurd both apart

namespace Rising

/-- A node may be taken down. -/
theorem detach (rising : Rising nodes parent cost) (hung : Node) :
    Rising nodes (update parent hung none) cost := by
  apply rising.mono
  intro node above isParent
  by_cases here : node = hung
  · rw [here, update_self] at isParent
    cases isParent
  · rwa [update_of_ne here] at isParent

theorem of_attach {hung : Node} {hook : Option Node}
    (rising : Rising nodes (update parent hung hook) cost) (isRoot : parent hung = none) :
    Rising nodes parent cost := by
  apply rising.mono
  intro node above isParent
  have here : node ≠ hung := by
    rintro rfl
    rw [isRoot] at isParent
    cases isParent
  rwa [update_of_ne here]

theorem attach (rising : Rising nodes parent cost) {hung hook : Node} (present : hook ∈ nodes)
    (apart : ¬ Within parent hook hung) :
    ∃ cost', Rising nodes (update parent hung (some hook)) cost' := by
  classical
  let cost' (node : Node) : Nat :=
    if Within parent node hung then cost node + cost hook + 1 else cost node
  have raised {node : Node} (below : Within parent node hung) :
      cost' node = cost node + cost hook + 1 := if_pos below
  have kept {node : Node} (notBelow : ¬ Within parent node hung) : cost' node = cost node :=
    if_neg notBelow
  refine ⟨cost', ?_⟩
  intro node member above isParent
  by_cases here : node = hung
  · subst here
    rw [update_self, Option.mem_some_iff] at isParent
    subst isParent
    have itself : Within parent node node := .refl
    rw [kept apart, raised itself]
    exact ⟨present, by omega⟩
  · rw [update_of_ne here] at isParent
    obtain ⟨there, lower⟩ := rising node member above isParent
    refine ⟨there, ?_⟩
    by_cases below : Within parent above hung
    · rw [raised below, raised (.head isParent below)]
      omega
    · have notBelow : ¬ Within parent node hung := by
        intro within
        rcases within.cases_head with same | ⟨next, isNext, further⟩
        · exact here same
        · rw [Option.mem_unique isNext isParent] at further
          exact below further
      rwa [kept below, kept notBelow]

end Rising

end Otserv.Foundation
