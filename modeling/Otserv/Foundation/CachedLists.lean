import Otserv.Foundation.Forests

/-!
# Forests with cached lists

Each node of a forest keeps a list of the marked nodes anywhere below it (`Lists`). When a
node is hung up or taken down and only one list is changed, that of the node it is hung
under or taken from, the lists are right exactly when that one is, and there is no node
above it unless nothing marked is moved (`lists_attach_iff`, `lists_detach_iff`). When one
node takes the place of another and no list is changed, they are right exactly when nothing
marked is moved (`lists_swap_iff`).
-/

namespace Otserv.Foundation

open Function (update update_of_ne update_self)

variable {Node : Type*}

/-- Each node has a list of the marked nodes below it. -/
def Lists (marked : Node → Prop) (parent : Node → Option Node) (lists : Node → List Node) : Prop :=
  ∀ top, (lists top).Nodup ∧ ∀ node, node ∈ lists top ↔ marked node ∧ Inside parent node top

/-- A marked node that is another or somewhere below it. -/
abbrev Marked (marked : Node → Prop) (parent : Node → Option Node) (top node : Node) : Prop :=
  marked node ∧ Within parent node top

theorem not_inside_of_root {parent : Node → Option Node} {hung hook node top : Node}
    (isRoot : parent hung = none) (apart : ¬ Within parent hook hung)
    (below : Within parent node hung) (above : Within parent hook top) :
    ¬ Inside parent node top := by
  intro inside
  rcases Forest.row below inside.to_reflTransGen with up | down
  · rw [within_root isRoot] at up
    exact apart (up ▸ above)
  · exact apart (above.trans down)

variable [DecidableEq Node] {nodes : Finset Node} {parent : Node → Option Node}
  {children lists : Node → List Node} {marked : Node → Prop} {hung hook : Node} {list : List Node}

/-- **A root is hung up** and one list is changed. -/
theorem lists_attach_iff (forest : Forest nodes parent children)
    (right : Lists marked parent lists) (isRoot : parent hung = none)
    (apart : ¬ Within parent hook hung) :
    Lists marked (update parent hung (some hook)) (update lists hook list) ↔
      (list.Nodup ∧ ∀ node, node ∈ list ↔ node ∈ lists hook ∨ Marked marked parent hung node) ∧
        ((∃ node, Marked marked parent hung node) → parent hook = none) := by
  constructor
  · intro after
    refine ⟨?_, ?_⟩
    · obtain ⟨nodup, mem⟩ := after hook
      rw [update_self] at nodup mem
      refine ⟨nodup, fun node => ?_⟩
      have itself : Within parent hook hook := .refl
      rw [mem, inside_attach isRoot, (right hook).2, and_or_left, and_iff_left itself]
    · rintro ⟨node, isMarked, below⟩
      by_contra hasParent
      obtain ⟨above, isParent⟩ := Option.ne_none_iff_exists'.mp hasParent
      have up : Within parent hook above := .single isParent
      have different : above ≠ hook := by
        rintro rfl
        exact forest.not_within_of_parent isParent .refl
      have member := ((after above).2 node).mpr
        ⟨isMarked, (inside_attach isRoot node above).mpr (.inr ⟨below, up⟩)⟩
      rw [update_of_ne different, (right above).2] at member
      exact not_inside_of_root isRoot apart below up member.2
  · rintro ⟨⟨nodup, mem⟩, alone⟩ top
    by_cases here : top = hook
    · subst here
      rw [update_self]
      have itself : Within parent top top := .refl
      refine ⟨nodup, fun node => ?_⟩
      rw [mem, inside_attach isRoot, (right top).2, and_or_left, and_iff_left itself]
    · rw [update_of_ne here]
      refine ⟨(right top).1, fun node => ?_⟩
      rw [inside_attach isRoot, (right top).2]
      refine and_congr_right fun isMarked => (or_iff_left ?_).symm
      rintro ⟨below, above⟩
      rw [within_root (alone ⟨node, isMarked, below⟩)] at above
      exact here above

/-- **A node is taken down** and one list is changed. -/
theorem lists_detach_iff (forest : Forest nodes parent children)
    (right : Lists marked parent lists) (isHook : parent hung = some hook) :
    Lists marked (update parent hung none) (update lists hook list) ↔
      (list.Nodup ∧
          ∀ node, node ∈ list ↔ node ∈ lists hook ∧ ¬ Marked marked parent hung node) ∧
        ((∃ node, Marked marked parent hung node) → parent hook = none) := by
  have acyclic := forest.not_within_of_parent isHook
  -- what the list of the hook is to hold
  have ofHook (node : Node) :
      marked node ∧ Inside (update parent hung none) node hook ↔
        node ∈ lists hook ∧ ¬ Marked marked parent hung node := by
    have itself : Within parent hook hook := .refl
    rw [inside_detach isHook acyclic, (right hook).2, and_iff_left itself, Marked]
    tauto
  constructor
  · intro after
    refine ⟨?_, ?_⟩
    · obtain ⟨nodup, mem⟩ := after hook
      rw [update_self] at nodup mem
      exact ⟨nodup, fun node => (mem node).trans (ofHook node)⟩
    · rintro ⟨node, isMarked, below⟩
      by_contra hasParent
      obtain ⟨above, isParent⟩ := Option.ne_none_iff_exists'.mp hasParent
      have up : Within parent hook above := .single isParent
      have different : above ≠ hook := by
        rintro rfl
        exact forest.not_within_of_parent isParent .refl
      have inside : Inside parent node above := .tail' (below.tail isHook) isParent
      have member := ((right above).2 node).mpr ⟨isMarked, inside⟩
      have stays := ((after above).2 node).mp (by rwa [update_of_ne different])
      exact ((inside_detach isHook acyclic node above).mp stays.2).2 ⟨below, up⟩
  · rintro ⟨⟨nodup, mem⟩, alone⟩ top
    by_cases here : top = hook
    · subst here
      rw [update_self]
      exact ⟨nodup, fun node => (mem node).trans (ofHook node).symm⟩
    · rw [update_of_ne here]
      refine ⟨(right top).1, fun node => ?_⟩
      rw [inside_detach isHook acyclic, (right top).2]
      refine and_congr_right fun isMarked => (and_iff_left ?_).symm
      rintro ⟨below, above⟩
      rw [within_root (alone ⟨node, isMarked, below⟩)] at above
      exact here above

/-- **A root takes the place of a node** and no list is changed. -/
theorem lists_swap_iff (forest : Forest nodes parent children) (right : Lists marked parent lists)
    {replaced : Node} (isHook : parent replaced = some hook) (isRoot : parent hung = none)
    (apart : ¬ Within parent hook hung) :
    Lists marked (update (update parent hung (some hook)) replaced none) lists ↔
      (∀ node, ¬ Marked marked parent hung node) ∧
        ∀ node, ¬ Marked marked parent replaced node := by
  have acyclic := forest.not_within_of_parent isHook
  have different : hung ≠ replaced := by
    rintro rfl
    rw [isRoot] at isHook
    cases isHook
  have stillRoot : update parent replaced none hung = none := by
    rwa [update_of_ne different]
  -- what is below the root is not below the node
  have separate {node : Node} (below : Within parent node hung) : ¬ Within parent node replaced := by
    intro within
    exact not_inside_of_root isRoot apart below .refl (.tail' within isHook)
  have belowHung (node : Node) :
      Within (update parent replaced none) node hung ↔ Within parent node hung := by
    constructor
    · exact within_of_detach
    · intro within
      rwa [within_update (separate within)]
  have inside (node top : Node) : Inside (update (update parent hung (some hook))
      replaced none) node top ↔
      Inside parent node top ∧ ¬ (Within parent node replaced ∧ Within parent hook top) ∨
        Within parent node hung ∧ Within parent hook top := by
    rw [Function.update_comm different, inside_attach stillRoot, inside_detach isHook acyclic,
      belowHung, within_update acyclic]
  constructor
  · intro after
    refine ⟨?_, ?_⟩
    · rintro node ⟨isMarked, below⟩
      have member := ((after hook).2 node).mpr ⟨isMarked, (inside node hook).mpr (.inr ⟨below, .refl⟩)⟩
      rw [(right hook).2] at member
      exact not_inside_of_root isRoot apart below .refl member.2
    · rintro node ⟨isMarked, below⟩
      have member := ((right hook).2 node).mpr ⟨isMarked, .tail' below isHook⟩
      rw [(after hook).2, inside] at member
      rcases member.2 with ⟨-, stays⟩ | ⟨other, -⟩
      · exact stays ⟨below, .refl⟩
      · exact separate other below
  · rintro ⟨noneBelow, noneReplaced⟩ top
    refine ⟨(right top).1, fun node => ?_⟩
    rw [(right top).2, inside]
    refine and_congr_right fun isMarked => ?_
    have notBelow : ¬ Within parent node hung := fun below => noneBelow node ⟨isMarked, below⟩
    have notReplaced : ¬ Within parent node replaced := fun below =>
      noneReplaced node ⟨isMarked, below⟩
    tauto

end Otserv.Foundation
