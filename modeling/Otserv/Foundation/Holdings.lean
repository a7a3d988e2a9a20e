import Otserv.Foundation.CachedLists

/-!
# What is held under some of the roots

Some roots of a forest are worn, and a node is held when it is one of them or somewhere below
one (`Held`). Hanging up a root adds all that is below it to what is held, if the node it is hung
under is held, and taking a node down takes all that is below it away.

A list tells of the nodes of a kind when it has each of them once (`Tells`). A list that is made
longer or shorter together with the kind tells of it exactly when what is put in or taken out
does.
-/

namespace Otserv.Foundation

open Function (update update_of_ne)

variable {Node : Type*} {worn : Node → Prop} {parent : Node → Option Node}

/-- A node is a worn one, or somewhere below one. -/
def Held (worn : Node → Prop) (parent : Node → Option Node) (node : Node) : Prop :=
  ∃ root, worn root ∧ Within parent node root

namespace Held

theorem congr {other : Node → Prop} (same : ∀ root, worn root ↔ other root) (node : Node) :
    Held worn parent node ↔ Held other parent node :=
  exists_congr fun root => and_congr_left fun _ => same root

theorem insert_iff (new node : Node) :
    Held (fun root => worn root ∨ root = new) parent node ↔
      Held worn parent node ∨ Within parent node new := by
  constructor
  · rintro ⟨root, isWorn | rfl, within⟩
    · exact .inl ⟨root, isWorn, within⟩
    · exact .inr within
  · rintro (⟨root, isWorn, within⟩ | within)
    · exact ⟨root, .inl isWorn, within⟩
    · exact ⟨new, .inr rfl, within⟩

section Roots

variable (roots : ∀ root, worn root → parent root = none)
include roots

theorem iff_of_within {node above : Node} (below : Within parent node above) :
    Held worn parent node ↔ Held worn parent above := by
  constructor
  · rintro ⟨root, isWorn, within⟩
    rcases Forest.row within below with up | up
    · rw [within_root (roots root isWorn)] at up
      exact ⟨root, isWorn, up ▸ .refl⟩
    · exact ⟨root, isWorn, up⟩
  · rintro ⟨root, isWorn, within⟩
    exact ⟨root, isWorn, below.trans within⟩

theorem root_unique {node first second : Node} (isFirst : worn first) (isSecond : worn second)
    (toFirst : Within parent node first) (toSecond : Within parent node second) :
    first = second := by
  rcases Forest.row toFirst toSecond with up | up
  · exact ((within_root (roots first isFirst)).mp up).symm
  · exact (within_root (roots second isSecond)).mp up

theorem erase_iff {gone : Node} (wasWorn : worn gone) (node : Node) :
    Held (fun root => worn root ∧ root ≠ gone) parent node ↔
      Held worn parent node ∧ ¬ Within parent node gone := by
  constructor
  · rintro ⟨root, ⟨isWorn, different⟩, within⟩
    exact ⟨⟨root, isWorn, within⟩, fun toGone =>
      different (root_unique roots isWorn wasWorn within toGone)⟩
  · rintro ⟨⟨root, isWorn, within⟩, apart⟩
    exact ⟨root, ⟨isWorn, fun same => apart (same ▸ within)⟩, within⟩

theorem not_of_root {root node : Node} (isRoot : parent root = none) (notWorn : ¬ worn root)
    (below : Within parent node root) : ¬ Held worn parent node := by
  rw [iff_of_within roots below]
  rintro ⟨top, isWorn, within⟩
  exact notWorn ((within_root isRoot).mp within ▸ isWorn)

end Roots

variable [DecidableEq Node]

theorem attach_iff {hung hook : Node} (isRoot : parent hung = none) (node : Node) :
    Held worn (update parent hung (some hook)) node ↔
      Held worn parent node ∨ Within parent node hung ∧ Held worn parent hook := by
  have within (root : Node) : Within (update parent hung (some hook)) node root ↔
      Within parent node root ∨ Within parent node hung ∧ Within parent hook root := by
    have before : Within parent node root ↔ root = node ∨ Inside parent node root :=
      Relation.reflTransGen_iff_eq_or_transGen
    rw [Within, Relation.reflTransGen_iff_eq_or_transGen, before, or_assoc]
    exact or_congr_right (inside_attach isRoot node root)
  simp only [Held, within]
  constructor
  · rintro ⟨root, isWorn, direct | ⟨below, up⟩⟩
    · exact .inl ⟨root, isWorn, direct⟩
    · exact .inr ⟨below, root, isWorn, up⟩
  · rintro (⟨root, isWorn, direct⟩ | ⟨below, root, isWorn, up⟩)
    · exact ⟨root, isWorn, .inl direct⟩
    · exact ⟨root, isWorn, .inr ⟨below, up⟩⟩

theorem detach_iff (roots : ∀ root, worn root → parent root = none) {hung hook : Node}
    (isHook : parent hung = some hook) (node : Node) :
    Held worn (update parent hung none) node ↔
      Held worn parent node ∧ ¬ Within parent node hung := by
  have isRoot : update parent hung none hung = none := Function.update_self _ _ _
  have notWorn : ¬ worn hung := by
    intro isWorn
    rw [roots hung isWorn] at isHook
    cases isHook
  have stillRoots : ∀ root, worn root → update parent hung none root = none := by
    intro root isWorn
    have different : root ≠ hung := by
      rintro rfl
      exact notWorn isWorn
    rw [update_of_ne different, roots root isWorn]
  constructor
  · intro held
    refine ⟨held.imp fun root => .imp_right within_of_detach, fun below => ?_⟩
    exact not_of_root stillRoots isRoot notWorn ((within_update_self none).mpr below) held
  · rintro ⟨⟨root, isWorn, within⟩, apart⟩
    exact ⟨root, isWorn, (within_update apart none root).mpr within⟩

theorem swap_iff (roots : ∀ root, worn root → parent root = none) {hung hook replaced : Node}
    (isHook : parent replaced = some hook) (acyclic : ¬ Within parent hook replaced)
    (isRoot : parent hung = none) (apart : ¬ Within parent hook hung) (node : Node) :
    Held worn (update (update parent hung (some hook)) replaced none) node ↔
      Held worn parent node ∧ ¬ Within parent node replaced ∨
        Within parent node hung ∧ Held worn parent hook := by
  have different : hung ≠ replaced := by
    rintro rfl
    rw [isRoot] at isHook
    cases isHook
  have stillRoot : update parent replaced none hung = none := by
    rwa [update_of_ne different]
  have belowHung : Within (update parent replaced none) node hung ↔
      Within parent node hung := by
    constructor
    · exact within_of_detach
    · intro below
      have separate : ¬ Within parent node replaced := fun within =>
        not_inside_of_root isRoot apart below .refl (.tail' within isHook)
      exact (within_update separate none hung).mpr below
  rw [Function.update_comm different, attach_iff stillRoot, detach_iff roots isHook,
    detach_iff roots isHook, belowHung, and_iff_left acyclic]

end Held

/-! ## Lists that tell of a kind -/

/-- A list has the nodes of a kind, each once. -/
def Tells (list : List Node) (kind : Node → Prop) : Prop :=
  list.Nodup ∧ ∀ node, node ∈ list ↔ kind node

namespace Tells

variable {list more gone : List Node} {kind new left : Node → Prop}

theorem congr {other : Node → Prop} (same : ∀ node, kind node ↔ other node) :
    Tells list kind ↔ Tells list other :=
  and_congr_right fun _ => forall_congr' fun node => by rw [same node]

theorem nil_iff : Tells [] kind ↔ ∀ node, ¬ kind node := by
  constructor
  · rintro ⟨-, mem⟩ node isKind
    exact List.not_mem_nil ((mem node).mpr isKind)
  · intro none
    exact ⟨List.nodup_nil, fun node => iff_of_false List.not_mem_nil (none node)⟩

theorem append_iff (tells : Tells list kind) (apart : ∀ node, new node → ¬ kind node) :
    Tells (list ++ more) (fun node => kind node ∨ new node) ↔ Tells more new := by
  constructor
  · rintro ⟨nodup, mem⟩
    obtain ⟨-, nodupMore, disjoint⟩ := List.nodup_append.mp nodup
    refine ⟨nodupMore, fun node => ⟨fun listed => ?_, fun isNew => ?_⟩⟩
    · rcases (mem node).mp (list.mem_append_right listed) with isKind | isNew
      · exact absurd rfl (disjoint node ((tells.2 node).mpr isKind) node listed)
      · exact isNew
    · rcases List.mem_append.mp ((mem node).mpr (.inr isNew)) with listed | listed
      · exact absurd ((tells.2 node).mp listed) (apart node isNew)
      · exact listed
  · intro tellsMore
    refine ⟨List.nodup_append.mpr ⟨tells.1, tellsMore.1, ?_⟩, fun node => ?_⟩
    · rintro node listed other listedToo rfl
      exact apart node ((tellsMore.2 node).mp listedToo) ((tells.2 node).mp listed)
    · rw [List.mem_append, tells.2, tellsMore.2]

/-- A shorter list, of fewer nodes. -/
theorem diff_iff [DecidableEq Node] (tells : Tells list kind) :
    Tells (list.diff gone) (fun node => kind node ∧ ¬ left node) ↔
      ∀ node, kind node → (node ∈ gone ↔ left node) := by
  constructor
  · rintro ⟨-, mem⟩ node isKind
    have stays : node ∈ list.diff gone ↔ kind node ∧ ¬ left node := mem node
    rw [tells.1.mem_sdiff_iff, tells.2, and_iff_right isKind, and_iff_right isKind] at stays
    exact not_iff_not.mp stays
  · intro same
    refine ⟨tells.1.diff, fun node => ?_⟩
    rw [tells.1.mem_sdiff_iff, tells.2]
    exact and_congr_right fun isKind => not_congr (same node isKind)

/-- The same list, of nodes some of which have taken the place of others. -/
theorem swap_iff (tells : Tells list kind) (within : ∀ node, left node → kind node)
    (apart : ∀ node, new node → ¬ kind node) :
    Tells list (fun node => kind node ∧ ¬ left node ∨ new node) ↔
      (∀ node, ¬ new node) ∧ ∀ node, ¬ left node := by
  constructor
  · rintro ⟨-, mem⟩
    have noneNew (node : Node) : ¬ new node := fun isNew =>
      apart node isNew ((tells.2 node).mp ((mem node).mpr (.inr isNew)))
    refine ⟨noneNew, fun node hasLeft => ?_⟩
    rcases (mem node).mp ((tells.2 node).mpr (within node hasLeft)) with ⟨-, stays⟩ | isNew
    · exact stays hasLeft
    · exact noneNew node isNew
  · rintro ⟨noneNew, noneLeft⟩
    refine (congr fun node => ?_).mp tells
    rw [and_iff_left (noneLeft node), or_iff_left (noneNew node)]

end Tells

end Otserv.Foundation
