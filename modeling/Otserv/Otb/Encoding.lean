import Otserv.Otb.Loader
import Otserv.Foundation.Brackets

/-!
# Writing and reading OTB trees

A tree of nodes, with types and properties of any bytes, is written as the format has
it (`Tree.encode`). The loop of the parser goes from the first byte of a written node to
the byte after it, and leaves one child more (`parse_encode`), by induction on the tree;
so the tree is read back from a file that holds it (`loads_iff`), unless the file is of
the least size: the constructor wants more bytes than a root without properties and
children has.

Whatever is accepted is balanced (`parseTree_balanced`): the `START` and `END` that are
not escaped and not the type of a node are one bracket and its content.
-/

namespace Otserv.Otb

open Otserv.Foundation DyckStep

/-! ## The format -/

inductive Tree where
  | mk (type : UInt8) (props : List UInt8) (children : List Tree)

/-- The bytes of the properties, each that stands for something else escaped. -/
def escapeProps : List UInt8 → List UInt8
  | [] => []
  | byte :: rest =>
    if byte = escape ∨ byte = start ∨ byte = endNode then escape :: byte :: escapeProps rest
    else byte :: escapeProps rest

mutual
def Tree.encode : Tree → List UInt8
  | .mk type props children =>
    start :: type :: (escapeProps props ++ (encodeAll children ++ [endNode]))

def encodeAll : List Tree → List UInt8
  | [] => []
  | tree :: trees => tree.encode ++ encodeAll trees
end

/-- The node was read from what the tree is written as: the types, the properties that
`getProps` returns, and the children one by one. -/
inductive Reads (loader : Loader) : Tree → Node → Prop where
  | mk {type : UInt8} {props : List UInt8} {trees : List Tree} {node : Node}
      (sameType : node.type = type)
      (sameProps : loader.getProps node = if props = [] then none else some props)
      (children : List.Forall₂ (Reads loader) trees node.children) :
      Reads loader (.mk type props trees) node

/-! ## Properties -/

theorem escapeProps_eq_nil {props : List UInt8} : escapeProps props = [] ↔ props = [] := by
  cases props with
  | nil => simp [escapeProps]
  | cons byte rest =>
    rw [escapeProps]
    split_ifs <;> simp

/-- Taking the escapes out gives the properties back. -/
theorem copyUnescaped_escapeProps (props : List UInt8) :
    copyUnescaped false (escapeProps props) = props := by
  induction props with
  | nil => rfl
  | cons byte rest ih =>
    rw [escapeProps]
    split_ifs with special
    · simp [copyUnescaped, ih]
    · have plain : (byte == escape) = false := by
        simpa using fun same => special (.inl same)
      simp [copyUnescaped, plain, ih]

/-! ## The parser over what is written -/

section Parsing

variable (pos : Nat) (state : ParseState)

theorem parse_other {byte : UInt8} (plain : ¬ (byte = escape ∨ byte = start ∨ byte = endNode))
    (rest : List UInt8) : parse (byte :: rest) pos state = parse rest (pos + 1) state := by
  obtain ⟨notEscape, notStart, notEnd⟩ := by simpa only [not_or] using plain
  rw [parse.eq_def]
  simp only [notEscape, notStart, notEnd, if_false]

theorem parse_escaped (byte : UInt8) (rest : List UInt8) :
    parse (escape :: byte :: rest) pos state = parse rest (pos + 2) state := by
  rw [parse.eq_def]
  simp only [(by decide : escape ≠ start), (by decide : escape ≠ endNode), if_false, if_true]

variable (currentNode : OpenNode) (stack : List OpenNode)

theorem parse_start (root : Option Node) (type : UInt8) (rest : List UInt8) :
    parse (start :: type :: rest) pos { stack := currentNode :: stack, root := root } =
      parse rest (pos + 2)
        { stack := { type := type, propsBegin := pos + 2 } :: currentNode.endProps pos :: stack
          root := root } := by
  rw [parse.eq_def]
  simp only [if_true]

theorem parse_end (root : Option Node) (rest : List UInt8) :
    parse (endNode :: rest) pos { stack := currentNode :: stack, root := root } =
      parse rest (pos + 1) (.pop stack root (currentNode.endProps pos).close) := by
  rw [parse.eq_def]
  simp only [(by decide : endNode ≠ start), if_false, if_true]

/-- The parser passes over properties. -/
theorem parse_escapeProps (props rest : List UInt8) :
    parse (escapeProps props ++ rest) pos state =
      parse rest (pos + (escapeProps props).length) state := by
  induction props generalizing pos with
  | nil => rfl
  | cons byte props ih =>
    rw [escapeProps]
    split_ifs with special
    · rw [List.cons_append, List.cons_append, parse_escaped, ih, List.length_cons,
        List.length_cons]
      congr 1
      omega
    · rw [List.cons_append, parse_other pos state special, ih, List.length_cons]
      congr 1
      omega

end Parsing

/-- An open node after children were read, the first from a position on. -/
def OpenNode.takes (node : OpenNode) (pos : Nat) (children : List Node) : OpenNode :=
  if children.isEmpty then node else (node.endProps pos).adopt children

theorem OpenNode.takes_cons (node : OpenNode) (pos later : Nat) (child : Node)
    (children : List Node) :
    ((node.endProps pos).adopt [child]).takes later children =
      node.takes pos (child :: children) := by
  cases children with
  | nil => rfl
  | cons next children => simp [takes, adopt, endProps]

variable (type : UInt8)

theorem OpenNode.close_takes (propsBegin propsEnd last : Nat)
    (children : List Node) (childless : children = [] → last = propsEnd) :
    ((({ type := type, propsBegin := propsBegin } : OpenNode).takes propsEnd children).endProps
        last).close = .mk children propsBegin propsEnd type := by
  cases children with
  | nil => simp [takes, endProps, close, childless rfl]
  | cons child children => simp [takes, endProps, adopt, close]

theorem getProps_written {loader : Loader} {before props after : List UInt8}
    (file : loader.fileContents = before ++ (escapeProps props ++ after)) (children : List Node)
    (type : UInt8) :
    loader.getProps (.mk children before.length (before.length + (escapeProps props).length)
      type) = if props = [] then none else some props := by
  rw [Loader.getProps]
  simp only [Node.propsBegin, Node.propsEnd, Nat.add_sub_cancel_left, List.length_eq_zero_iff,
    escapeProps_eq_nil]
  by_cases empty : props = []
  · rw [if_pos empty, if_pos empty]
  · rw [if_neg empty, if_neg empty, file, List.drop_left, List.take_left,
      copyUnescaped_escapeProps]

variable (loader : Loader)

/-- The bytes of some trees at a position are read as children of the open node. -/
def ReadsAll (trees : List Tree) : Prop :=
  ∀ (before after : List UInt8) (parent : OpenNode) (stack : List OpenNode) (root : Option Node),
    loader.fileContents = before ++ (encodeAll trees ++ after) →
      ∃ nodes, List.Forall₂ (Reads loader) trees nodes ∧
        parse (encodeAll trees ++ after) before.length
            { stack := parent :: stack, root := root } =
          parse after (before.length + (encodeAll trees).length)
            { stack := parent.takes before.length nodes :: stack, root := root }

/-- From the properties of an open node to the byte after its `END`. -/
theorem parse_content {loader : Loader} (type : UInt8) (props : List UInt8) {trees : List Tree}
    (readsAll : ReadsAll loader trees) (before after : List UInt8) (stack : List OpenNode)
    (root : Option Node)
    (file : loader.fileContents =
      before ++ (escapeProps props ++ (encodeAll trees ++ endNode :: after))) :
    ∃ node, Reads loader (.mk type props trees) node ∧
      parse (escapeProps props ++ (encodeAll trees ++ endNode :: after)) before.length
          { stack := { type := type, propsBegin := before.length } :: stack, root := root } =
        parse after
          (before.length + (escapeProps props).length + (encodeAll trees).length + 1)
          (.pop stack root node) := by
  have split : loader.fileContents =
      (before ++ escapeProps props) ++ (encodeAll trees ++ endNode :: after) := by
    rw [file, List.append_assoc]
  obtain ⟨nodes, reads, parsed⟩ := readsAll (before ++ escapeProps props)
    (endNode :: after) { type := type, propsBegin := before.length } stack root split
  have childless : nodes = [] → before.length + (escapeProps props).length +
      (encodeAll trees).length = before.length + (escapeProps props).length := by
    rintro rfl
    cases reads
    rfl
  refine ⟨.mk nodes before.length (before.length + (escapeProps props).length) type,
    .mk rfl (getProps_written file nodes type) reads, ?_⟩
  rw [List.length_append] at parsed
  rw [parse_escapeProps, parsed, parse_end, OpenNode.close_takes _ _ _ _ _ childless]

/-- Nodes one after the other, from the first byte to the byte after the last. -/
theorem parse_encodeAll {loader : Loader} : ∀ trees : List Tree, ReadsAll loader trees
  | [] => fun _ _ _ _ _ _ => ⟨[], .nil, rfl⟩
  | .mk type props children :: trees => by
      intro before after parent stack root file
      have bytes : encodeAll (.mk type props children :: trees) ++ after =
          start :: type :: (escapeProps props ++ (encodeAll children ++ endNode ::
            (encodeAll trees ++ after))) := by
        simp [encodeAll, Tree.encode]
      have content : loader.fileContents = (before ++ [start, type]) ++
          (escapeProps props ++ (encodeAll children ++ endNode :: (encodeAll trees ++ after))) := by
        rw [file, bytes, List.append_assoc]
        rfl
      obtain ⟨node, readsNode, parsedNode⟩ := parse_content type props
        (parse_encodeAll children) (before ++ [start, type]) (encodeAll trees ++ after)
        (parent.endProps before.length :: stack) root content
      have position : (before ++ [start, type]).length + (escapeProps props).length +
          (encodeAll children).length + 1 =
          (before ++ Tree.encode (.mk type props children)).length := by
        simp only [Tree.encode, List.length_append, List.length_cons, List.length_nil]
        omega
      have others : loader.fileContents =
          (before ++ Tree.encode (.mk type props children)) ++ (encodeAll trees ++ after) := by
        rw [file, encodeAll, List.append_assoc, List.append_assoc]
      obtain ⟨nodes, readsNodes, parsedNodes⟩ := parse_encodeAll trees
        (before ++ Tree.encode (.mk type props children)) after
        ((parent.endProps before.length).adopt [node]) stack root others
      refine ⟨node :: nodes, .cons readsNode readsNodes, ?_⟩
      have last : (before ++ Tree.encode (.mk type props children)).length +
          (encodeAll trees).length =
          before.length + (encodeAll (.mk type props children :: trees)).length := by
        rw [encodeAll, List.length_append, List.length_append, Nat.add_assoc]
      have typed : (before ++ [start, type]).length = before.length + 2 := by
        rw [List.length_append]
        rfl
      rw [position, typed] at parsedNode
      rw [last, OpenNode.takes_cons] at parsedNodes
      rw [bytes, parse_start, parsedNode]
      exact parsedNodes

/-! ## Balance -/

/-- The `START` and `END` of some bytes, without those that are escaped or the type of a
node. -/
def brackets : List UInt8 → List DyckStep
  | [] => []
  | byte :: rest =>
    if byte = start then
      match rest with
      | [] => [U]
      | _ :: rest => U :: brackets rest
    else if byte = endNode then D :: brackets rest
    else if byte = escape then
      match rest with
      | [] => []
      | _ :: rest => brackets rest
    else brackets rest

/-- The bytes are one node: a bracket and its content, and no other after it. -/
def Balanced (bytes : List UInt8) : Prop :=
  bytes.head? = some start ∧ ∃ word : DyckWord, word.toList = brackets bytes ∧ word.IsNested

theorem brackets_start (rest : List UInt8) :
    brackets (start :: type :: rest) = U :: brackets rest := by
  rw [brackets.eq_def]
  simp only [if_true]

theorem brackets_end (rest : List UInt8) : brackets (endNode :: rest) = D :: brackets rest := by
  rw [brackets.eq_def]
  simp only [(by decide : endNode ≠ start), if_false, if_true]

theorem brackets_other {byte : UInt8} (notStart : byte ≠ start) (notEnd : byte ≠ endNode)
    (notEscape : byte ≠ escape) (rest : List UInt8) : brackets (byte :: rest) = brackets rest := by
  rw [brackets.eq_def]
  simp only [notStart, notEnd, notEscape, if_false]

theorem pop_length (stack : List OpenNode) (root : Option Node) (node : Node) :
    (ParseState.pop stack root node).stack.length = stack.length := by
  cases stack <;> rfl

theorem parse_closes (bytes : List UInt8) (pos : Nat) (state : ParseState) {result : ParseState}
    (parsed : parse bytes pos state = .ok result) (closed : result.stack = []) :
    Closes state.stack.length (brackets bytes) := by
  fun_induction parse bytes pos state with
  | case1 pos state =>
    cases parsed
    rw [closed]
    exact Closes.nil_iff.mpr rfl
  | case2 => cases parsed
  | case3 => cases parsed
  | case4 pos state currentNode stack type rest opened ih =>
    rw [opened, brackets_start]
    exact ih parsed
  | case5 => cases parsed
  | case6 rest pos state currentNode stack opened _ ih =>
    have inner := ih parsed
    rw [pop_length] at inner
    rw [opened, brackets_end]
    exact inner
  | case7 => cases parsed
  | case8 pos state byte rest _ _ ih =>
    exact ih parsed
  | case9 byte rest pos state notStart notEnd notEscape ih =>
    rw [brackets_other notStart notEnd notEscape]
    exact ih parsed

/-- **What is accepted is balanced.** -/
theorem parseTree_balanced {root : Node} (parsed : loader.parseTree = .ok root) :
    Balanced (loader.fileContents.drop 4) := by
  rw [Loader.parseTree] at parsed
  rcases bytes : loader.fileContents.drop 4 with _ | ⟨first, _ | ⟨type, rest⟩⟩
  · simp [bytes] at parsed
  · simp [bytes] at parsed
  · rw [bytes] at parsed
    simp only at parsed
    by_cases isStart : first = start
    · subst isStart
      rcases result : parse rest 6 { stack := [{ type := type, propsBegin := 6 }] } with error | state
      · simp [result] at parsed
      · rw [result] at parsed
        obtain ⟨stack, read⟩ := state
        cases stack with
        | nil =>
          obtain ⟨word, isWord, nested⟩ := (parse_closes rest 6 _ result rfl).isNested
          exact ⟨rfl, word, by rw [brackets_start, isWord], nested⟩
        | cons => cases read <;> simp at parsed
    · simp [isStart] at parsed

/-! ## The round trip -/

/-- No properties and no children. -/
def Tree.Bare : Tree → Prop
  | .mk _ props children => props = [] ∧ children = []

theorem parseTree_reads (identifier : Identifier) (four : identifier.length = 4)
    (tree : Tree) (file : loader.fileContents = identifier ++ tree.encode) :
    ∃ root, loader.parseTree = .ok root ∧ Reads loader tree root := by
  obtain ⟨type, props, children⟩ := tree
  have content : loader.fileContents = (identifier ++ [start, type]) ++
      (escapeProps props ++ (encodeAll children ++ endNode :: [])) := by
    rw [file, Tree.encode, List.append_assoc]
    rfl
  obtain ⟨root, reads, parsed⟩ := parse_content type props (parse_encodeAll children)
    (identifier ++ [start, type]) [] [] none content
  have six : (identifier ++ [start, type]).length = 6 := by
    rw [List.length_append, four]
    rfl
  have bytes : loader.fileContents.drop 4 = start :: type ::
      (escapeProps props ++ (encodeAll children ++ endNode :: [])) := by
    rw [file, ← four, List.drop_left, Tree.encode]
  refine ⟨root, ?_, reads⟩
  rw [six] at parsed
  rw [Loader.parseTree, bytes]
  simp only [ne_eq, not_true_eq_false, if_false, parsed]
  rfl

theorem length_encode (props : List UInt8) (children : List Tree) :
    (Tree.encode (.mk type props children)).length =
      (escapeProps props).length + (encodeAll children).length + 3 := by
  simp only [Tree.encode, List.length_cons, List.length_append, List.length_nil]
  omega

theorem three_lt_length_encode (tree : Tree) : 3 < tree.encode.length ↔ ¬ tree.Bare := by
  obtain ⟨type, props, children⟩ := tree
  rw [length_encode, Tree.Bare, ← escapeProps_eq_nil, ← List.length_eq_zero_iff]
  cases children with
  | nil =>
    simp only [encodeAll, List.length_nil, and_true]
    omega
  | cons child children =>
    obtain ⟨childType, childProps, grandchildren⟩ := child
    rw [encodeAll, List.length_append, length_encode]
    simp only [reduceCtorEq, and_false, not_false_eq_true, iff_true]
    omega

/-- The constructor and the parser take a file that holds the tree, and read it back. -/
def Loads (acceptedIdentifier identifier : Identifier) (tree : Tree) : Prop :=
  ∃ loader root, Loader.new (identifier ++ tree.encode) acceptedIdentifier = .ok loader ∧
    loader.parseTree = .ok root ∧ Reads loader tree root

/-- **Parsing inverts encoding, but for a bare root.** Any other tree is read back with
its shape, types, order and properties, and whatever is accepted is balanced. -/
theorem loads_iff {acceptedIdentifier identifier : Identifier} (four : identifier.length = 4)
    (accepted : identifier = acceptedIdentifier ∨ identifier = wildcard) :
    (∀ tree, Loads acceptedIdentifier identifier tree ↔ ¬ tree.Bare) ∧
      ∀ (loader : Loader) (root : Node), loader.parseTree = .ok root →
        Balanced (loader.fileContents.drop 4) := by
  refine ⟨fun tree => ?_, fun loader root => parseTree_balanced loader⟩
  have size : minimalSize < (identifier ++ tree.encode).length ↔ ¬ tree.Bare := by
    rw [List.length_append, four, ← three_lt_length_encode, minimalSize]
    omega
  constructor
  · rintro ⟨loader, _, made, _⟩
    rw [← size]
    by_contra small
    rw [Loader.new, dif_neg small] at made
    contradiction
  · intro filled
    have large := size.mpr filled
    obtain ⟨root, parsed, reads⟩ := parseTree_reads ⟨identifier ++ tree.encode, large⟩ identifier
      four tree rfl
    refine ⟨⟨identifier ++ tree.encode, large⟩, root, ?_, parsed, reads⟩
    rw [Loader.new, dif_pos large]
    have taken : (identifier ++ tree.encode).take 4 = identifier := by
      rw [← four, List.take_left]
    simp only [taken]
    rw [if_neg]
    rintro ⟨notAccepted, notWildcard⟩
    exact accepted.elim notAccepted notWildcard

/-- A root whose one property must be escaped is read back. -/
theorem loads_iff_escaped : Loads [0x4F, 0x54, 0x42, 0x49] wildcard (.mk 0 [0xFE] []) := by
  refine ((loads_iff rfl (.inr rfl)).1 _).mpr ?_
  rintro ⟨absent, _⟩
  cases absent

/-- **A bare root is refused**, though it is all that the least size counts. -/
theorem bare_root_not_loads : ¬ Loads wildcard wildcard (.mk 0 [] []) := by
  rintro ⟨loader, root, made, _⟩
  contradiction

end Otserv.Otb
