import Mathlib.Data.List.Basic

/-!
# The OTB loader

A file of the OTB format is an identifier of four bytes and a tree of nodes. A node is
`START`, the byte of its type, its properties, its children and `END`; a byte of the
properties that is one of `ESCAPE`, `START` and `END` has an `ESCAPE` before it.

`Loader::parseTree` goes over the bytes once with a stack of the nodes that are open,
and notes of each node where its properties begin and end; `Loader::getProps` takes the
escapes out of them. An iterator into the file is the position it is at.
-/

namespace Otserv.Otb

/-! ## Node characters -/

def escape : UInt8 := 0xFD
def start : UInt8 := 0xFE
def endNode : UInt8 := 0xFF

/-- `OTB::Identifier`. -/
abbrev Identifier := List UInt8

/-- Any file is accepted whose identifier is this one. -/
def wildcard : Identifier := [0, 0, 0, 0]

/-- The one `LoadError`. -/
inductive LoadError where
  | invalidOTBFormat
deriving DecidableEq

inductive Node where
  | mk (children : List Node) (propsBegin propsEnd : Nat) (type : UInt8)

namespace Node

def children : Node → List Node
  | .mk children _ _ _ => children

def propsBegin : Node → Nat
  | .mk _ propsBegin _ _ => propsBegin

def propsEnd : Node → Nat
  | .mk _ _ propsEnd _ => propsEnd

def type : Node → UInt8
  | .mk _ _ _ type => type

end Node

/-! ## Parsing -/

/-- A node on the parse stack, with the children that are closed. Where its properties
end is not set before the first child or the `END`. -/
structure OpenNode where
  type : UInt8
  propsBegin : Nat
  propsEnd : Nat := 0
  children : List Node := []

namespace OpenNode

variable (node : OpenNode)

/-- The properties end at the first child, or at the `END` of a node without one. -/
def endProps (pos : Nat) : OpenNode :=
  if node.children.isEmpty then { node with propsEnd := pos } else node

def adopt (children : List Node) : OpenNode :=
  { node with children := node.children ++ children }

def close : Node :=
  .mk node.children node.propsBegin node.propsEnd node.type

end OpenNode

/-- The parse stack, its top first, and the root when that is closed. -/
structure ParseState where
  stack : List OpenNode
  root : Option Node := none

/-- A node was closed: it is a child of the one below it, or the root. -/
def ParseState.pop (stack : List OpenNode) (root : Option Node) (node : Node) : ParseState :=
  match stack with
  | [] => { stack := [], root := some node }
  | parent :: stack => { stack := parent.adopt [node] :: stack, root := root }

/-- The loop of `Loader::parseTree`, at a position with the bytes from there on. -/
def parse : List UInt8 → Nat → ParseState → Except LoadError ParseState
  | [], _, state => .ok state
  | byte :: rest, pos, state =>
    if byte = start then
      match state.stack, rest with
      | [], _ => .error .invalidOTBFormat
      | _ :: _, [] => .error .invalidOTBFormat
      | currentNode :: stack, type :: rest =>
        parse rest (pos + 2)
          { state with
            stack := { type := type, propsBegin := pos + 2 } :: currentNode.endProps pos :: stack }
    else if byte = endNode then
      match state.stack with
      | [] => .error .invalidOTBFormat
      | currentNode :: stack =>
        parse rest (pos + 1) (.pop stack state.root (currentNode.endProps pos).close)
    else if byte = escape then
      match rest with
      | [] => .error .invalidOTBFormat
      | _ :: rest => parse rest (pos + 2) state
    else parse rest (pos + 1) state

/-! ## The loader -/

/-- The sizes of an identifier, of `START`, of a type and of `END`. -/
def minimalSize : Nat := 4 + 1 + 1 + 1

/-- `OTB::Loader`: a file that is large enough. -/
structure Loader where
  fileContents : List UInt8
  large : minimalSize < fileContents.length

namespace Loader

/-- The constructor of `Loader`. -/
def new (fileContents : List UInt8) (acceptedIdentifier : Identifier) : Except LoadError Loader :=
  if large : minimalSize < fileContents.length then
    let fileIdentifier := fileContents.take 4
    if fileIdentifier ≠ acceptedIdentifier ∧ fileIdentifier ≠ wildcard then
      .error .invalidOTBFormat
    else .ok ⟨fileContents, large⟩
  else .error .invalidOTBFormat

/-- `Loader::parseTree`. -/
def parseTree (loader : Loader) : Except LoadError Node :=
  match loader.fileContents.drop 4 with
  | first :: type :: rest =>
    if first ≠ start then .error .invalidOTBFormat
    else
      match parse rest 6 { stack := [{ type := type, propsBegin := 6 }] } with
      | .error error => .error error
      | .ok { stack := [], root := some root } => .ok root
      | .ok _ => .error .invalidOTBFormat
  | _ => .error .invalidOTBFormat

end Loader

/-- What `copy_if` copies: no byte that escapes the next one. -/
def copyUnescaped (lastEscaped : Bool) : List UInt8 → List UInt8
  | [] => []
  | byte :: rest =>
    let lastEscaped := byte == escape && !lastEscaped
    if lastEscaped then copyUnescaped lastEscaped rest
    else byte :: copyUnescaped lastEscaped rest

/-- `Loader::getProps`: what the stream is set to, unless it returns false. -/
def Loader.getProps (loader : Loader) (node : Node) : Option (List UInt8) :=
  if node.propsEnd - node.propsBegin = 0 then none
  else some (copyUnescaped false
    ((loader.fileContents.drop node.propsBegin).take (node.propsEnd - node.propsBegin)))

end Otserv.Otb
