import DataContract.Yaml.Token
/-!
# Nodes

The tree of a YAML document, read from its tokens: scalars, sequences, mappings and
references to nodes with an anchor.

Anchors are numbered.  An anchor takes the number of different names before it, so that
a name given twice makes the next anchor take a number again, and the last node of a
number is the one referred to.
-/

namespace DataContract
namespace Yaml

/-- A node of a document. -/
inductive Node where
  | scalar (tag : Option String) (text : String) (plain : Bool)
  | sequence (tag : Option String) (items : List Node)
  | mapping (tag : Option String) (entries : List (Node × Node))
  | alias (number : Nat)

/-- A document: its root and the nodes with anchors, by their numbers. -/
structure Document where
  root : Node
  anchored : List (Nat × Node)

namespace Node

instance : Inhabited Node := ⟨.alias 0⟩

/-- The node of an absent scalar. -/
def absent : Node := .scalar none "" true

mutual

/-- The number of events of a node: one for a scalar or reference, two for a collection. -/
def events : Node → Nat
  | .scalar .. => 1
  | .alias _ => 1
  | .sequence _ items => 2 + itemEvents items
  | .mapping _ entries => 2 + entryEvents entries

/-- The number of events of items. -/
def itemEvents : List Node → Nat
  | [] => 0
  | item :: items => item.events + itemEvents items

/-- The number of events of entries. -/
def entryEvents : List (Node × Node) → Nat
  | [] => 0
  | (key, value) :: entries => key.events + value.events + entryEvents entries

end

/-- A reader of nodes: the tokens that are left, the meaning of handles, the numbers of
anchors by name, the anchors begun in reverse, and the nodes of those that are
complete. -/
structure Reader where
  tokens : List Token
  handles : List (List Char × List Char) := []
  names : List (List Char × Nat) := []
  begun : List (Nat × Nat) := []
  complete : List (Nat × Node) := []

/-- An action of a reader. -/
abbrev Read := StateT Reader Option

namespace Read

/-- The next token. -/
def peek : Read Token := return (← get).tokens.headD .streamEnd

/-- Move past a token. -/
def skip : Read Unit := modify fun r => { r with tokens := r.tokens.tail }

/-- Move past a token that must come next. -/
def expect (t : Token) : Read Unit := do
  if (← peek) = t then skip else failure

/-- The next token is not one of some. -/
def isOther (ts : List Token) : Read Bool := return !ts.contains (← peek)

/-- The number of an anchor that was named before. -/
def numberOf (name : List Char) : Read Nat := do
  match (← get).names.lookup name with
  | some number => return number
  | none => failure

/-- Begin a node with an anchor: its place in the order of anchors. -/
def begin_ (anchor : Option (List Char)) : Read (Option Nat) := do
  match anchor with
  | none => return none
  | some name =>
      let r ← get
      let number := r.names.length
      let place := r.begun.length
      set { r with
        names := (name, number) :: r.names.filter fun other => other.1 != name
        begun := (number, place) :: r.begun }
      return some place

/-- Complete a node with an anchor. -/
def complete_ (place : Option Nat) (n : Node) : Read Node := do
  match place with
  | none => return n
  | some place =>
      modify fun r => { r with complete := (place, n) :: r.complete }
      return n

/-- A tag in full: the meaning of its handle and the rest. -/
def fullTag (handle rest : List Char) : Read String := do
  if handle.isEmpty then return String.ofList rest
  match (← get).handles.lookup handle with
  | some meaning => return String.ofList (meaning ++ rest)
  | none => failure

/-- An anchor, if it comes next. -/
def anchor? : Read (Option (List Char)) := do
  match ← peek with
  | .anchor name =>
      skip
      return some name
  | _ => return none

/-- A tag, if it comes next. -/
def tag? : Read (Option (List Char × List Char)) := do
  match ← peek with
  | .tag handle rest =>
      skip
      return some (handle, rest)
  | _ => return none

/-- The anchor and tag of a node, in either order. -/
def properties : Read (Option (List Char) × Option String) := do
  let first ← anchor?
  let tag ← tag?
  let anchor ← if first.isNone && tag.isSome then anchor? else pure first
  match tag with
  | some (handle, rest) => return (anchor, some (← fullTag handle rest))
  | none => return (anchor, none)

end Read

open Read

mutual

/-- A node.  In a block, block collections may follow; after a key, a sequence needs no
indentation. -/
def node : Nat → Bool → Bool → Read Node
  | 0, _, _ => failure
  | fuel + 1, inBlock, unindented => do
      match ← peek with
      | .alias name =>
          skip
          return .alias (← numberOf name)
      | _ =>
          let (anchor, tag) ← properties
          content fuel inBlock unindented anchor tag

/-- What follows the anchor and tag of a node. -/
def content : Nat → Bool → Bool → Option (List Char) → Option String → Read Node
  | 0, _, _, _, _ => failure
  | fuel + 1, inBlock, unindented, anchor, tag => do
      let t ← peek
      if unindented ∧ t = .blockEntry then
        let place ← begin_ anchor
        complete_ place (.sequence tag (← looseItems fuel))
      else
        match t with
        | .scalar text isPlain =>
            skip
            let place ← begin_ anchor
            let tag := if tag = some "!" then none else tag
            complete_ place (.scalar tag (String.ofList text) isPlain)
        | .flowSequenceStart =>
            skip
            let place ← begin_ anchor
            complete_ place (.sequence tag (← flowItems fuel true))
        | .flowMappingStart =>
            skip
            let place ← begin_ anchor
            complete_ place (.mapping tag (← flowEntries fuel true))
        | .blockSequenceStart =>
            if !inBlock then failure
            skip
            let place ← begin_ anchor
            complete_ place (.sequence tag (← blockItems fuel))
        | .blockMappingStart =>
            if !inBlock then failure
            skip
            let place ← begin_ anchor
            complete_ place (.mapping tag (← blockEntries fuel))
        | _ =>
            if anchor.isNone && tag.isNone then failure
            let place ← begin_ anchor
            complete_ place (.scalar tag "" true)

/-- The items of a block sequence, to its end. -/
def blockItems : Nat → Read (List Node)
  | 0 => failure
  | fuel + 1 => do
      match ← peek with
      | .blockEntry =>
          skip
          let item ←
            if ← isOther [.blockEntry, .blockEnd] then node fuel true false else pure absent
          return item :: (← blockItems fuel)
      | .blockEnd =>
          skip
          return []
      | _ => failure

/-- The items of a sequence without indentation. -/
def looseItems : Nat → Read (List Node)
  | 0 => failure
  | fuel + 1 => do
      match ← peek with
      | .blockEntry =>
          skip
          let item ←
            if ← isOther [.blockEntry, .key, .value, .blockEnd] then node fuel true false
            else pure absent
          return item :: (← looseItems fuel)
      | _ => return []

/-- The entries of a block mapping, to its end. -/
def blockEntries : Nat → Read (List (Node × Node))
  | 0 => failure
  | fuel + 1 => do
      match ← peek with
      | .key =>
          skip
          let key ←
            if ← isOther [.key, .value, .blockEnd] then node fuel true true else pure absent
          let value ← blockValue fuel
          return (key, value) :: (← blockEntries fuel)
      | .blockEnd =>
          skip
          return []
      | _ => failure

/-- The value of an entry of a block mapping. -/
def blockValue : Nat → Read Node
  | 0 => failure
  | fuel + 1 => do
      if (← peek) = .value then
        skip
        if ← isOther [.key, .value, .blockEnd] then node fuel true true else return absent
      else return absent

/-- The items of a sequence in brackets, to its end. -/
def flowItems : Nat → Bool → Read (List Node)
  | 0, _ => failure
  | fuel + 1, first => do
      if (← peek) = .flowSequenceEnd then
        skip
        return []
      if !first then expect .flowEntry
      match ← peek with
      | .flowSequenceEnd =>
          skip
          return []
      | .key =>
          skip
          let entry ← flowPair fuel
          return .mapping none [entry] :: (← flowItems fuel false)
      | _ =>
          let item ← node fuel false false
          return item :: (← flowItems fuel false)

/-- The one entry of a mapping that is an item of a sequence in brackets.  The token
that stands in place of a missing key is passed over. -/
def flowPair : Nat → Read (Node × Node)
  | 0 => failure
  | fuel + 1 => do
      let key ←
        if ← isOther [.value, .flowEntry, .flowSequenceEnd] then node fuel false false
        else do
          skip
          pure absent
      if (← peek) = .value then
        skip
        if ← isOther [.flowEntry, .flowSequenceEnd] then return (key, ← node fuel false false)
      return (key, absent)

/-- The entries of a mapping in braces, to its end. -/
def flowEntries : Nat → Bool → Read (List (Node × Node))
  | 0, _ => failure
  | fuel + 1, first => do
      if (← peek) = .flowMappingEnd then
        skip
        return []
      if !first then expect .flowEntry
      match ← peek with
      | .flowMappingEnd =>
          skip
          return []
      | .key =>
          skip
          let key ←
            if ← isOther [.value, .flowEntry, .flowMappingEnd] then node fuel false false
            else pure absent
          let value ← flowValue fuel
          return (key, value) :: (← flowEntries fuel false)
      | _ =>
          let key ← node fuel false false
          return (key, absent) :: (← flowEntries fuel false)

/-- The value of an entry of a mapping in braces. -/
def flowValue : Nat → Read Node
  | 0 => failure
  | fuel + 1 => do
      if (← peek) = .value then
        skip
        if ← isOther [.flowEntry, .flowMappingEnd] then node fuel false false else return absent
      else return absent

end

/-- The handles that need no directive. -/
def knownHandles : List (List Char × List Char) :=
  [(['!'], ['!']), (['!', '!'], "tag:yaml.org,2002:".toList)]

/-- The directives before a document: one version at most, and every handle once. -/
def directives : Nat → Bool → Read Unit
  | 0, _ => failure
  | fuel + 1, versioned => do
      match ← peek with
      | .version major minor =>
          if versioned ∨ major ≠ 1 ∨ (minor ≠ 1 ∧ minor ≠ 2) then failure
          skip
          directives fuel true
      | .tagDirective handle value =>
          let r ← get
          if (r.handles.lookup handle).isSome then failure
          set { r with handles := (handle, value) :: r.handles }
          skip
          directives fuel versioned
      | _ => modify fun r => { r with handles := r.handles ++ knownHandles }

/-- The ends of a document. -/
def documentEnds : Nat → Read Unit
  | 0 => return ()
  | fuel + 1 => do
      if (← peek) = .documentEnd then
        skip
        documentEnds fuel

/-- The only document of a text. -/
def document (fuel : Nat) : Read Node := do
  if (← peek) = .streamEnd then return absent
  let explicit :=
    match ← peek with
    | .version .. | .tagDirective .. | .documentStart => true
    | _ => false
  directives fuel false
  if explicit then expect .documentStart
  let root ←
    match explicit, ← peek with
    | true, .version .. | true, .tagDirective .. | true, .documentStart | true, .documentEnd
    | true, .streamEnd => pure absent
    | _, _ => node fuel true false
  documentEnds fuel
  expect .streamEnd
  return root

end Node

namespace Document

/-- The document that tokens form. -/
def ofTokens (tokens : List Token) : Option Document := do
  let (root, r) ← (Node.document (8 * tokens.length + 8)).run { tokens }
  let anchored := r.begun.filterMap fun (number, place) =>
    (r.complete.lookup place).map fun n => (number, n)
  return ⟨root, anchored⟩

end Document
end Yaml
end DataContract
