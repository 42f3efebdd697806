import DataContract.Yaml.Basic
import DataContract.Yaml.Node
import DataContract.Yaml.Resolution
import DataContract.Yaml.Scanner
/-!
# Composing documents

References are replaced by the nodes they refer to and scalars are resolved.  A document
must not be nested too deep, must not follow references too often, and no mapping may
have a key twice.  A text is scanned into tokens, the tokens form the nodes of one document,
and the nodes are composed to its content.
-/

namespace DataContract

namespace Yaml

/-- The deepest nesting of a document. -/
def maxDepth : Nat := 128

/-- A composition: it counts the references that were followed. -/
abbrev Compose := StateT Nat Option

/-- A collection under its tag. -/
def tagCollection (tag : Option String) (content : Yaml) : Option Yaml :=
  match Resolution.ownTag? tag with
  | some name => Resolution.withTag name content
  | none => some content

/-- A mapping, whose keys must differ. -/
def ofEntries (entries : List (Yaml × Yaml)) : Option Yaml :=
  if hasDuplicateKeys entries then none else some (.mapping entries)

namespace Document

/-- Follow a reference, as long as there are not too many. -/
def follow (d : Document) (limit number : Nat) : Compose Node := do
  let count := (← get) + 1
  if limit < count then failure
  set count
  match d.anchored.lookup number with
  | some n => return n
  | none => failure

mutual

/-- Compose a node at a depth. -/
def compose (d : Document) (limit depth : Nat) (n : Node) : Compose Yaml := do
  let n ←
    match n with
    | .alias number => d.follow limit number
    | n => pure n
  match depth, n with
  | _, .scalar tag text isPlain => Resolution.scalar tag text isPlain
  | depth + 1, .sequence tag items => do
      tagCollection tag (.sequence (← composeItems d limit depth items))
  | depth + 1, .mapping tag entries => do
      let composed ← composeEntries d limit depth entries
      tagCollection tag (← ofEntries composed)
  | _, _ => failure
termination_by (depth, 0)

/-- Compose items. -/
def composeItems (d : Document) (limit depth : Nat) : List Node → Compose (List Yaml)
  | [] => return []
  | item :: items => do
      let y ← compose d limit depth item
      let ys ← composeItems d limit depth items
      return y :: ys
termination_by items => (depth, items.length + 1)

/-- Compose entries. -/
def composeEntries (d : Document) (limit depth : Nat) :
    List (Node × Node) → Compose (List (Yaml × Yaml))
  | [] => return []
  | (key, value) :: entries => do
      let k ← compose d limit depth key
      let v ← compose d limit depth value
      let rest ← composeEntries d limit depth entries
      return (k, v) :: rest
termination_by entries => (depth, entries.length + 1)

end

/-- The document with every reference replaced. -/
def composed (d : Document) : Option Yaml :=
  ((d.compose (100 * d.root.events) maxDepth d.root).run 0).map Prod.fst

end Document
end Yaml

namespace Yaml

/-- The only document of a text. -/
def read (text : String) : Option Yaml := do
  let tokens ← scan text
  let d ← Document.ofTokens tokens
  d.composed

end Yaml

end DataContract
