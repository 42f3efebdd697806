import DataContract.Yaml.Scalar
import DataContract.Yaml.Token
/-!
# Scanning YAML texts

Tokens are read from left to right.  Indentation opens and closes block collections.  A
node on one line may turn out to be a key when a colon follows it; then the token of the
key, and that of the mapping if it begins there, are put in before the node.
-/

namespace DataContract
namespace Yaml

/-- A node that may be a key: whether it must be one, and where it starts. -/
structure KeyCandidate where
  required : Bool
  number : Nat
  index : Nat
  line : Nat
  column : Nat

/-- A scanner: the text that is left, the state of the layout, and the tokens so far in
reverse.  There is a place for a key on every level of brackets. -/
structure Scanner where
  cursor : Cursor
  flowLevel : Nat := 0
  keyAllowed : Bool := true
  keys : List (Option KeyCandidate) := [none]
  indent : Int := -1
  indents : List Int := []
  tokens : List Token := []
  count : Nat := 0

/-- An action of a scanner; a text that is not YAML has no tokens. -/
abbrev Scan := StateT Scanner Option

namespace Scan

/-- Add a token. -/
def emit (t : Token) : Scan Unit :=
  modify fun s => { s with tokens := t :: s.tokens, count := s.count + 1 }

/-- Put a token before the one of a number. -/
def insertAt (number : Nat) (t : Token) : Scan Unit :=
  modify fun s =>
    let behind := s.count - number
    { s with
      tokens := s.tokens.take behind ++ t :: s.tokens.drop behind
      count := s.count + 1 }

/-- Add a token for some marks and move past them. -/
def emitMark (t : Token) (length : Nat) : Scan Unit := do
  modify fun s => { s with cursor := s.cursor.skip length }
  emit t

/-- Say whether a key may come next. -/
def allowKey (allowed : Bool) : Scan Unit := modify fun s => { s with keyAllowed := allowed }

/-- Whether the scanner is inside brackets. -/
def inFlow : Scan Bool := return (← get).flowLevel != 0

/-- Close the blocks that are indented more than a column. -/
def unrollFrom (column : Int) : Nat → Scan Unit
  | 0 => return ()
  | fuel + 1 => do
      let s ← get
      if column < s.indent then
        emit .blockEnd
        modify fun s => { s with indent := s.indents.headD (-1), indents := s.indents.tail }
        unrollFrom column fuel

/-- Close blocks, unless inside brackets. -/
def unroll (column : Int) : Scan Unit := do
  if !(← inFlow) then unrollFrom column ((← get).indents.length + 1)

/-- Open a block at a column, unless inside brackets or in a block at that column. -/
def roll (column : Nat) (number : Option Nat) (t : Token) : Scan Unit := do
  let s ← get
  if s.flowLevel = 0 ∧ s.indent < column then
    set { s with indents := s.indent :: s.indents, indent := (column : Int) }
    match number with
    | some number => insertAt number t
    | none => emit t

/-- Drop candidates for keys that lie on an earlier line or too far back. -/
def dropStale : Scan Unit := do
  let s ← get
  let isStale (k : KeyCandidate) : Bool :=
    decide (k.line < s.cursor.line) || decide (k.index + 1024 < s.cursor.index)
  if s.keys.any fun k => k.any fun k => k.required && isStale k then failure
  set { s with keys := s.keys.map (Option.filter (!isStale ·)) }

/-- Drop the candidate on this level. -/
def dropKey : Scan Unit := do
  match (← get).keys with
  | some k :: keys =>
      if k.required then failure else modify fun s => { s with keys := none :: keys }
  | _ => return ()

/-- Take the next node for a candidate, where a key may come. -/
def saveKey : Scan Unit := do
  let s ← get
  if s.keyAllowed then
    let required := s.flowLevel == 0 && s.indent == (s.cursor.column : Int)
    dropKey
    modify fun s =>
      let k := ⟨required, s.count, s.cursor.index, s.cursor.line, s.cursor.column⟩
      { s with keys := some k :: s.keys.tail }

/-- Move past blanks, comments and ends of lines. -/
def toNextToken : Nat → Scan Unit
  | 0 => return ()
  | fuel + 1 => do
      let s ← get
      let c := if s.cursor.index = 0 ∧ s.cursor.at_ '\uFEFF' then s.cursor.skip 1 else s.cursor
      let tabs := s.flowLevel != 0 || !s.keyAllowed
      let c := (c.skipWhile fun x => x == ' ' || (tabs && x == '\t')).skipComment
      if c.next.any isBreak then
        set { s with cursor := c.skipBreak, keyAllowed := s.keyAllowed || s.flowLevel == 0 }
        toNextToken fuel
      else set { s with cursor := c }

/-- The end of the text. -/
def streamEnd : Scan Unit := do
  unroll (-1)
  dropKey
  emit .streamEnd

/-- The start or end of a document. -/
def documentMark (t : Token) : Scan Unit := do
  unroll (-1)
  dropKey
  allowKey false
  emitMark t 3

/-- A directive. -/
def directive : Scan Unit := do
  unroll (-1)
  dropKey
  allowKey false
  let (t, c) ← Token.readDirective (← get).cursor
  modify fun s => { s with cursor := c }
  emit t

/-- An opening bracket. -/
def openFlow (t : Token) : Scan Unit := do
  saveKey
  modify fun s =>
    { s with keys := none :: s.keys, flowLevel := s.flowLevel + 1, keyAllowed := true }
  emitMark t 1

/-- A closing bracket. -/
def closeFlow (t : Token) : Scan Unit := do
  dropKey
  modify fun s =>
    if s.flowLevel = 0 then { s with keyAllowed := false }
    else { s with keys := s.keys.tail, flowLevel := s.flowLevel - 1, keyAllowed := false }
  emitMark t 1

/-- A comma between brackets. -/
def flowEntry : Scan Unit := do
  dropKey
  allowKey true
  emitMark .flowEntry 1

/-- A mark that begins a part of a block, which needs a place where a key may come. -/
def beginBlock (t : Token) : Scan Unit := do
  let s ← get
  if s.flowLevel = 0 then
    if !s.keyAllowed then failure
    roll s.cursor.column none t

/-- A hyphen before an item. -/
def blockEntry : Scan Unit := do
  beginBlock .blockSequenceStart
  dropKey
  allowKey true
  emitMark .blockEntry 1

/-- A question mark before a key. -/
def key : Scan Unit := do
  beginBlock .blockMappingStart
  dropKey
  allowKey (!(← inFlow))
  emitMark .key 1

/-- A colon before a value. -/
def value : Scan Unit := do
  match (← get).keys with
  | some k :: keys =>
      insertAt k.number .key
      roll k.column (some k.number) .blockMappingStart
      modify fun s => { s with keys := none :: keys, keyAllowed := false }
  | _ =>
      beginBlock .blockMappingStart
      allowKey (!(← inFlow))
  emitMark .value 1

/-- Part of a node that may be a key and is read by a function. -/
def nodePart (read : Cursor → Option (Token × Cursor)) : Scan Unit := do
  saveKey
  allowKey false
  let (t, c) ← read (← get).cursor
  modify fun s => { s with cursor := c }
  emit t

/-- A plain scalar.  When it ends with a line, a key may come next. -/
def plain : Scan Unit := do
  saveKey
  allowKey false
  let s ← get
  let (text, broken, c) ← Scalar.plain (s.flowLevel != 0) (s.indent + 1) s.cursor
  set { s with cursor := c, keyAllowed := broken }
  emit (.scalar text true)

/-- A block scalar. -/
def blockScalar (folded : Bool) : Scan Unit := do
  dropKey
  allowKey true
  let s ← get
  let (text, c) ← Scalar.block folded s.indent s.cursor
  set { s with cursor := c }
  emit (.scalar text false)

/-- A quoted scalar. -/
def quoted (quote : Char) : Scan Unit :=
  nodePart fun c => (Scalar.quoted quote c).map fun (text, c) => (.scalar text false, c)

/-- An anchor or an alias. -/
def anchor (make : List Char → Token) : Scan Unit :=
  nodePart fun c => (Token.readAnchor c).map fun (name, c) => (make name, c)

/-- The marks that no plain scalar starts with. -/
def isIndicator (c : Char) : Bool := "-?:,[]\x7b\x7d#&*!|>'\"%@\x60".toList.contains c

/-- Whether a plain scalar comes next. -/
def startsPlain (flow : Bool) (c : Cursor) : Bool :=
  match c.next with
  | none => false
  | some x =>
      (!isGap x && !isBreak x && !isIndicator x) ||
        (x == '-' && !(c.ahead 1).any isGap) ||
        (!flow && (x == '?' || x == ':') && !endsWord (c.ahead 1))

/-- A token that starts with a character. -/
def token (flow : Bool) (c : Cursor) (x : Char) : Scan Unit :=
  let word := endsWord (c.ahead 1)
  if c.column = 0 ∧ x = '%' then directive
  else if c.column = 0 ∧ c.atMarks '-' = true then documentMark .documentStart
  else if c.column = 0 ∧ c.atMarks '.' = true then documentMark .documentEnd
  else if x = '[' then openFlow .flowSequenceStart
  else if x = '\x7b' then openFlow .flowMappingStart
  else if x = ']' then closeFlow .flowSequenceEnd
  else if x = '\x7d' then closeFlow .flowMappingEnd
  else if x = ',' then flowEntry
  else if x = '-' ∧ word = true then blockEntry
  else if x = '?' ∧ (flow || word) = true then key
  else if x = ':' ∧ (flow || word) = true then value
  else if x = '*' then anchor .alias
  else if x = '&' then anchor .anchor
  else if x = '!' then nodePart (Token.readTag flow)
  else if x = '|' ∧ flow = false then blockScalar false
  else if x = '>' ∧ flow = false then blockScalar true
  else if x = '\'' ∨ x = '"' then quoted x
  else if startsPlain flow c then plain
  else failure

/-- Scan to the end of the text; every token takes at least one character. -/
def tokens : Nat → Scan Unit
  | 0 => failure
  | fuel + 1 => do
      toNextToken ((← get).cursor.rest.length + 1)
      dropStale
      unroll (← get).cursor.column
      let c := (← get).cursor
      match c.next with
      | none => streamEnd
      | some x =>
          token (← inFlow) c x
          tokens fuel

end Scan

/-- The tokens of a text. -/
def scan (text : String) : Option (List Token) :=
  let cs := text.toList
  if cs.all isAllowed then
    ((Scan.tokens (cs.length + 1)).run { cursor := { rest := cs } }).map fun (_, s) =>
      s.tokens.reverse
  else none

end Yaml
end DataContract
