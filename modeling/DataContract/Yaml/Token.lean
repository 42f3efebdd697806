import DataContract.Text
import DataContract.Yaml.Cursor
/-!
# Tokens of YAML texts

The tokens that a text consists of, and those of them that have a form of their own:
tags, anchors and directives.
-/

namespace DataContract
namespace Yaml

/-- A token. -/
inductive Token where
  | version (major minor : Nat)
  | tagDirective (handle value : List Char)
  | documentStart
  | documentEnd
  | blockSequenceStart
  | blockMappingStart
  | blockEnd
  | flowSequenceStart
  | flowSequenceEnd
  | flowMappingStart
  | flowMappingEnd
  | blockEntry
  | flowEntry
  | key
  | value
  | alias (name : List Char)
  | anchor (name : List Char)
  | tag (handle rest : List Char)
  | scalar (text : List Char) (plain : Bool)
  | streamEnd
deriving DecidableEq

namespace Token

/-- A character of a tag.  Some marks may stand only between angle brackets. -/
def isTagChar (bracketed : Bool) (c : Char) : Bool :=
  isNameChar c || ";/?:@&=+$.%!~*'()".toList.contains c ||
    (bracketed && (c == ',' || c == '[' || c == ']'))

/-- The bytes behind percent signs, as many as one character takes. -/
def escapedBytes : Nat → Cursor → Option (List UInt8 × Cursor)
  | 0, c => some ([], c)
  | count + 1, c => do
      if !c.at_ '%' then none
      let high ← hexValue? (← c.ahead 1)
      let low ← hexValue? (← c.ahead 2)
      let (bytes, c) ← escapedBytes count (c.skip 3)
      return (UInt8.ofNat (16 * high + low) :: bytes, c)

/-- The number of bytes of a character that starts with a byte. -/
def byteCount (first : UInt8) : Nat :=
  if first < 0x80 then 1
  else if first < 0xC0 then 0
  else if first < 0xE0 then 2
  else if first < 0xF0 then 3
  else if first < 0xF8 then 4
  else 0

/-- A character written by its bytes. -/
def escapedChar (c : Cursor) : Option (List Char × Cursor) := do
  let (first, _) ← escapedBytes 1 c
  let count := byteCount (first.headD 0)
  if count = 0 then none
  let (bytes, c) ← escapedBytes count c
  let text ← String.fromUTF8? ⟨bytes.toArray⟩
  return (text.toList, c)

/-- The characters of a tag.  The text is kept in reverse. -/
def tagChars (bracketed : Bool) : Nat → List Char → Cursor → Option (List Char × Cursor)
  | 0, text, c => some (text.reverse, c)
  | fuel + 1, text, c =>
      match c.next with
      | none => some (text.reverse, c)
      | some x =>
          if x = '%' then do
            let (chars, c) ← escapedChar c
            tagChars bracketed fuel (chars.reverse ++ text) c
          else if isTagChar bracketed x then tagChars bracketed fuel (x :: text) (c.skip 1)
          else some (text.reverse, c)

/-- A tag in full, which must not be empty. -/
def fullTag (bracketed : Bool) (c : Cursor) : Option (List Char × Cursor) := do
  let (text, after) ← tagChars bracketed c.rest.length [] c
  if text.isEmpty then none else return (text, after)

/-- A handle: an exclamation mark, or a name between two of them.  Without the second
mark it is the start of a tag. -/
def handle (c : Cursor) : Option (List Char × Cursor) :=
  if c.at_ '!' then
    let (name, c) := (c.skip 1).span isNameChar
    if c.at_ '!' then some ('!' :: (name ++ ['!']), c.skip 1) else some ('!' :: name, c)
  else none

/-- The handle and the rest of a tag. -/
def tagParts (c : Cursor) : Option (List Char × List Char × Cursor) := do
  if c.ahead 1 = some '<' then
    let (text, c) ← fullTag true (c.skip 2)
    if c.at_ '>' then return ([], text, c.skip 1) else none
  else
    let (start, c) ← handle c
    if 1 < start.length ∧ start.getLast? = some '!' then
      let (text, c) ← fullTag false c
      return (start, text, c)
    else
      let (text, c) ← tagChars false c.rest.length [] c
      let text := start.drop 1 ++ text
      if text.isEmpty then return ([], ['!'], c) else return (['!'], text, c)

/-- A tag; a word must end behind it. -/
def readTag (inFlow : Bool) (c : Cursor) : Option (Token × Cursor) := do
  let (start, text, c) ← tagParts c
  if endsWord c.next || (inFlow && c.at_ ',') then return (.tag start text, c) else none

/-- The name of an anchor or alias, after its mark. -/
def readAnchor (c : Cursor) : Option (List Char × Cursor) :=
  let (name, c) := (c.skip 1).span isNameChar
  if !name.isEmpty && (endsWord c.next || c.next.any "?:,]\x7d%@\x60".toList.contains) then
    some (name, c)
  else none

/-- A number of a version. -/
def versionNumber (c : Cursor) : Option (Nat × Cursor) :=
  let (digits, c) := c.span Char.isDigit
  if digits.isEmpty || 9 < digits.length then none
  else some (digits.foldl (fun n d => 10 * n + (d.toNat - '0'.toNat)) 0, c)

/-- The version of a text. -/
def readVersion (c : Cursor) : Option (Token × Cursor) := do
  let (major, c) ← versionNumber (c.skipWhile isGap)
  if !c.at_ '.' then none
  let (minor, c) ← versionNumber (c.skip 1)
  return (.version major minor, c)

/-- The meaning of a handle. -/
def readTagDirective (c : Cursor) : Option (Token × Cursor) := do
  let (start, c) ← handle (c.skipWhile isGap)
  if start ≠ ['!'] ∧ start.getLast? ≠ some '!' then none
  if !c.next.any isGap then none
  let (text, c) ← fullTag true (c.skipWhile isGap)
  if endsWord c.next then return (.tagDirective start text, c) else none

/-- A directive, to the end of its line. -/
def readDirective (c : Cursor) : Option (Token × Cursor) := do
  let (name, c) := (c.skip 1).span isNameChar
  if name.isEmpty || !endsWord c.next then none
  let (token, c) ←
    match String.ofList name with
    | "YAML" => readVersion c
    | "TAG" => readTagDirective c
    | _ => none
  let c := (c.skipWhile isGap).skipComment
  if endsLine c.next then return (token, c.skipBreak) else none

end Token
end Yaml
end DataContract
