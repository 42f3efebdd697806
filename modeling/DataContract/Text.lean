import DataContract.Text.Unicode.Property
/-!
# Texts

Blanks are the characters with the white-space property.  A mark in a text is replaced from
left to right, without looking at what was put in.

**Quoting.**  A string in double quotes has the escapes of the JSON format: a backslash
before the quote and the backslash, a letter for five control characters and four hexadecimal
digits for the others.  A string literal in a message shows every character that can be seen.
Controls, unassigned characters, foreign blanks and combining marks are written by their code
point.
-/

namespace DataContract

/-- Whether a character is white space. -/
def isBlank (c : Char) : Bool :=
  let code := c.toNat
  (9 ≤ code && code ≤ 13) || code == 0x20 || code == 0x85 || code == 0xA0 ||
    code == 0x1680 || (0x2000 ≤ code && code ≤ 0x200A) || code == 0x2028 ||
    code == 0x2029 || code == 0x202F || code == 0x205F || code == 0x3000

/-- Replace a mark, once the next `skip` characters are passed over. -/
def substituteFrom (mark replacement : List Char) : Nat → List Char → List Char
  | _, [] => []
  | skip + 1, _ :: cs => substituteFrom mark replacement skip cs
  | 0, c :: cs =>
      if mark.isPrefixOf (c :: cs) then
        replacement ++ substituteFrom mark replacement (mark.length - 1) cs
      else c :: substituteFrom mark replacement 0 cs

/-- Replace a mark in a text. -/
def substitute (mark replacement text : String) : String :=
  String.ofList (substituteFrom mark.toList replacement.toList 0 text.toList)

/-- The value of a hexadecimal digit. -/
def hexValue? (c : Char) : Option Nat :=
  if c.isDigit then some (c.toNat - '0'.toNat)
  else if 'a' ≤ c ∧ c ≤ 'f' then some (c.toNat - 'a'.toNat + 10)
  else if 'A' ≤ c ∧ c ≤ 'F' then some (c.toNat - 'A'.toNat + 10)
  else none

/-- A hexadecimal digit in lower case. -/
def hexDigit (n : Nat) : Char :=
  if n < 10 then Char.ofNat ('0'.toNat + n) else Char.ofNat ('a'.toNat + (n - 10))

/-- A hexadecimal digit in upper case. -/
def upperHexDigit (n : Nat) : Char :=
  if n < 10 then Char.ofNat ('0'.toNat + n) else Char.ofNat ('A'.toNat + (n - 10))

theorem hexValue?_hexDigit {n : Nat} (h : n < 16) : hexValue? (hexDigit n) = some n := by
  have all : ∀ m ∈ List.range 16, hexValue? (hexDigit m) = some m := by decide
  exact all n (List.mem_range.mpr h)

namespace Quoted

/-- The written form of one character. -/
def escape (c : Char) : List Char :=
  if c = '"' then ['\\', '"']
  else if c = '\\' then ['\\', '\\']
  else if c = '\n' then ['\\', 'n']
  else if c = '\r' then ['\\', 'r']
  else if c = '\t' then ['\\', 't']
  else if c = Char.ofNat 8 then ['\\', 'b']
  else if c = Char.ofNat 12 then ['\\', 'f']
  else if c.toNat < 32 then
    ['\\', 'u', '0', '0', hexDigit (c.toNat / 16), hexDigit (c.toNat % 16)]
  else [c]

/-- The written form of the characters between the quotes. -/
def escapeAll (cs : List Char) : List Char := cs.flatMap escape

/-- The string between quotes. -/
def encode (s : String) : String :=
  String.ofList ('"' :: (escapeAll s.toList ++ ['"']))

end Quoted

namespace Literal

/-- Whether a character is visible on its own: no control, no separator but the space,
and assigned for text. -/
def isVisible (c : Char) : Bool :=
  match Unicode.category c with
  | .control | .format | .surrogate | .privateUse | .unassigned
  | .lineSeparator | .paragraphSeparator => false
  | .spaceSeparator => c == ' '
  | _ => true

/-- Whether a character attaches to the one before it. -/
def attaches (c : Char) : Bool := Unicode.hasProperty "graphemeextend" c

/-- A character by its code point. -/
def byCode (c : Char) : List Char :=
  "\\u\x7b".toList ++ Nat.toDigits 16 c.toNat ++ ['}']

/-- The written form of one character. -/
def escape (c : Char) : List Char :=
  if c = '"' then ['\\', '"']
  else if c = '\\' then ['\\', '\\']
  else if c = '\n' then ['\\', 'n']
  else if c = '\r' then ['\\', 'r']
  else if c = '\t' then ['\\', 't']
  else if c.toNat = 0 then ['\\', '0']
  else if c.toNat < 127 && 32 ≤ c.toNat then [c]
  else if attaches c || !isVisible c then byCode c
  else [c]

/-- The string between quotes. -/
def encode (s : String) : String :=
  String.ofList ('"' :: (s.toList.flatMap escape ++ ['"']))

/-- Strings between quotes, separated by commas, in brackets. -/
def encodeList (strings : List String) : String :=
  "[" ++ ", ".intercalate (strings.map encode) ++ "]"

end Literal

end DataContract
