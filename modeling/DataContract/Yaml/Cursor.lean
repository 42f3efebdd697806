/-!
# Reading positions

A cursor holds the text that is left, with the line and column where it starts.  Lines
end in a carriage return, a line feed, both of them, or one of three other characters.
-/

namespace DataContract
namespace Yaml

/-- The text that is left, and where it starts. -/
structure Cursor where
  rest : List Char
  index : Nat := 0
  line : Nat := 0
  column : Nat := 0

/-- A space or a tab. -/
def isGap (c : Char) : Bool := c == ' ' || c == '\t'

/-- A character that ends a line. -/
def isBreak (c : Char) : Bool :=
  c == '\n' || c == '\r' || c == '\u0085' || c == '\u2028' || c == '\u2029'

/-- Whether a word ends before what may be a character. -/
def endsWord (c : Option Char) : Bool := c.all fun c => isGap c || isBreak c

/-- Whether a line ends before what may be a character. -/
def endsLine (c : Option Char) : Bool := c.all isBreak

/-- A character of the names of anchors and handles. -/
def isNameChar (c : Char) : Bool := c.isAlphanum || c == '_' || c == '-'

/-- The characters that may stand in a text. -/
def isAllowed (c : Char) : Bool :=
  let code := c.toNat
  code == 9 || code == 10 || code == 13 || (0x20 ≤ code && code ≤ 0x7E) || code == 0x85 ||
    (0xA0 ≤ code && code ≤ 0xD7FF) || (0xE000 ≤ code && code ≤ 0xFFFD) || 0x10000 ≤ code

namespace Cursor

/-- The character some places ahead. -/
def ahead (c : Cursor) (n : Nat) : Option Char := c.rest[n]?

/-- The next character. -/
def next (c : Cursor) : Option Char := c.rest.head?

/-- Whether a character comes next. -/
def at_ (c : Cursor) (mark : Char) : Bool := c.next == some mark

/-- Move by some characters of a line. -/
def skip (c : Cursor) (n : Nat) : Cursor :=
  { c with rest := c.rest.drop n, index := c.index + n, column := c.column + n }

/-- Move past the end of a line. -/
def skipBreak (c : Cursor) : Cursor :=
  match c.rest with
  | '\r' :: '\n' :: rest => ⟨rest, c.index + 2, c.line + 1, 0⟩
  | x :: rest => if isBreak x then ⟨rest, c.index + 1, c.line + 1, 0⟩ else c
  | [] => c

/-- The end of a line as it is kept in texts. -/
def breakText (c : Cursor) : List Char :=
  match c.next with
  | some x =>
      if x == '\u2028' || x == '\u2029' then [x] else if isBreak x then ['\n'] else []
  | none => []

/-- The characters of a class that come next. -/
def span (c : Cursor) (test : Char → Bool) : List Char × Cursor :=
  let chars := c.rest.takeWhile test
  (chars, c.skip chars.length)

/-- Move past the characters of a class. -/
def skipWhile (c : Cursor) (test : Char → Bool) : Cursor := (c.span test).2

/-- Move past a comment. -/
def skipComment (c : Cursor) : Cursor :=
  if c.at_ '#' then c.skipWhile fun x => !isBreak x else c

/-- Whether three marks and the end of a word come next. -/
def atMarks (c : Cursor) (mark : Char) : Bool :=
  c.rest.take 3 == [mark, mark, mark] && endsWord (c.ahead 3)

/-- Whether the start or the end of a document comes next. -/
def atDocument (c : Cursor) : Bool := c.column == 0 && (c.atMarks '-' || c.atMarks '.')

end Cursor
end Yaml
end DataContract
