import DataContract.Text
import DataContract.Yaml.Cursor
/-!
# Texts of scalars

A scalar is written plain, in quotes, or as a block of indented lines.  In plain and
quoted scalars the end of a line is folded into a space, and empty lines after it are
kept; a block says itself whether its lines are folded.
-/

namespace DataContract
namespace Yaml

/-- The blanks and ends of lines between two words. -/
structure Gap where
  blanks : List Char := []
  broken : Bool := false
  first : List Char := []
  more : List Char := []

namespace Gap

/-- Add the end of a line; the blanks before it are dropped. -/
def addBreak (g : Gap) (text : List Char) : Gap :=
  if g.broken then { g with more := g.more ++ text }
  else { g with blanks := [], broken := true, first := text }

/-- What a gap stands for. -/
def text (g : Gap) : List Char :=
  if g.broken then
    if g.first = ['\n'] then (if g.more.isEmpty then [' '] else g.more) else g.first ++ g.more
  else g.blanks

/-- Read a gap.  No tab may stand at the start of a line before a column. -/
def read (column : Int) : Nat → Gap → Cursor → Option (Gap × Cursor)
  | 0, g, c => some (g, c)
  | fuel + 1, g, c =>
      match c.next with
      | none => some (g, c)
      | some x =>
          if isGap x then
            if g.broken then
              if x = '\t' ∧ (c.column : Int) < column then none
              else read column fuel g (c.skip 1)
            else read column fuel { g with blanks := g.blanks ++ [x] } (c.skip 1)
          else if isBreak x then read column fuel (g.addBreak c.breakText) c.skipBreak
          else some (g, c)

end Gap

namespace Scalar

/-- The marks that structure a collection in brackets. -/
def isFlowMark (c : Char) : Bool :=
  c == ',' || c == '[' || c == ']' || c == '\x7b' || c == '\x7d'

/-- Read the rest of a word.  The text is kept in reverse. -/
def plainWord (inFlow : Bool) :
    Nat → List Char → Gap → Cursor → Option (List Char × Gap × Cursor)
  | 0, text, g, c => some (text, g, c)
  | fuel + 1, text, g, c =>
      match c.next with
      | none => some (text, g, c)
      | some x =>
          let after := c.ahead 1
          if isGap x || isBreak x then some (text, g, c)
          else if inFlow && x == ':' && after.any (fun y => isFlowMark y || y == '?') then none
          else if (x == ':' && endsWord after) || (inFlow && isFlowMark x) then some (text, g, c)
          else plainWord inFlow fuel (x :: (g.text.reverse ++ text)) {} (c.skip 1)

/-- Read words and the gaps between them.  The last gap is returned. -/
def plainFrom (inFlow : Bool) (indent : Int) :
    Nat → List Char → Gap → Cursor → Option (List Char × Gap × Cursor)
  | 0, text, g, c => some (text, g, c)
  | fuel + 1, text, g, c =>
      if c.atDocument || c.at_ '#' then some (text, g, c)
      else do
        let (text, g, c) ← plainWord inFlow c.rest.length text g c
        if c.next.any fun x => isGap x || isBreak x then
          let (g, c) ← Gap.read indent c.rest.length g c
          if !inFlow && (c.column : Int) < indent then return (text, g, c)
          else plainFrom inFlow indent fuel text g c
        else return (text, g, c)

/-- A plain scalar: its text, whether a line ended behind it, and the rest. -/
def plain (inFlow : Bool) (indent : Int) (c : Cursor) :
    Option (List Char × Bool × Cursor) := do
  let (text, g, c) ← plainFrom inFlow indent (c.rest.length + 1) [] {} c
  return (text.reverse, g.broken, c)

/-- The code point of digits, which must not be a surrogate. -/
def charOfDigits? (digits : List Char) : Option Char := do
  let code ← digits.foldlM (fun n d => (hexValue? d).map fun v => 16 * n + v) 0
  if code < 0xD800 ∨ (0xE000 ≤ code ∧ code < 0x110000) then some (Char.ofNat code) else none

/-- An escape, after the backslash. -/
def escape (c : Cursor) : Option (Char × Cursor) := do
  let byCode (width : Nat) : Option (Char × Cursor) := do
    let digits := (c.rest.drop 1).take width
    if digits.length < width then none
    return (← charOfDigits? digits, c.skip (1 + width))
  let single (x : Char) : Option (Char × Cursor) := some (x, c.skip 1)
  match ← c.next with
  | '0' => single (Char.ofNat 0)
  | 'a' => single (Char.ofNat 7)
  | 'b' => single (Char.ofNat 8)
  | 't' => single '\t'
  | '\t' => single '\t'
  | 'n' => single '\n'
  | 'v' => single (Char.ofNat 11)
  | 'f' => single (Char.ofNat 12)
  | 'r' => single '\r'
  | 'e' => single (Char.ofNat 27)
  | ' ' => single ' '
  | '"' => single '"'
  | '/' => single '/'
  | '\\' => single '\\'
  | 'N' => single '\u0085'
  | '_' => single '\u00A0'
  | 'L' => single '\u2028'
  | 'P' => single '\u2029'
  | 'x' => byCode 2
  | 'u' => byCode 4
  | 'U' => byCode 8
  | _ => none

/-- Read the rest of a word in quotes.  The text is kept in reverse; the truth value
tells whether the word ends in an escaped end of a line. -/
def quotedWord (quote : Char) :
    Nat → List Char → Cursor → Option (List Char × Bool × Cursor)
  | 0, text, c => some (text, false, c)
  | fuel + 1, text, c =>
      match c.next with
      | none => some (text, false, c)
      | some x =>
          if isGap x || isBreak x then some (text, false, c)
          else if x = quote then
            if quote = '\'' ∧ c.ahead 1 = some '\'' then
              quotedWord quote fuel ('\'' :: text) (c.skip 2)
            else some (text, false, c)
          else if quote = '"' ∧ x = '\\' then
            if (c.ahead 1).any isBreak then some (text, true, (c.skip 1).skipBreak)
            else do
              let (y, c) ← escape (c.skip 1)
              quotedWord quote fuel (y :: text) c
          else quotedWord quote fuel (x :: text) (c.skip 1)

/-- Read words and gaps to the closing quote. -/
def quotedFrom (quote : Char) : Nat → List Char → Cursor → Option (List Char × Cursor)
  | 0, _, _ => none
  | fuel + 1, text, c =>
      if c.atDocument || c.rest.isEmpty then none
      else do
        let (text, escaped, c) ← quotedWord quote c.rest.length text c
        if c.at_ quote then return (text, c.skip 1)
        let (g, c) ← Gap.read 0 c.rest.length { broken := escaped } c
        quotedFrom quote fuel (g.text.reverse ++ text) c

/-- A quoted scalar, from its opening quote. -/
def quoted (quote : Char) (c : Cursor) : Option (List Char × Cursor) := do
  let (text, c) ← quotedFrom quote (c.rest.length + 1) [] (c.skip 1)
  return (text.reverse, c)

/-- What becomes of the ends of lines at the end of a block. -/
inductive Chomping where
  | strip
  | clip
  | keep
deriving DecidableEq

/-- The header of a block: chomping and extra indentation, in either order. -/
def blockHeader (c : Cursor) : Option (Chomping × Nat × Cursor) :=
  let chomping? (c : Cursor) : Option Chomping :=
    if c.at_ '+' then some .keep else if c.at_ '-' then some .strip else none
  let extra? (c : Cursor) : Option Nat :=
    match c.next with
    | some x => if x.isDigit then some (x.toNat - '0'.toNat) else none
    | none => none
  match chomping? c, extra? c with
  | some chomping, _ =>
      let c := c.skip 1
      match extra? c with
      | some 0 => none
      | some n => some (chomping, n, c.skip 1)
      | none => some (chomping, 0, c)
  | none, some 0 => none
  | none, some n =>
      let c := c.skip 1
      match chomping? c with
      | some chomping => some (chomping, n, c.skip 1)
      | none => some (.clip, n, c)
  | none, none => some (.clip, 0, c)

/-- Read empty lines and the indentation of the next line.  An indentation of zero is
not known yet.  The widest indentation is returned. -/
def blockBreaks (indent : Nat) :
    Nat → Nat → List Char → Cursor → Option (Nat × List Char × Cursor)
  | 0, widest, breaks, c => some (widest, breaks, c)
  | fuel + 1, widest, breaks, c =>
      let spaces := (c.span (· == ' ')).1.length
      let c := c.skip (if indent = 0 then spaces else min spaces (indent - c.column))
      let widest := max widest c.column
      if (indent = 0 ∨ c.column < indent) ∧ c.at_ '\t' then none
      else if c.next.any isBreak then
        blockBreaks indent fuel widest (breaks ++ c.breakText) c.skipBreak
      else some (widest, breaks, c)

/-- A block under way: its text in reverse, the end of its last line, the empty lines
after it, and whether the last line started with a blank. -/
structure BlockText where
  text : List Char := []
  lineEnd : List Char := []
  breaks : List Char := []
  afterBlank : Bool := false

/-- Join the next line; `blank` says whether it starts with a blank. -/
def BlockText.join (b : BlockText) (folded blank : Bool) : List Char :=
  let joined :=
    if folded && b.lineEnd == ['\n'] && !b.afterBlank && !blank then
      if b.breaks.isEmpty then [' '] else []
    else b.lineEnd
  (joined ++ b.breaks).reverse ++ b.text

/-- Read the lines of a block. -/
def blockLines (folded : Bool) (indent : Nat) :
    Nat → BlockText → Cursor → Option (BlockText × Cursor)
  | 0, b, c => some (b, c)
  | fuel + 1, b, c =>
      if c.column = indent ∧ !c.rest.isEmpty then do
        let blank := c.next.any isGap
        let (line, c) := c.span fun x => !isBreak x
        let text := line.reverse ++ b.join folded blank
        let lineEnd := c.breakText
        let c := c.skipBreak
        let (_, breaks, c) ← blockBreaks indent (c.rest.length + 1) 0 [] c
        blockLines folded indent fuel ⟨text, lineEnd, breaks, blank⟩ c
      else some (b, c)

/-- A block, from its mark, inside a node of some indentation. -/
def block (folded : Bool) (parent : Int) (c : Cursor) : Option (List Char × Cursor) := do
  let (chomping, extra, c) ← blockHeader (c.skip 1)
  let c := (c.skipWhile isGap).skipComment
  if !endsLine c.next then none
  let c := c.skipBreak
  let given := if extra = 0 then 0 else if 0 ≤ parent then parent.toNat + extra else extra
  let (widest, breaks, c) ← blockBreaks given (c.rest.length + 1) 0 [] c
  let indent := if given = 0 then max widest (max (parent + 1).toNat 1) else given
  let (b, c) ← blockLines folded indent (c.rest.length + 1) { breaks := breaks } c
  let tail :=
    match chomping with
    | .strip => []
    | .clip => b.lineEnd
    | .keep => b.lineEnd ++ b.breaks
  return (b.text.reverse ++ tail, c)

end Scalar
end Yaml
end DataContract
