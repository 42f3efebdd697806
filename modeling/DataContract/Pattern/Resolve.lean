import DataContract.Pattern.Expr
import DataContract.Pattern.Property
import DataContract.Pattern.Reader
/-!
# The meaning of pattern trees

A tree is resolved under the flags in force.  Flags set inside a group hold to its end,
across the alternatives.  Without the Unicode flag only characters of the basic set can
be asked for by class.
-/

namespace DataContract
namespace Pattern

/-- The flags in force. -/
structure Modes where
  caseInsensitive : Bool := false
  multiLine : Bool := false
  dotMatchesNewline : Bool := false
  unicode : Bool := true
  crlf : Bool := false

namespace Modes

/-- Set flags. -/
def set (m : Modes) (settings : FlagSettings) : Modes :=
  { caseInsensitive := (settings.lookup .caseInsensitive).getD m.caseInsensitive
    multiLine := (settings.lookup .multiLine).getD m.multiLine
    dotMatchesNewline := (settings.lookup .dotMatchesNewline).getD m.dotMatchesNewline
    unicode := (settings.lookup .unicode).getD m.unicode
    crlf := (settings.lookup .crlf).getD m.crlf }

/-- All case variants of a class, if case is ignored. -/
def fold (m : Modes) (a : CharClass) : CharClass :=
  if m.caseInsensitive then (if m.unicode then .folded a else .asciiFolded a) else a

/-- Case variants first, then the complement: "none of these letters" excludes both
cases.  A complement reaches beyond the basic set. -/
def close? (m : Modes) (negated : Bool) (a : CharClass) : Option CharClass :=
  if negated && !m.unicode then none else some (.negateIf negated (m.fold a))

/-- Whether a literal may stand in a class. -/
def allows (m : Modes) (c : Char) : Bool := m.unicode || c.toNat < 128

/-- The characters of words. -/
def letters (m : Modes) : CharClass := if m.unicode then .word else .asciiWord

end Modes

namespace PosixClass

/-- The characters between colons, all of the basic set. -/
def spans : PosixClass → List (Char × Char)
  | .alnum => [('0', '9'), ('A', 'Z'), ('a', 'z')]
  | .alpha => [('A', 'Z'), ('a', 'z')]
  | .ascii => [('\x00', '\x7F')]
  | .blank => [('\t', '\t'), (' ', ' ')]
  | .cntrl => [('\x00', '\x1F'), ('\x7F', '\x7F')]
  | .digit => [('0', '9')]
  | .graph => [('!', '~')]
  | .lower => [('a', 'z')]
  | .print => [(' ', '~')]
  | .punct => [('!', '/'), (':', '@'), ('[', '\x60'), ('\x7b', '~')]
  | .space => [('\t', '\r'), (' ', ' ')]
  | .upper => [('A', 'Z')]
  | .word => [('0', '9'), ('A', 'Z'), ('_', '_'), ('a', 'z')]
  | .xdigit => [('0', '9'), ('A', 'F'), ('a', 'f')]

/-- The class of a name between colons. -/
def toClass (name : PosixClass) : CharClass :=
  .ranges (name.spans.map fun (low, high) => (low.toNat, high.toNat))

end PosixClass

namespace LetterClass

/-- The class of a letter under the flags in force. -/
def class? (m : Modes) (negated : Bool) (name : LetterClass) : Option CharClass :=
  if m.unicode then
    some (.negateIf negated
      (match name with
        | .digit => .digit
        | .space => .blank
        | .word => .word))
  else if negated then none
  else
    some (match name with
      | .digit => PosixClass.digit.toClass
      | .space => PosixClass.space.toClass
      | .word => .asciiWord)

end LetterClass

/-- The class of a property under the flags in force. -/
def PropertyQuery.resolve (m : Modes) (query : PropertyQuery) (negated : Bool) :
    Option CharClass :=
  if m.unicode then query.class?.bind (m.close? negated) else none

/-- Apply an operation on classes. -/
def ClassOp.apply (op : ClassOp) (a b : CharClass) : CharClass :=
  match op with
  | .intersection => .inter a b
  | .difference => a.except b
  | .symmetricDifference => a.symmetric b

mutual

/-- The class of a tree.  Case is ignored at the brackets and at the operations. -/
def ClassTree.resolve (m : Modes) : ClassTree → Option CharClass
  | .empty => some .none
  | .literal c _ => if m.allows c then some (.single c) else none
  | .range low high _ _ =>
      if m.allows low && m.allows high then some (.range low high) else none
  | .posix name negated => m.close? negated name.toClass
  | .property query negated => query.resolve m negated
  | .letter name negated => name.class? m negated
  | .bracket negated set => (set.resolve m).bind (m.close? negated)
  | .union items => ClassTree.resolveAll m items
  | .op kind left right => do
      return kind.apply (m.fold (← left.resolve m)) (m.fold (← right.resolve m))

/-- The union of the classes of trees. -/
def ClassTree.resolveAll (m : Modes) : List ClassTree → Option CharClass
  | [] => some .none
  | item :: items => do
      return .union (← item.resolve m) (← ClassTree.resolveAll m items)

end

/-- A literal; written as a byte it must belong to the basic set. -/
def resolveLiteral (m : Modes) (c : Char) (byte : Bool) : Option Expr :=
  if m.unicode then some (.chars (m.fold (.single c)))
  else if c.toNat < 128 then some (.chars (m.fold (.single c)))
  else if byte then none
  else some (.single c)

/-- Any character, but for the ends of lines. -/
def resolveDot (m : Modes) : Option Expr :=
  if !m.unicode then none
  else if m.dotMatchesNewline then some (.chars .all)
  else if m.crlf then some (.chars (.complement (.ranges [(10, 10), (13, 13)])))
  else some (.chars (.complement (.single '\n')))

/-- The condition of an assertion under the flags in force. -/
def resolveAssertion (m : Modes) : Assertion → Look
  | .lineStart =>
      if m.multiLine then (if m.crlf then .crlfLineStart else .lineStart) else .textStart
  | .lineEnd =>
      if m.multiLine then (if m.crlf then .crlfLineEnd else .lineEnd) else .textEnd
  | .textStart => .textStart
  | .textEnd => .textEnd
  | .wordBoundary => .boundary m.letters
  | .notWordBoundary => .notBoundary m.letters
  | .wordStart => .wordStart m.letters
  | .wordEnd => .wordEnd m.letters
  | .wordStartHalf => .wordStartHalf m.letters
  | .wordEndHalf => .wordEndHalf m.letters

mutual

/-- The expression of a tree, and the flags in force behind it. -/
def Tree.resolve : Tree → Modes → Option (Expr × Modes)
  | .empty, m => some (.empty, m)
  | .flags settings, m => some (.empty, m.set settings)
  | .literal c byte, m => (resolveLiteral m c byte).map (·, m)
  | .dot, m => (resolveDot m).map (·, m)
  | .assertion a, m => some (.look (resolveAssertion m a), m)
  | .property query negated, m => (query.resolve m negated).map fun a => (.chars a, m)
  | .letter name negated, m => (name.class? m negated).map fun a => (.chars a, m)
  | .bracket negated set, m =>
      ((set.resolve m).bind (m.close? negated)).map fun a => (.chars a, m)
  | .repetition least most t, m =>
      (t.resolve m).map fun (e, m) => (.repeatOf least most e, m)
  | .group settings t, m => (t.resolve (m.set settings)).map fun (e, _) => (e, m)
  | .alternation branches, m =>
      (Tree.resolveAll branches m).map fun (es, m) => (.choice es, m)
  | .concat parts, m => (Tree.resolveAll parts m).map fun (es, m) => (.sequence es, m)

/-- The expressions of trees, read in order. -/
def Tree.resolveAll : List Tree → Modes → Option (List Expr × Modes)
  | [], m => some ([], m)
  | t :: ts, m => do
      let (e, m) ← t.resolve m
      let (es, m) ← Tree.resolveAll ts m
      return (e :: es, m)

end

/-- The expression of a text. -/
def Expr.read (source : String) : Option Expr := do
  let t ← Tree.read source
  let (e, _) ← t.resolve {}
  return e

end Pattern
end DataContract
