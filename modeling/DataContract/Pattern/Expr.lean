import DataContract.Pattern.CharClass
/-!
# Pattern expressions

What a pattern means, once flags and names are resolved: classes of characters,
conditions on positions, sequence, choice and repetition.
-/

namespace DataContract
namespace Pattern

/-- A condition on a position.  Word conditions say which characters make words. -/
inductive Look where
  | textStart
  | textEnd
  | lineStart
  | lineEnd
  /-- As `lineStart`, where a carriage return and line feed end a line together. -/
  | crlfLineStart
  | crlfLineEnd
  | boundary (letters : CharClass)
  | notBoundary (letters : CharClass)
  | wordStart (letters : CharClass)
  | wordEnd (letters : CharClass)
  | wordStartHalf (letters : CharClass)
  | wordEndHalf (letters : CharClass)

/-- A pattern expression. -/
inductive Expr where
  | empty
  | chars (class_ : CharClass)
  | look (look : Look)
  | concat (a b : Expr)
  | either (a b : Expr)
  | repeated (least : Nat) (most : Option Nat) (e : Expr)

namespace Look

/-- Whether a character on one side of a position belongs to a word. -/
def inWord (letters : CharClass) (side : Option Char) : Bool :=
  (side.map letters.contains).getD false

/-- Whether the condition holds between the character before and the one after. -/
def holds (before after : Option Char) : Look → Bool
  | .textStart => before.isNone
  | .textEnd => after.isNone
  | .lineStart => before.isNone || before == some '\n'
  | .lineEnd => after.isNone || after == some '\n'
  | .crlfLineStart =>
      before.isNone || before == some '\n' || (before == some '\r' && after != some '\n')
  | .crlfLineEnd =>
      after.isNone || after == some '\r' || (after == some '\n' && before != some '\r')
  | .boundary letters => inWord letters before != inWord letters after
  | .notBoundary letters => inWord letters before == inWord letters after
  | .wordStart letters => !inWord letters before && inWord letters after
  | .wordEnd letters => inWord letters before && !inWord letters after
  | .wordStartHalf letters => !inWord letters before
  | .wordEndHalf letters => !inWord letters after

end Look

namespace Expr

/-- One character. -/
def single (c : Char) : Expr := .chars (.single c)

/-- Expressions one after the other. -/
def sequence : List Expr → Expr
  | [] => .empty
  | [e] => e
  | e :: es => .concat e (sequence es)

/-- A choice among expressions. -/
def choice : List Expr → Expr
  | [] => .chars .none
  | [e] => e
  | e :: es => .either e (choice es)

/-- Whether the expression takes no characters. -/
def isZeroWidth : Expr → Bool
  | .empty => true
  | .chars _ => false
  | .look _ => true
  | .concat a b => a.isZeroWidth && b.isZeroWidth
  | .either a b => a.isZeroWidth && b.isZeroWidth
  | .repeated _ most e => e.isZeroWidth || most == some 0

/-- A repetition.  To repeat what takes no characters is to do it at most once. -/
def repeatOf (least : Nat) (most : Option Nat) (e : Expr) : Expr :=
  if e.isZeroWidth then .repeated (min least 1) (some ((most.map (min · 1)).getD 1)) e
  else .repeated least most e

end Expr
end Pattern
end DataContract
