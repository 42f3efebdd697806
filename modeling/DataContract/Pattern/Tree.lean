/-!
# Pattern trees

The surface form of a pattern: what the text says, before the flags in force and the
names of properties are resolved.
-/

namespace DataContract
namespace Pattern

/-- A letter that changes how the rest of a group is read or matched. -/
inductive Flag where
  | caseInsensitive
  | multiLine
  | dotMatchesNewline
  | swapGreed
  | unicode
  | crlf
  | verbose
deriving DecidableEq, Repr

/-- Flags with the value that they are set to. -/
abbrev FlagSettings := List (Flag × Bool)

/-- The three classes with a letter of their own. -/
inductive LetterClass where
  | digit
  | space
  | word
deriving DecidableEq, Repr

/-- The classes named between colons. -/
inductive PosixClass where
  | alnum | alpha | ascii | blank | cntrl | digit | graph | lower | print | punct | space
  | upper | word | xdigit
deriving DecidableEq, Repr

/-- How a property is asked for. -/
inductive PropertyQuery where
  | letter (c : Char)
  | named (name : List Char)
  | valued (name value : List Char) (equal : Bool)
deriving DecidableEq, Repr

/-- The operations on classes. -/
inductive ClassOp where
  | intersection
  | difference
  | symmetricDifference
deriving DecidableEq, Repr

/-- A class in brackets.  A literal remembers whether it was written as a byte. -/
inductive ClassTree where
  | empty
  | literal (c : Char) (byte : Bool)
  | range (low high : Char) (lowByte highByte : Bool)
  | posix (name : PosixClass) (negated : Bool)
  | property (query : PropertyQuery) (negated : Bool)
  | letter (name : LetterClass) (negated : Bool)
  | bracket (negated : Bool) (set : ClassTree)
  | union (items : List ClassTree)
  | op (op : ClassOp) (left right : ClassTree)

/-- A condition on a position. -/
inductive Assertion where
  | lineStart
  | lineEnd
  | textStart
  | textEnd
  | wordBoundary
  | notWordBoundary
  | wordStart
  | wordEnd
  | wordStartHalf
  | wordEndHalf
deriving DecidableEq, Repr

/-- A pattern. -/
inductive Tree where
  | empty
  | flags (settings : FlagSettings)
  | literal (c : Char) (byte : Bool)
  | dot
  | assertion (a : Assertion)
  | property (query : PropertyQuery) (negated : Bool)
  | letter (name : LetterClass) (negated : Bool)
  | bracket (negated : Bool) (set : ClassTree)
  | repetition (least : Nat) (most : Option Nat) (t : Tree)
  | group (settings : FlagSettings) (t : Tree)
  | alternation (branches : List Tree)
  | concat (parts : List Tree)

mutual

/-- How deep classes are nested. -/
def ClassTree.depth : ClassTree → Nat
  | .bracket _ set => set.depth + 1
  | .union items => ClassTree.depths items + 1
  | .op _ left right => max left.depth right.depth + 1
  | _ => 0

/-- The depth of the deepest class. -/
def ClassTree.depths : List ClassTree → Nat
  | [] => 0
  | item :: items => max item.depth (ClassTree.depths items)

end

mutual

/-- How deep a pattern is nested. -/
def Tree.depth : Tree → Nat
  | .bracket _ set => set.depth + 1
  | .repetition _ _ t => t.depth + 1
  | .group _ t => t.depth + 1
  | .alternation branches => Tree.depths branches + 1
  | .concat parts => Tree.depths parts + 1
  | _ => 0

/-- The depth of the deepest pattern. -/
def Tree.depths : List Tree → Nat
  | [] => 0
  | t :: ts => max t.depth (Tree.depths ts)

end

namespace ClassTree

/-- The union of items; a single item stands for itself. -/
def ofItems : List ClassTree → ClassTree
  | [] => .empty
  | [item] => item
  | items => .union items

end ClassTree

namespace Tree

/-- The concatenation of parts; a single part stands for itself. -/
def ofParts : List Tree → Tree
  | [] => .empty
  | [part] => part
  | parts => .concat parts

end Tree

end Pattern
end DataContract
