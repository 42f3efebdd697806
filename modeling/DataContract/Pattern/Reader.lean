import DataContract.Pattern.Tree
import DataContract.Text
import DataContract.Text.Unicode.Property
/-!
# Reading patterns

The text is read from left to right.  Groups and alternatives under way stand on a
stack, and so do the classes in brackets.  In verbose mode blanks and comments between
the elements are skipped.  A text outside the language has no tree.
-/

namespace DataContract
namespace Pattern
namespace Reader

/-- Skip blanks and comments; `inComment` says whether a comment is open. -/
def skipBlanks (inComment : Bool) : List Char → List Char
  | [] => []
  | c :: cs =>
      if inComment then skipBlanks (c != '\n') cs
      else if isBlank c then skipBlanks false cs
      else if c = '#' then skipBlanks true cs
      else c :: cs

/-- Skip blanks and comments in verbose mode. -/
def space (verbose : Bool) (cs : List Char) : List Char :=
  if verbose then skipBlanks false cs else cs

/-- The characters up to a closing brace and what follows it. -/
def untilBrace (verbose inComment : Bool) (read : List Char) :
    List Char → Option (List Char × List Char)
  | [] => none
  | c :: cs =>
      if inComment then untilBrace verbose (c != '\n') read cs
      else if verbose && isBlank c then untilBrace verbose false read cs
      else if verbose && c == '#' then untilBrace verbose true read cs
      else if c = '\x7d' then some (read.reverse, cs)
      else untilBrace verbose false (c :: read) cs

/-- What an escape stands for. -/
inductive Primitive where
  | literal (c : Char) (byte : Bool)
  | assertion (a : Assertion)
  | property (query : PropertyQuery) (negated : Bool)
  | letter (name : LetterClass) (negated : Bool)

/-- The characters with a meaning of their own. -/
def isMeta (c : Char) : Bool :=
  ['\\', '.', '+', '*', '?', '(', ')', '|', '[', ']', '\x7b', '\x7d', '^', '$', '#', '&',
    '-', '~'].contains c

/-- The characters that a backslash makes literal: every character of the basic set but
letters, digits and angle brackets. -/
def isEscapable (c : Char) : Bool :=
  isMeta c || (c.toNat < 128 && !c.isAlphanum && c != '<' && c != '>')

/-- The character of a code point, which must not be a surrogate. -/
def charOfCode? (code : Nat) : Option Char :=
  if code < 0xD800 ∨ (0xE000 ≤ code ∧ code < 0x110000) then some (Char.ofNat code) else none

/-- The code point of hexadecimal digits. -/
def codeOfDigits? (digits : List Char) : Option Nat :=
  digits.foldlM (fun n c => (hexValue? c).map fun d => 16 * n + d) 0

/-- A given number of hexadecimal digits. -/
def fixedDigits (verbose : Bool) : Nat → List Char → Option (List Char × List Char)
  | 0, cs => some ([], cs)
  | count + 1, cs => do
      match space verbose cs with
      | [] => none
      | c :: rest =>
          let (digits, rest) ← fixedDigits verbose count rest
          return (c :: digits, rest)

/-- A character by its code point, after the letter `x`, `u` or `U`. -/
def hexEscape (verbose : Bool) (width : Nat) (cs : List Char) :
    Option (Primitive × List Char) := do
  match space verbose cs with
  | '\x7b' :: rest =>
      let (digits, rest) ← untilBrace verbose false [] rest
      if digits.isEmpty then none
      let c ← charOfCode? (← codeOfDigits? digits)
      return (.literal c false, space verbose rest)
  | cs =>
      let (digits, rest) ← fixedDigits verbose width cs
      let c ← charOfCode? (← codeOfDigits? digits)
      return (.literal c (width == 2), space verbose rest)

/-- Split at the first place where a separator stands. -/
def splitAtFirst (separator : List Char) : List Char → Option (List Char × List Char)
  | [] => if separator.isEmpty then some ([], []) else none
  | c :: cs =>
      if separator.isPrefixOf (c :: cs) then some ([], (c :: cs).drop separator.length)
      else (splitAtFirst separator cs).map fun (before, after) => (c :: before, after)

/-- The query of a name in braces. -/
def queryOfName (name : List Char) : PropertyQuery :=
  match splitAtFirst ['!', '='] name with
  | some (name, value) => .valued name value false
  | none =>
      match splitAtFirst [':'] name with
      | some (name, value) => .valued name value true
      | none =>
          match splitAtFirst ['='] name with
          | some (name, value) => .valued name value true
          | none => .named name

/-- A property, after the letter `p`. -/
def propertyEscape (verbose negated : Bool) (cs : List Char) :
    Option (Primitive × List Char) := do
  match space verbose cs with
  | [] => none
  | '\x7b' :: rest =>
      let (name, rest) ← untilBrace verbose false [] rest
      return (.property (queryOfName name) negated, rest)
  | c :: rest =>
      if c = '\\' then none else return (.property (.letter c) negated, space verbose rest)

/-- Whether a character may stand in the name of a word boundary. -/
def isBoundaryLetter (c : Char) : Bool := c.isAlpha || c == '-'

/-- A word boundary, after the letter `b`: a name in braces may follow. -/
def boundaryEscape (verbose : Bool) (cs : List Char) : Option (Primitive × List Char) := do
  match cs with
  | '\x7b' :: rest =>
      let (name, after) ← untilBrace verbose false [] rest
      if (name.head?.map isBoundaryLetter).getD false then
        let assertion ←
          match String.ofList name with
          | "start" => some Assertion.wordStart
          | "end" => some Assertion.wordEnd
          | "start-half" => some Assertion.wordStartHalf
          | "end-half" => some Assertion.wordEndHalf
          | _ => none
        return (.assertion assertion, after)
      else return (.assertion .wordBoundary, cs)
  | _ => return (.assertion .wordBoundary, cs)

/-- An escape, after the backslash. -/
def escape (verbose : Bool) : List Char → Option (Primitive × List Char)
  | [] => none
  | c :: cs =>
      match c with
      | 'x' => hexEscape verbose 2 cs
      | 'u' => hexEscape verbose 4 cs
      | 'U' => hexEscape verbose 8 cs
      | 'p' => propertyEscape verbose false cs
      | 'P' => propertyEscape verbose true cs
      | 'd' => some (.letter .digit false, cs)
      | 's' => some (.letter .space false, cs)
      | 'w' => some (.letter .word false, cs)
      | 'D' => some (.letter .digit true, cs)
      | 'S' => some (.letter .space true, cs)
      | 'W' => some (.letter .word true, cs)
      | 'a' => some (.literal (Char.ofNat 7) false, cs)
      | 'f' => some (.literal (Char.ofNat 12) false, cs)
      | 't' => some (.literal '\t' false, cs)
      | 'n' => some (.literal '\n' false, cs)
      | 'r' => some (.literal '\r' false, cs)
      | 'v' => some (.literal (Char.ofNat 11) false, cs)
      | 'A' => some (.assertion .textStart, cs)
      | 'z' => some (.assertion .textEnd, cs)
      | 'b' => boundaryEscape verbose cs
      | 'B' => some (.assertion .notWordBoundary, cs)
      | '<' => some (.assertion .wordStart, cs)
      | '>' => some (.assertion .wordEnd, cs)
      | _ => if isEscapable c then some (.literal c false, cs) else none

/-- A class or an operation under way.  Items are kept in reverse. -/
inductive ClassFrame where
  | bracket (items : List ClassTree) (negated : Bool)
  | op (op : ClassOp) (left : ClassTree)

/-- The class of a name between colons. -/
def posixOfName? (name : List Char) : Option PosixClass :=
  match String.ofList name with
  | "alnum" => some .alnum
  | "alpha" => some .alpha
  | "ascii" => some .ascii
  | "blank" => some .blank
  | "cntrl" => some .cntrl
  | "digit" => some .digit
  | "graph" => some .graph
  | "lower" => some .lower
  | "print" => some .print
  | "punct" => some .punct
  | "space" => some .space
  | "upper" => some .upper
  | "word" => some .word
  | "xdigit" => some .xdigit
  | _ => none

/-- A class named between colons, after the opening bracket. -/
def posixClass? : List Char → Option (ClassTree × List Char)
  | ':' :: cs => do
      let (negated, cs) :=
        match cs with
        | '^' :: rest => (true, rest)
        | _ => (false, cs)
      let name := cs.takeWhile (· != ':')
      match cs.dropWhile (· != ':') with
      | ':' :: ']' :: rest => return (.posix (← posixOfName? name) negated, rest)
      | _ => none
  | _ => none

/-- The hyphens at the start of a class; something must follow them. -/
def leadingHyphens (verbose : Bool) :
    Nat → List ClassTree → List Char → Option (List ClassTree × List Char)
  | 0, _, _ => none
  | fuel + 1, items, cs =>
      match cs with
      | [] => none
      | '-' :: rest =>
          leadingHyphens verbose fuel (.literal '-' false :: items) (space verbose rest)
      | _ => some (items, cs)

/-- The start of a class, after the opening bracket: negation, hyphens and a closing
bracket that stands for itself. -/
def openClass (verbose : Bool) (cs : List Char) :
    Option (Bool × List ClassTree × List Char) := do
  let cs := space verbose cs
  let (negated, cs) :=
    match cs with
    | '^' :: rest => (true, space verbose rest)
    | _ => (false, cs)
  let (items, cs) ← leadingHyphens verbose (cs.length + 1) [] cs
  match items, cs with
  | [], ']' :: rest =>
      let rest := space verbose rest
      if rest.isEmpty then none else return (negated, [.literal ']' false], rest)
  | _, _ => return (negated, items, cs)

/-- One element of a class. -/
def classPrimitive (verbose : Bool) : List Char → Option (Primitive × List Char)
  | [] => none
  | '\\' :: cs => escape verbose cs
  | c :: cs => some (.literal c false, cs)

/-- An element as an item of a class: assertions are none. -/
def itemOfPrimitive : Primitive → Option ClassTree
  | .literal c byte => some (.literal c byte)
  | .property query negated => some (.property query negated)
  | .letter name negated => some (.letter name negated)
  | .assertion _ => none

/-- An item or a range. -/
def classRange (verbose : Bool) (cs : List Char) : Option (ClassTree × List Char) := do
  let (first, cs) ← classPrimitive verbose cs
  let cs := space verbose cs
  match cs with
  | [] => none
  | '-' :: rest =>
      let ahead := (space verbose rest).head?
      if ahead == some ']' || ahead == some '-' then return (← itemOfPrimitive first, cs)
      let (second, rest) ← classPrimitive verbose (space verbose rest)
      match first, second with
      | .literal low lowByte, .literal high highByte =>
          if low ≤ high then return (.range low high lowByte highByte, rest) else none
      | _, _ => none
  | _ => return (← itemOfPrimitive first, cs)

/-- Complete the operation on top of the stack. -/
def closeOp (right : ClassTree) : List ClassFrame → ClassTree × List ClassFrame
  | .op op left :: frames => (.op op left right, frames)
  | frames => (right, frames)

/-- Read a class to its closing bracket. -/
def classLoop (verbose : Bool) :
    Nat → List ClassFrame → List ClassTree → List Char → Option (Tree × List Char)
  | 0, _, _, _ => none
  | fuel + 1, frames, items, cs =>
      let operation (op : ClassOp) (rest : List Char) :=
        let (left, frames) := closeOp (.ofItems items.reverse) frames
        classLoop verbose fuel (.op op left :: frames) [] rest
      match space verbose cs with
      | [] => none
      | '[' :: rest =>
          match posixClass? rest with
          | some (item, rest) => classLoop verbose fuel frames (item :: items) rest
          | none => do
              let (negated, inner, rest) ← openClass verbose rest
              classLoop verbose fuel (.bracket items negated :: frames) inner rest
      | ']' :: rest =>
          match closeOp (.ofItems items.reverse) frames with
          | (set, [.bracket _ negated]) => some (.bracket negated set, rest)
          | (set, .bracket outer negated :: frames) =>
              classLoop verbose fuel frames (.bracket negated set :: outer) rest
          | _ => none
      | '&' :: '&' :: rest => operation .intersection rest
      | '-' :: '-' :: rest => operation .difference rest
      | '~' :: '~' :: rest => operation .symmetricDifference rest
      | cs => do
          let (item, rest) ← classRange verbose cs
          classLoop verbose fuel frames (item :: items) rest

/-- A class, after its opening bracket. -/
def bracketClass (verbose : Bool) (cs : List Char) : Option (Tree × List Char) := do
  let (negated, items, rest) ← openClass verbose cs
  classLoop verbose (rest.length + 1) [.bracket [] negated] items rest

/-- The flag of a letter. -/
def flagOf? (c : Char) : Option Flag :=
  match c with
  | 'i' => some .caseInsensitive
  | 'm' => some .multiLine
  | 's' => some .dotMatchesNewline
  | 'U' => some .swapGreed
  | 'u' => some .unicode
  | 'R' => some .crlf
  | 'x' => some .verbose
  | _ => none

/-- Flags up to the colon or parenthesis that ends them.  A flag occurs once, and one
minus may stand before a flag. -/
def flagSettings (settings : FlagSettings) (negated lastNegated : Bool) :
    List Char → Option (FlagSettings × Char × List Char)
  | [] => none
  | c :: cs =>
      if c = ':' ∨ c = ')' then
        if lastNegated then none else some (settings, c, cs)
      else if c = '-' then
        if negated then none else flagSettings settings true true cs
      else
        match flagOf? c with
        | none => none
        | some flag =>
            if settings.any fun setting => setting.1 == flag then none
            else flagSettings (settings ++ [(flag, !negated)]) negated false cs

/-- Whether a character may stand in the name of a group. -/
def isNameChar (isFirst : Bool) (c : Char) : Bool :=
  c == '_' || Unicode.hasProperty "alphabetic" c ||
    (!isFirst && (c == '.' || c == '[' || c == ']' ||
      Unicode.inCategories [.decimalNumber, .letterNumber, .otherNumber] c))

/-- The name of a group up to its closing angle bracket. -/
def groupName (cs : List Char) : Option (List Char × List Char) :=
  match cs.takeWhile (· != '>'), cs.dropWhile (· != '>') with
  | first :: rest, _ :: after =>
      if isNameChar true first && rest.all (isNameChar false) then some (first :: rest, after)
      else none
  | _, _ => none

/-- A group or alternatives under way.  Parts and branches are kept in reverse. -/
inductive Frame where
  | group (parts : List Tree) (settings : FlagSettings) (verbose : Bool)
  | alternation (branches : List Tree)

/-- The reader's state. -/
structure State where
  verbose : Bool
  names : List (List Char)
  parts : List Tree
  frames : List Frame

namespace State

/-- Add a part. -/
def push (s : State) (t : Tree) : State := { s with parts := t :: s.parts }

/-- The parts read so far. -/
def concat (s : State) : Tree := .ofParts s.parts.reverse

/-- Open a group. -/
def openGroup (s : State) (settings : FlagSettings) : State :=
  { s with
    verbose := (settings.lookup .verbose).getD s.verbose
    parts := []
    frames := .group s.parts settings s.verbose :: s.frames }

/-- Begin the next alternative. -/
def nextBranch (s : State) : State :=
  match s.frames with
  | .alternation branches :: frames =>
      { s with parts := [], frames := .alternation (s.concat :: branches) :: frames }
  | frames => { s with parts := [], frames := .alternation [s.concat] :: frames }

/-- The alternatives and parts since the group was opened, and the frames below. -/
def body (s : State) : Tree × List Frame :=
  match s.frames with
  | .alternation branches :: frames =>
      (.alternation (s.concat :: branches).reverse, frames)
  | frames => (s.concat, frames)

/-- Close a group. -/
def closeGroup (s : State) : Option State :=
  match s.body with
  | (t, .group parts settings verbose :: frames) =>
      some { s with verbose, parts := .group settings t :: parts, frames }
  | _ => none

/-- The whole pattern. -/
def finish (s : State) : Option Tree :=
  match s.body with
  | (t, []) => some t
  | _ => none

/-- Repeat the last part. -/
def repeatLast (s : State) (least : Nat) (most : Option Nat) : Option State :=
  match s.parts with
  | [] => none
  | .flags _ :: _ => none
  | part :: parts => some { s with parts := .repetition least most part :: parts }

end State

/-- The number between blanks. -/
def count? (cs : List Char) : Option Nat :=
  let digits := ((cs.dropWhile isBlank).reverse.dropWhile isBlank).reverse
  if digits.isEmpty || !digits.all Char.isDigit then none
  else
    let n := digits.foldl (fun n c => 10 * n + (c.toNat - '0'.toNat)) 0
    if n < 0x100000000 then some n else none

/-- The bounds of a counted repetition. -/
def bounds? (cs : List Char) : Option (Nat × Option Nat) := do
  match splitAtFirst [','] cs with
  | none =>
      let n ← count? cs
      return (n, some n)
  | some (least, []) => return (← count? least, none)
  | some (least, most) =>
      let least ← count? least
      let most ← count? most
      if least ≤ most then return (least, some most) else none

/-- Drop the mark of a reluctant repetition. -/
def dropReluctant : List Char → List Char
  | '?' :: cs => cs
  | cs => cs

/-- A group, after its opening parenthesis. -/
def group (s : State) (cs : List Char) : Option (State × List Char) :=
  let named (cs : List Char) : Option (State × List Char) := do
    let (name, rest) ← groupName cs
    if s.names.contains name then none
    return (State.openGroup { s with names := name :: s.names } [], rest)
  match space s.verbose cs with
  | '?' :: '=' :: _ => none
  | '?' :: '!' :: _ => none
  | '?' :: '<' :: '=' :: _ => none
  | '?' :: '<' :: '!' :: _ => none
  | '?' :: 'P' :: '<' :: rest => named rest
  | '?' :: '<' :: rest => named rest
  | '?' :: rest => do
      let (settings, terminator, rest) ← flagSettings [] false false rest
      if terminator = ':' then return (s.openGroup settings, rest)
      if settings.isEmpty then none
      let verbose := (settings.lookup .verbose).getD s.verbose
      return ({ s with verbose, parts := .flags settings :: s.parts }, rest)
  | cs => some (s.openGroup [], cs)

/-- An escape outside classes as a tree. -/
def treeOfPrimitive : Primitive → Tree
  | .literal c byte => .literal c byte
  | .assertion a => .assertion a
  | .property query negated => .property query negated
  | .letter name negated => .letter name negated

/-- One element of a pattern. -/
def element (s : State) : List Char → Option (State × List Char)
  | [] => none
  | c :: cs =>
      match c with
      | '(' => group s cs
      | ')' => do return (← s.closeGroup, cs)
      | '|' => some (s.nextBranch, cs)
      | '[' => do
          let (t, rest) ← bracketClass s.verbose cs
          return (s.push t, rest)
      | '?' => do return (← s.repeatLast 0 (some 1), dropReluctant cs)
      | '*' => do return (← s.repeatLast 0 none, dropReluctant cs)
      | '+' => do return (← s.repeatLast 1 none, dropReluctant cs)
      | '\x7b' => do
          let (inside, rest) ← untilBrace s.verbose false [] cs
          let (least, most) ← bounds? inside
          return (← s.repeatLast least most, dropReluctant (space s.verbose rest))
      | '\\' => do
          let (primitive, rest) ← escape s.verbose cs
          return (s.push (treeOfPrimitive primitive), rest)
      | '.' => some (s.push .dot, cs)
      | '^' => some (s.push (.assertion .lineStart), cs)
      | '$' => some (s.push (.assertion .lineEnd), cs)
      | c => some (s.push (.literal c false), cs)

/-- Read elements to the end of the text; each takes at least one character. -/
def loop : Nat → State → List Char → Option Tree
  | 0, _, _ => none
  | fuel + 1, s, cs =>
      match space s.verbose cs with
      | [] => s.finish
      | cs => do
          let (s, rest) ← element s cs
          loop fuel s rest

end Reader

/-- The deepest nesting of a pattern. -/
def maxDepth : Nat := 250

/-- The tree of a pattern. -/
def Tree.read (text : String) : Option Tree := do
  let cs := text.toList
  let t ← Reader.loop (cs.length + 1) ⟨false, [], [], []⟩ cs
  if t.depth ≤ maxDepth then some t else none

end Pattern
end DataContract
