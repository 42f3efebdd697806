import DataContract.Pattern.Expr
/-!
# Matching

A text of `n` characters has `n + 1` positions, and a set of positions is a list of
`n + 1` marks.  An expression sends the positions where it may begin to those where it
may end.  It occurs in the text if it may end anywhere when it may begin anywhere.
-/

namespace DataContract
namespace Pattern

/-- A set of positions: one mark for each position, in order. -/
abbrev Marks := List Bool

namespace Marks

/-- Positions in one of two sets. -/
def union (a b : Marks) : Marks := List.zipWith (· || ·) a b

/-- Whether there is a position in the set. -/
def any (a : Marks) : Bool := List.any a id

/-- The positions behind the marked characters that belong to a class. -/
def advance (test : Char → Bool) (text : List Char) (a : Marks) : Marks :=
  false :: List.zipWith (fun c mark => mark && test c) text a

/-- The neighbours of every position. -/
def neighbours (before : Option Char) : List Char → List (Option Char × Option Char)
  | [] => [(before, none)]
  | c :: cs => (before, some c) :: neighbours (some c) cs

/-- The marked positions where a condition holds. -/
def restrict (look : Look) (text : List Char) (a : Marks) : Marks :=
  List.zipWith (fun side mark => mark && look.holds side.1 side.2) (neighbours none text) a

/-- Take a step a number of times. -/
def iterate (step : Marks → Marks) : Nat → Marks → Marks
  | 0, a => a
  | count + 1, a => if a.any then iterate step count (step a) else a

/-- Collect the positions that at most `count` steps reach.  Positions that are known
already are not followed again. -/
def collect (step : Marks → Marks) : Nat → Marks → Marks → Marks
  | 0, known, _ => known
  | count + 1, known, fresh =>
      let next : Marks := List.zipWith (fun mark seen => mark && !seen) (step fresh) known
      if next.any then collect step count (known.union next) next else known

end Marks

namespace Expr

/-- The positions where an expression may end when it begins at a marked one.  A
repetition without a bound reaches every position within one step for each position. -/
def reach (text : List Char) : Expr → Marks → Marks
  | .empty, a => a
  | .chars set, a => a.advance set.contains text
  | .look condition, a => a.restrict condition text
  | .concat e f, a => f.reach text (e.reach text a)
  | .either e f, a => (e.reach text a).union (f.reach text a)
  | .repeated least most e, a =>
      let start := Marks.iterate (e.reach text) least a
      let more := (most.map (· - least)).getD (text.length + 1)
      Marks.collect (e.reach text) (min more (text.length + 1)) start start

/-- Whether an expression occurs in a text. -/
def occursIn (e : Expr) (text : List Char) : Bool :=
  (e.reach text (List.replicate (text.length + 1) true)).any

end Expr
end Pattern
end DataContract
