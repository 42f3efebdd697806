import DataContract.Pattern.Matching
import DataContract.Pattern.Resolve
import DataContract.Readers
import DataContract.Timestamp
import DataContract.Uri
/-!
# Standard readers

Readers for texts in the usual formats.  Names of hosts are taken as they are, in lower case,
so that addresses whose hosts have letters beyond the basic set need other readers.  A pattern
is not compiled when that would take too much memory.  How much it takes is only estimated, so
that a pattern near the limit may end up on the wrong side of it.
-/

namespace DataContract
namespace CharClass

/-- The members of the categories as a number of ranges. -/
def categorySpans (cs : List Unicode.Category) : Nat :=
  (Unicode.categoryRuns.foldl (fun (count, inside) run =>
    let here := cs.contains run.2
    (if here && !inside then count + 1 else count, here)) (0, false)).1

/-- An estimate of the number of ranges of a class. -/
def spans : CharClass → Nat
  | .ranges rs => rs.length
  | .blank => 10
  | .categories cs => categorySpans cs
  | .property p => categorySpans p.categories + p.more.length + p.less.length
  | .script code => (Unicode.scriptRuns.filter fun run => run.2 == code).length
  | .scripts code => (Unicode.scriptRuns.filter fun run => run.2 == code).length
  | .union a b => a.spans + b.spans
  | .inter a b => a.spans + b.spans
  | .complement a => a.spans + 1
  | .folded a => 2 * a.spans
  | .asciiFolded a => 2 * a.spans

end CharClass
namespace Pattern
namespace Expr

/-- An estimate of the memory of a class, in bytes. -/
def classWeight (a : CharClass) : Nat :=
  match a with
  | .ranges rs =>
      if rs.all fun r => decide (r.2 < 128) then 32 + 8 * rs.length else 240 + 60 * a.spans
  | _ => 240 + 60 * a.spans

/-- An estimate of the memory that an expression takes when it is compiled, in bytes. -/
def weight : Expr → Nat
  | .empty => 32
  | .chars a => classWeight a
  | .look _ => 32
  | .concat a b => a.weight + b.weight
  | .either a b => a.weight + b.weight + 40
  | .repeated least none e => max least 1 * e.weight + 40
  | .repeated least (some most) e => least * e.weight + (most - least) * (e.weight + 40)

/-- The most memory that an expression may take, in bytes. -/
def maxWeight : Nat := 10 * 0x100000

end Expr
end Pattern
namespace Readers

/-- The readers of addresses, timestamps and patterns in their usual formats. -/
def standard : Readers where
  uri text :=
    ((Uri.read Uri.Host.plainName? text).map fun p => ⟨p.render⟩).mapError Uri.Fault.message
  timestamp text := (Timestamp.read text).mapError Timestamp.Fault.message
  compile source := (Pattern.Expr.read source).filter fun e => e.weight ≤ Pattern.Expr.maxWeight
  finds e text := e.occursIn text.toList

end Readers
end DataContract
