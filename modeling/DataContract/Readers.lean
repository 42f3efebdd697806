import DataContract.Pattern.Expr
/-!
# Readers of texts

Addresses, points in time and patterns are written as texts, and what a text stands for is the
business of a reader.  Schemas are the same for all readers: which texts are valid, what is
stored for them and which patterns there are is said for any readers, and everything that is
proved of schemas holds whatever the readers say.  A reader is a function of its text and
nothing else.
-/

namespace DataContract

/-- An address, by the text of its normal form. -/
structure Uri where
  text : String
deriving DecidableEq, Repr

/-- A point in time: seconds from the beginning of 1970, and nanoseconds. -/
structure Moment where
  seconds : Int
  nanos : Nat
deriving DecidableEq, Repr

/-- A point in time and the offset, in seconds to the east, at which it was written. -/
structure ZonedMoment where
  moment : Moment
  offset : Int
deriving DecidableEq, Repr

/-- How texts are read.  A text that stands for nothing has words for the reason. -/
structure Readers where
  /-- The address of a text. -/
  uri : String → Except String Uri
  /-- The point in time of a text. -/
  timestamp : String → Except String ZonedMoment
  /-- The expression that the text of a pattern stands for, if the text is compiled. -/
  compile : String → Option Pattern.Expr
  /-- Whether an expression is found in a text. -/
  finds : Pattern.Expr → String → Bool

variable {R : Readers}

/-- The text of a pattern, with the expression that it is compiled to. -/
structure Pattern (R : Readers) where
  source : String
  expr : Pattern.Expr
  compiled : R.compile source = some expr

namespace Pattern

/-- The pattern of a text. -/
def compile? (source : String) : Option (Pattern R) :=
  match h : R.compile source with
  | some expr => some ⟨source, expr, h⟩
  | none => none

/-- Whether a pattern is found in a text. -/
def isMatch (p : Pattern R) (text : String) : Bool := R.finds p.expr text

/-- What was compiled once is compiled again. -/
theorem compile?_source (p : Pattern R) : compile? p.source = some p := by
  obtain ⟨s, e, he⟩ := p
  unfold compile?
  split
  · next expr h =>
      rw [he] at h
      cases h
      rfl
  · next h => rw [he] at h; cases h

end Pattern
end DataContract
