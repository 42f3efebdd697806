import DataContract.Duration
import DataContract.Number.Decimal
import DataContract.Text
import DataContract.Value
/-!
# Issues

An issue is a cause at a path.  A report lists the issues of a value in the order in which
they are found; a value without issues is valid.

A path leads from a value to a part of it, by names of entries and places of items.  A name
that is an identifier is written behind a dot, every other name in brackets and quotes, and a
place in brackets.  The words for a cause hold a mark for the path, which is known only when
the issue is shown.
-/

namespace DataContract

/-- One step of a path. -/
inductive Segment where
  | key (name : String)
  | index (place : Nat)
deriving DecidableEq, Repr

/-- The steps that lead to a part of a value, the outermost first. -/
abbrev Path := List Segment

namespace Segment

/-- Whether a character may stand at the start of an identifier. -/
def isInitial (c : Char) : Bool := c.isAlpha || c == '_'

/-- Whether a name is an identifier: letters, digits and underscores of the basic set,
the first of them no digit. -/
def isIdentifier (name : List Char) : Bool :=
  match name with
  | [] => false
  | c :: cs => isInitial c && cs.all fun c => isInitial c || c.isDigit

/-- The text of a step. -/
def render : Segment → String
  | .key name =>
      if isIdentifier name.toList then "." ++ name else "[" ++ Quoted.encode name ++ "]"
  | .index place => "[" ++ toString place ++ "]"

/-- The part of a value one step away. -/
def follow? : Segment → Value → Option Value
  | .key name, .object entries => Entries.get? entries name
  | .index place, .array items => items[place]?
  | _, _ => none

end Segment

namespace Path

/-- The text of a path. -/
def render (path : Path) : String := String.join (path.map Segment.render)

/-- The part of a value at the end of a path. -/
def follow? : Path → Value → Option Value
  | [], v => some v
  | segment :: path, v => (segment.follow? v).bind (follow? path)

@[simp] theorem render_nil : render [] = "" := rfl

end Path

/-- What is wrong with a value. -/
inductive Cause where
  | notInteger
  | integerBelow (n bound : Int)
  | integerAbove (n bound : Int)
  | notNumber
  | numberBelow (x bound : Double)
  | numberAbove (x bound : Double)
  | notBoolean
  | notString
  | stringShort (s : String) (bound : Nat)
  | stringLong (s : String) (bound : Nat)
  | stringUnmatched (s pattern : String)
  | stringUnlisted (s : String) (options : List String)
  | uriFault (s reason : String)
  | notUri
  | timestampFault (s reason : String)
  | notTimestamp
  | durationFault (s : String) (fault : Duration.Fault)
  | durationFraction
  | durationRange (n : Int)
  | notDuration
  | notArray
  | duplicateItems
  | notObject
  | unknownName (name : String)
  | missingName (name : String)
  | missingEntry
  | noBranch
  | branchCount (count : Nat)
deriving DecidableEq

namespace Cause

/-- The mark that stands for the path. -/
def pathMark : String := "\x7bpath\x7d"

/-- The words for a cause, with a mark for the path. -/
def template : Cause → String
  | .notInteger => "Expected an integer at " ++ pathMark
  | .integerBelow n bound =>
      "Integer " ++ toString n ++ " at " ++ pathMark ++ " is less than minimum " ++ toString bound
  | .integerAbove n bound =>
      "Integer " ++ toString n ++ " at " ++ pathMark ++ " is larger than maximum " ++
        toString bound
  | .notNumber => "Expected a number at " ++ pathMark
  | .numberBelow x bound =>
      "Number " ++ x.text ++ " at " ++ pathMark ++ " is less than minimum " ++ bound.text
  | .numberAbove x bound =>
      "Number " ++ x.text ++ " at " ++ pathMark ++ " is larger than maximum " ++ bound.text
  | .notBoolean => "Expected a boolean at " ++ pathMark
  | .notString => "Expected a string at " ++ pathMark
  | .stringShort s bound =>
      "String '" ++ s ++ "' at " ++ pathMark ++ " is shorter than minimum " ++ toString bound ++
        " length allowed"
  | .stringLong s bound =>
      "String '" ++ s ++ "' at " ++ pathMark ++ " is longer than maximum " ++ toString bound ++
        " length allowed"
  | .stringUnmatched s pattern =>
      "String '" ++ s ++ "' at " ++ pathMark ++ " doesn't match regular expression '" ++ pattern ++
        "'"
  | .stringUnlisted s options =>
      "Value '" ++ s ++ "' at " ++ pathMark ++ " is not valid for the enum with options: " ++
        Literal.encodeList options
  | .uriFault s reason =>
      "String '" ++ s ++ "' at " ++ pathMark ++ " is not a valid URI: " ++ reason
  | .notUri => "Expected a URI at " ++ pathMark
  | .timestampFault s reason =>
      "String '" ++ s ++ "' at " ++ pathMark ++ " is not a valid RFC 3339 date-time: " ++ reason
  | .notTimestamp => "Expected a date-time at " ++ pathMark
  | .durationFault s fault =>
      "String '" ++ s ++ "' at " ++ pathMark ++ " is not a valid duration: " ++ fault.message
  | .durationFraction => "Expected a whole number of seconds at " ++ pathMark
  | .durationRange n => "Duration " ++ toString n ++ " at " ++ pathMark ++ " is out of range"
  | .notDuration => "Expected a duration string or number at " ++ pathMark
  | .notArray => "Expected an array at " ++ pathMark
  | .duplicateItems => "Array at " ++ pathMark ++ " contains duplicate items"
  | .notObject => "Expected object type at " ++ pathMark
  | .unknownName name => "Additional property '" ++ name ++ "' not allowed at " ++ pathMark
  | .missingName name => "Required property '" ++ name ++ "' is missing at " ++ pathMark
  | .missingEntry => "Missing entry at " ++ pathMark
  | .noBranch => "No schema in anyOf to match the value at " ++ pathMark
  | .branchCount count =>
      "Expected exactly one schema in oneOf to match the value at " ++ pathMark ++ ", but " ++
        toString count ++ " matched"

end Cause

/-- A cause at a place of a value. -/
structure Issue where
  path : Path
  cause : Cause
deriving DecidableEq

/-- The issues of a value, in order. -/
abbrev Report := List Issue

namespace Issue

/-- An issue of the value itself. -/
def here (cause : Cause) : Issue := ⟨[], cause⟩

/-- The issue as seen from one step above. -/
def under (segment : Segment) (issue : Issue) : Issue :=
  { issue with path := segment :: issue.path }

/-- The name of the whole value when none is given. -/
def defaultRoot : String := "root"

/-- The text of the path from the root. -/
def place (root : String) (issue : Issue) : String :=
  (if root.isEmpty then defaultRoot else root) ++ issue.path.render

/-- The words for the issue, with its place. -/
def message (root : String) (issue : Issue) : String :=
  substitute Cause.pathMark (issue.place root) issue.cause.template

end Issue

namespace Report

/-- The report of one cause at the value itself. -/
def single (cause : Cause) : Report := [.here cause]

/-- The report as seen from one step above. -/
def under (segment : Segment) (report : Report) : Report := report.map (Issue.under segment)

/-- Nothing for a report without issues, and any other report as an error. -/
def result : Report → Except Report Unit
  | [] => .ok ()
  | issue :: issues => .error (issue :: issues)

theorem result_eq_ok_iff {report : Report} : report.result = .ok () ↔ report = [] := by
  cases report with
  | nil => simp [result]
  | cons issue issues => simp [result]

theorem result_of_ne_nil {report : Report} (h : report ≠ []) : report.result = .error report := by
  cases report with
  | nil => exact absurd rfl h
  | cons issue issues => rfl

/-- The number of issues and a line for each of them. -/
def render (report : Report) : String :=
  "validation failed with " ++ toString report.length ++ " issue(s)" ++
    String.join (report.map fun issue => "\n  " ++ issue.message Issue.defaultRoot)

end Report

end DataContract
