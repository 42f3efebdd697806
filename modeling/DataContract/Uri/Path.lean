import DataContract.Text
/-!
# Paths of addresses

A path is read segment by segment.  A segment of one dot stands for the place itself, a
segment of two dots for the place above.  In the path of a file the letter of a drive is
not left again.

A character that may not stand in a part of an address is written byte by byte, each byte as
a percent sign and two hexadecimal digits.
-/

namespace DataContract

namespace Uri

/-- The bytes of a character, each behind a percent sign. -/
def percentEncode (c : Char) : List Char :=
  (String.singleton c).toUTF8.toList.flatMap fun byte =>
    ['%', upperHexDigit (byte.toNat / 16), upperHexDigit (byte.toNat % 16)]

/-- Encode the characters outside the basic set, the controls and a set of others. -/
def encode (others : List Char) (cs : List Char) : List Char :=
  cs.flatMap fun c =>
    if c.toNat < 32 || 127 ≤ c.toNat || others.contains c then percentEncode c else [c]

/-- In a fragment. -/
def fragmentSet : List Char := [' ', '"', '<', '>', '\x60']

/-- In a path. -/
def pathSet : List Char := '#' :: '?' :: '\x7b' :: '\x7d' :: fragmentSet

/-- In a user name or a password. -/
def userSet : List Char :=
  '/' :: ':' :: ';' :: '=' :: '@' :: '[' :: '\\' :: ']' :: '^' :: '|' :: pathSet

/-- In a query. -/
def querySet (special : Bool) : List Char :=
  if special then ['\'', ' ', '"', '#', '<', '>'] else [' ', '"', '#', '<', '>']

/-- The bytes of a text in which percent signs with two digits stand for bytes. -/
def percentDecode : List Char → List UInt8
  | '%' :: high :: low :: cs =>
      match hexValue? high, hexValue? low with
      | some h, some l => UInt8.ofNat (16 * h + l) :: percentDecode cs
      | _, _ => 37 :: percentDecode (high :: low :: cs)
  | c :: cs => (String.singleton c).toUTF8.toList ++ percentDecode cs
  | [] => []

end Uri

namespace Uri

/-- The schemes that are read in different ways. -/
inductive SchemeKind where
  | file
  | special
  | other
deriving DecidableEq, Repr

namespace SchemeKind

/-- Whether a backslash stands for a slash. -/
def isSpecial : SchemeKind → Bool
  | .other => false
  | _ => true

end SchemeKind

namespace Path

/-- Whether a segment stands for the place itself. -/
def isSingleDot (segment : List Char) : Bool :=
  let segment := segment.map Char.toLower
  segment == ['.'] || segment == ['%', '2', 'e']

/-- Whether a segment stands for the place above. -/
def isDoubleDot (segment : List Char) : Bool :=
  let segment := segment.map Char.toLower
  segment == ['.', '.'] || segment == ['.', '%', '2', 'e'] ||
    segment == ['%', '2', 'e', '.'] || segment == ['%', '2', 'e', '%', '2', 'e']

/-- The letter of a drive, with a colon or a bar. -/
def isDrive : List Char → Bool
  | [letter, mark] => letter.isAlpha && (mark == ':' || mark == '|')
  | _ => false

/-- The letter of a drive, with a colon. -/
def isNormalDrive : List Char → Bool
  | [letter, mark] => letter.isAlpha && mark == ':'
  | _ => false

/-- Whether a path, or what follows a slash in one, starts with the letter of a drive. -/
def startsWithDrive : List Char → Bool
  | '/' :: letter :: mark :: rest =>
      isDrive [letter, mark] && rest.head?.all fun c => c == '/' || c == '\\'
  | _ => false

/-- What stands before the last slash, and what behind it. -/
def splitLastSlash (path : List Char) : Option (List Char × List Char) :=
  let behind := (path.reverse.takeWhile (· != '/')).reverse
  match path.reverse.dropWhile (· != '/') with
  | _ :: before => some (before.reverse, behind)
  | [] => none

/-- Drop the slash at the end, unless it is the root or follows the letter of a drive. -/
def dropLastSlash (path : List Char) : List Char :=
  if path.getLast? == some '/' then
    match splitLastSlash path.dropLast with
    | some (_, segment) =>
        if startsWithDrive ('/' :: segment ++ ['/']) then path else path.dropLast
    | none => path
  else path

/-- Drop the last segment, unless it is the letter of the drive of a file. -/
def dropSegment (kind : SchemeKind) (path : List Char) : List Char :=
  match splitLastSlash path with
  | some (before, segment) =>
      if kind = .file ∧ isNormalDrive segment = true then path else before ++ ['/']
  | none => path

/-- Put a slash at the end, if there is none. -/
def endWithSlash (path : List Char) : List Char :=
  if path.getLast? == some '/' then path else path ++ ['/']

/-- A path under way, and whether the host is kept. -/
structure Progress where
  path : List Char
  keepsHost : Bool

/-- Add a segment; `slash` says whether a slash follows it. -/
def addSegment (kind : SchemeKind) (p : Progress) (segment : List Char) (slash : Bool) :
    Progress :=
  let close (path : List Char) := if slash then path ++ ['/'] else path
  if isDoubleDot segment then
    let path := dropSegment kind (dropLastSlash p.path)
    { p with path := if slash then endWithSlash path else path }
  else if isSingleDot segment then { p with path := endWithSlash p.path }
  else if kind = .file ∧ p.path.length = 1 ∧ isDrive segment = true then
    ⟨close (p.path ++ segment.take 1 ++ [':']), false⟩
  else { p with path := close (p.path ++ segment) }

/-- Read segments up to a question mark or number sign; `segment` is kept in reverse. -/
def readFrom (kind : SchemeKind) (p : Progress) (segment : List Char) :
    List Char → Progress × List Char
  | [] => (addSegment kind p (encode pathSet segment.reverse) false, [])
  | c :: cs =>
      if c = '/' ∨ (c = '\\' ∧ kind.isSpecial = true) then
        readFrom kind (addSegment kind p (encode pathSet segment.reverse) true) [] cs
      else if c = '?' ∨ c = '#' then
        (addSegment kind p (encode pathSet segment.reverse) false, c :: cs)
      else readFrom kind p (c :: segment) cs

/-- Read a path that continues `start`.  The path of a file has one slash at the start. -/
def read (kind : SchemeKind) (start : List Char) (keepsHost : Bool) (cs : List Char) :
    Progress × List Char :=
  let (p, rest) := readFrom kind ⟨start, keepsHost⟩ [] cs
  if kind = .file then ({ p with path := '/' :: p.path.dropWhile (· == '/') }, rest)
  else (p, rest)

end Path
end Uri

end DataContract
