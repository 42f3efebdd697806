import DataContract.Uri.Path
/-!
# Hosts

A host in brackets is an address of eight numbers.  The host of a special scheme is a
name, or an address of four numbers when its last part is a number.  The host of another
scheme is kept as it is written.

How a name is written in letters of the basic set is a parameter, as the tables of the letters
of all scripts would be needed for it.
-/

namespace DataContract
namespace Uri

/-- Why a text is no address. -/
inductive Fault where
  | relative
  | emptyHost
  | invalidPort
  | invalidIpv4
  | invalidIpv6
  | invalidCharacter
  | invalidName
deriving DecidableEq, Repr

namespace Fault

/-- The words for a fault. -/
def message : Fault → String
  | .relative => "relative URL without a base"
  | .emptyHost => "empty host"
  | .invalidPort => "invalid port number"
  | .invalidIpv4 => "invalid IPv4 address"
  | .invalidIpv6 => "invalid IPv6 address"
  | .invalidCharacter => "invalid domain character"
  | .invalidName => "invalid international domain name"

end Fault

/-- A host. -/
inductive Host where
  | name (cs : List Char)
  | ipv4 (address : Nat)
  | ipv6 (pieces : List Nat)
deriving DecidableEq, Repr

namespace Host

/-- The digits and the base of a number: a leading `0x` or zero tells the base. -/
def baseOf : List Char → Nat × List Char
  | '0' :: 'x' :: digits => (16, digits)
  | '0' :: 'X' :: digits => (16, digits)
  | '0' :: d :: digits => (8, d :: digits)
  | digits => (10, digits)

/-- The number that a part of an address stands for. -/
def ipv4Number? (part : List Char) : Option Nat :=
  if part.isEmpty then none
  else
    let (base, digits) := baseOf part
    digits.foldlM (fun n c =>
      match hexValue? c with
      | some d => if d < base then some (base * n + d) else none
      | none => none) 0

/-- Whether the last part of a name is a number. -/
def endsInNumber (cs : List Char) : Bool :=
  match (cs.splitOn '.').reverse with
  | [] => false
  | [] :: [] => false
  | [] :: last :: _ => isNumber last
  | last :: _ => isNumber last
where
  isNumber (part : List Char) : Bool :=
    (!part.isEmpty && part.all Char.isDigit) || (ipv4Number? part).isSome

/-- The address of numbers in order; the last one fills the remaining bytes. -/
def ipv4OfNumbers? (numbers : List Nat) : Option Nat :=
  match numbers.reverse with
  | [] => none
  | last :: before =>
      if 4 ≤ before.length || Nat.pow 256 (4 - before.length) ≤ last || before.any (255 < ·) then
        none
      else
        some (before.reverse.foldl (fun address n => 256 * address + n) 0 *
          Nat.pow 256 (4 - before.length) + last)

/-- The address of a name whose last part is a number. -/
def ipv4OfName (cs : List Char) : Except Fault Host :=
  let parts := cs.splitOn '.'
  let parts := if parts.getLast? == some [] then parts.dropLast else parts
  match (parts.mapM ipv4Number?).bind ipv4OfNumbers? with
  | some address => .ok (.ipv4 address)
  | none => .error .invalidIpv4

/-- The number of a piece of one to four hexadecimal digits. -/
def pieceNumber? (piece : List Char) : Option Nat :=
  if piece.isEmpty || 4 < piece.length then none
  else piece.foldlM (fun n c => (hexValue? c).map fun d => 16 * n + d) 0

/-- A decimal number below 256 without leading zero. -/
def octet? (part : List Char) : Option Nat :=
  if part.isEmpty || !part.all Char.isDigit || (part.head? == some '0' && 1 < part.length) then
    none
  else
    let n := part.foldl (fun n c => 10 * n + (c.toNat - '0'.toNat)) 0
    if n < 256 then some n else none

/-- The two numbers of a decimal address. -/
def embedded? (piece : List Char) : Option (List Nat) :=
  match (piece.splitOn '.').mapM octet? with
  | some [a, b, c, d] => some [256 * a + b, 256 * c + d]
  | _ => none

/-- The numbers of pieces; the last piece may be a decimal address. -/
def pieceNumbers? : List (List Char) → Option (List Nat)
  | [] => some []
  | [last] =>
      if last.contains '.' then embedded? last else (pieceNumber? last).map fun n => [n]
  | piece :: pieces => do
      let n ← pieceNumber? piece
      let rest ← pieceNumbers? pieces
      return n :: rest

/-- The pieces between colons; no text has no pieces. -/
def piecesOf (cs : List Char) : List (List Char) :=
  if cs.isEmpty then [] else cs.splitOn ':'

/-- Split at the first double colon. -/
def splitDouble : List Char → Option (List Char × List Char)
  | ':' :: ':' :: rest => some ([], rest)
  | c :: rest => (splitDouble rest).map fun (before, after) => (c :: before, after)
  | [] => none

/-- The eight numbers of an address.  A double colon stands for at least one zero. -/
def ipv6Pieces? (cs : List Char) : Option (List Nat) :=
  match splitDouble cs with
  | none => do
      let pieces ← pieceNumbers? (piecesOf cs)
      if pieces.length = 8 then some pieces else none
  | some (before, after) => do
      if before.contains '.' then none
      let left ← pieceNumbers? (piecesOf before)
      let right ← pieceNumbers? (piecesOf after)
      if left.length + right.length < 8 then
        some (left ++ List.replicate (8 - left.length - right.length) 0 ++ right)
      else none

/-- The length of the run of zeros at the start. -/
def zeroRun (pieces : List Nat) : Nat := (pieces.takeWhile (· == 0)).length

/-- The place and length of the first longest run of zeros from a place on. -/
def longestRun (place : Nat) : List Nat → Nat × Nat
  | [] => (place, 0)
  | piece :: pieces =>
      let here := zeroRun (piece :: pieces)
      let later := longestRun (place + 1) pieces
      if later.2 ≤ here then (place, here) else later

/-- A number in hexadecimal digits. -/
def hexText (n : Nat) : List Char := Nat.toDigits 16 n

/-- Pieces between colons. -/
def joinPieces (pieces : List Nat) : List Char :=
  [':'].intercalate (pieces.map hexText)

/-- Eight numbers; the longest run of at least two zeros is written as a double colon. -/
def renderIpv6 (pieces : List Nat) : List Char :=
  let (place, length) := longestRun 0 pieces
  if length < 2 then joinPieces pieces
  else
    joinPieces (pieces.take place) ++ [':', ':'] ++ joinPieces (pieces.drop (place + length))

/-- The characters that may not stand in the name of a host. -/
def isForbidden (c : Char) : Bool :=
  c.toNat ≤ 32 || c.toNat == 127 ||
    ['%', '#', '/', ':', '<', '>', '?', '@', '[', '\\', ']', '^', '|'].contains c

/-- The characters that may not stand in the host of a scheme that is not special. -/
def isForbiddenOpaque (c : Char) : Bool :=
  [Char.ofNat 0, '\t', '\n', '\r', ' ', '#', '/', ':', '<', '>', '?', '@', '[', '\\', ']',
    '^', '|'].contains c

/-- The host in brackets, after the opening bracket. -/
def ofBracketed (cs : List Char) : Except Fault Host :=
  if cs.getLast? == some ']' then
    match ipv6Pieces? cs.dropLast with
    | some pieces => .ok (.ipv6 pieces)
    | none => .error .invalidIpv6
  else .error .invalidIpv6

/-- A name that has letters of the basic set only is written in lower case. -/
def plainName? (bytes : List UInt8) : Option (List Char) :=
  if bytes.all (· < 128) then some (bytes.map fun byte => (Char.ofNat byte.toNat).toLower)
  else none

/-- The name that bytes stand for, once it is written in letters of the basic set. -/
def nameOfBytes (toBasic? : List UInt8 → Option (List Char)) (bytes : List UInt8) :
    Except Fault (List Char) :=
  match toBasic? bytes with
  | some cs => if cs.any isForbidden then .error .invalidName else .ok cs
  | none => .error .invalidName

/-- The host of a special scheme. -/
def ofSpecial (toBasic? : List UInt8 → Option (List Char)) : List Char → Except Fault Host
  | '[' :: cs => ofBracketed cs
  | cs => do
      let name ← nameOfBytes toBasic? (percentDecode cs)
      if name.isEmpty then .error .emptyHost
      else if endsInNumber name then ipv4OfName name
      else .ok (.name name)

/-- The host of another scheme. -/
def ofOpaque : List Char → Except Fault Host
  | '[' :: cs => ofBracketed cs
  | cs => if cs.any isForbiddenOpaque then .error .invalidCharacter else .ok (.name (encode [] cs))

/-- The text of a host. -/
def render : Host → List Char
  | .name cs => cs
  | .ipv4 address =>
      ['.'].intercalate ([3, 2, 1, 0].map fun place =>
        Nat.toDigits 10 (address / Nat.pow 256 place % 256))
  | .ipv6 pieces => '[' :: renderIpv6 pieces ++ [']']

end Host
end Uri
end DataContract
