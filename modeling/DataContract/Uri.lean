import DataContract.Uri.Host
import DataContract.Uri.Path
/-!
# Addresses

An absolute address: a scheme, and for most schemes an authority, a path, a query and a
fragment.  It is read into the parts of its normal form, whose text reads as the same address.
-/

namespace DataContract
namespace Uri

/-- Who is asked: user, host and port. -/
structure Authority where
  user : List Char
  host : List Char
  port : Option Nat
deriving DecidableEq

/-- The parts of an absolute address. -/
structure Parts where
  scheme : List Char
  authority : Option Authority
  path : List Char
  query : Option (List Char)
  fragment : Option (List Char)
deriving DecidableEq

/-- The text of an authority. -/
def Authority.render (a : Authority) : List Char :=
  a.user ++ a.host ++
    match a.port with
    | some port => ':' :: Nat.toDigits 10 port
    | none => []

/-- The text of an address.  A path of two slashes is kept apart from an authority. -/
def Parts.render (p : Parts) : String :=
  let start :=
    match p.authority with
    | some a => ['/', '/'] ++ a.render
    | none => if ['/', '/'].isPrefixOf p.path then ['/', '.'] else []
  let query := (p.query.map ('?' :: ·)).getD []
  let fragment := (p.fragment.map ('#' :: ·)).getD []
  String.ofList (p.scheme ++ [':'] ++ start ++ p.path ++ query ++ fragment)

/-- The port that is not written. -/
def defaultPort? (scheme : String) : Option Nat :=
  match scheme with
  | "http" => some 80
  | "https" => some 443
  | "ws" => some 80
  | "wss" => some 443
  | "ftp" => some 21
  | _ => none

/-- How a scheme is read. -/
def kindOf (scheme : String) : SchemeKind :=
  if scheme = "file" then .file else if (defaultPort? scheme).isSome then .special else .other

/-- Whether a character may stand in a scheme. -/
def isSchemeChar (c : Char) : Bool := c.isAlphanum || c == '+' || c == '-' || c == '.'

/-- The scheme in lower case and what follows its colon. -/
def scheme? (cs : List Char) : Option (List Char × List Char) :=
  match cs.takeWhile isSchemeChar, cs.dropWhile isSchemeChar with
  | first :: rest, ':' :: after =>
      if first.isAlpha then some ((first :: rest).map Char.toLower, after) else none
  | _, _ => none

/-- Whether a character ends the authority. -/
def endsAuthority (kind : SchemeKind) (c : Char) : Bool :=
  c == '/' || c == '?' || c == '#' || (c == '\\' && kind.isSpecial)

/-- Split at the last occurrence of a character. -/
def splitLast (mark : Char) (cs : List Char) : Option (List Char × List Char) :=
  match cs.reverse.dropWhile (· != mark) with
  | _ :: before => some (before.reverse, (cs.reverse.takeWhile (· != mark)).reverse)
  | [] => none

/-- The user as it is written: name and password are encoded, an empty password is
left out. -/
def userText (cs : List Char) : List Char :=
  let name := cs.takeWhile (· != ':')
  let password := (cs.dropWhile (· != ':')).drop 1
  let text := encode userSet name ++ if password.isEmpty then [] else ':' :: encode userSet password
  if text.isEmpty then [] else text ++ ['@']

/-- The user before the last at-sign of an authority, and what follows. -/
def readUser (kind : SchemeKind) (cs : List Char) : Except Fault (List Char × List Char) :=
  let inside := cs.takeWhile fun c => !endsAuthority kind c
  let after := cs.dropWhile fun c => !endsAuthority kind c
  match splitLast '@' inside with
  | none => .ok ([], cs)
  | some ([], []) => if after.isEmpty then .ok ([], []) else .error .emptyHost
  | some (user, rest) => .ok (userText user, rest ++ after)

/-- The characters of a host and what follows; a colon in brackets belongs to it. -/
def spanHost (kind : SchemeKind) (inBrackets : Bool) : List Char → List Char × List Char
  | [] => ([], [])
  | c :: cs =>
      if endsAuthority kind c || (c == ':' && !inBrackets) then ([], c :: cs)
      else
        let (host, rest) := spanHost kind (c == '[' || (inBrackets && c != ']')) cs
        (c :: host, rest)

/-- The digits of a port and what follows. -/
def readPort (cs : List Char) : Except Fault (Option Nat × List Char) :=
  let digits := cs.takeWhile Char.isDigit
  let rest := cs.dropWhile Char.isDigit
  let port := digits.foldl (fun n c => 10 * n + (c.toNat - '0'.toNat)) 0
  let ends := rest.head?.all fun c => c == '/' || c == '\\' || c == '?' || c == '#'
  if 0x10000 ≤ port || !ends then .error .invalidPort
  else .ok (if digits.isEmpty then none else some port, rest)

/-- The query and the fragment. -/
def readEnd (special : Bool) : List Char → Option (List Char) × Option (List Char)
  | '?' :: cs =>
      let query := cs.takeWhile (· != '#')
      let fragment :=
        match cs.dropWhile (· != '#') with
        | _ :: rest => some (encode fragmentSet rest)
        | [] => none
      (some (encode (querySet special) query), fragment)
  | '#' :: cs => (none, some (encode fragmentSet cs))
  | _ => (none, none)

/-- The path of an address with an authority. -/
def readPath (kind : SchemeKind) (keepsHost : Bool) (cs : List Char) :
    Path.Progress × List Char :=
  match cs with
  | '/' :: rest => Path.read kind ['/'] keepsHost rest
  | [] => if kind.isSpecial then Path.read kind ['/'] keepsHost [] else (⟨[], keepsHost⟩, [])
  | c :: rest =>
      if kind.isSpecial && c == '\\' then Path.read kind ['/'] keepsHost rest
      else if !kind.isSpecial && (c == '?' || c == '#') then (⟨[], keepsHost⟩, c :: rest)
      else Path.read kind ['/'] keepsHost (c :: rest)

section Names

variable (toBasic? : List UInt8 → Option (List Char))

/-- The host of a scheme and what follows.  It may be empty only where the scheme is not
special and neither user nor port is given. -/
def readHost (kind : SchemeKind) (user cs : List Char) :
    Except Fault (List Char × List Char) := do
  let (text, rest) := spanHost kind false cs
  if kind.isSpecial then
    if text.isEmpty then .error .emptyHost
    else return ((← Host.ofSpecial toBasic? text).render, rest)
  else if text.isEmpty then
    if rest.head? == some ':' || !user.isEmpty then .error .emptyHost else return ([], rest)
  else return ((← Host.ofOpaque text).render, rest)

/-- What follows the two slashes of an address. -/
def readAuthority (scheme : List Char) (kind : SchemeKind) (cs : List Char) :
    Except Fault Parts := do
  let (user, rest) ← readUser kind cs
  let (host, rest) ← readHost toBasic? kind user rest
  let (port, rest) ←
    match rest with
    | ':' :: rest => readPort rest
    | rest => .ok (none, rest)
  let port := port.filter fun port => defaultPort? (String.ofList scheme) != some port
  let (progress, rest) := readPath kind true rest
  let (query, fragment) := readEnd kind.isSpecial rest
  return ⟨scheme, some ⟨user, host, port⟩, progress.path, query, fragment⟩

/-- Whether a character is a slash of either kind. -/
def isSlash (c : Char) : Bool := c == '/' || c == '\\'

/-- The address of a file.  The local host is left out, and so is the host of a path
that starts with the letter of a drive. -/
def ofFile (host : List Char) (p : Path.Progress × List Char) : Parts :=
  let (query, fragment) := readEnd true p.2
  let host := if p.1.keepsHost then host else []
  ⟨"file".toList, some ⟨[], host, none⟩, p.1.path, query, fragment⟩

/-- The host of a file and its path, after two slashes. -/
def readFileHost (cs : List Char) : Except Fault Parts := do
  let ends (c : Char) := isSlash c || c == '?' || c == '#'
  let text := cs.takeWhile fun c => !ends c
  let rest := cs.dropWhile fun c => !ends c
  if Path.isDrive text then return ofFile [] (Path.read .file ['/'] false cs)
  else if text.isEmpty then return ofFile [] (Path.read .file [] false rest)
  else
    let host ← Host.ofSpecial toBasic? text
    if host = .name "localhost".toList then
      return ofFile [] (Path.read .file [] false rest)
    else return ofFile host.render (readPath .file true rest)

/-- What follows the scheme of a file. -/
def readFile : List Char → Except Fault Parts
  | [] => .ok (ofFile [] (Path.read .file ['/'] false []))
  | c :: cs =>
      if isSlash c then
        match cs with
        | d :: rest =>
            if isSlash d then readFileHost toBasic? rest
            else .ok (ofFile [] (Path.read .file [] false (c :: cs)))
        | [] => .ok (ofFile [] (Path.read .file [] false (c :: cs)))
      else .ok (ofFile [] (Path.read .file ['/'] false (c :: cs)))

/-- What follows a scheme that is not special. -/
def readOther (scheme : List Char) : List Char → Except Fault Parts
  | '/' :: '/' :: cs => readAuthority toBasic? scheme .other cs
  | '/' :: cs =>
      let (progress, rest) := Path.read .other ['/'] false cs
      let (query, fragment) := readEnd false rest
      .ok ⟨scheme, none, progress.path, query, fragment⟩
  | cs =>
      let ends (c : Char) := c == '?' || c == '#'
      let (query, fragment) := readEnd false (cs.dropWhile fun c => !ends c)
      .ok ⟨scheme, none, encode [] (cs.takeWhile fun c => !ends c), query, fragment⟩

/-- A text without controls and blanks at its ends, and without tabs and ends of lines. -/
def trim (cs : List Char) : List Char :=
  let cs := cs.dropWhile (·.toNat ≤ 32)
  let cs := (cs.reverse.dropWhile (·.toNat ≤ 32)).reverse
  cs.filter fun c => c != '\t' && c != '\n' && c != '\r'

/-- The parts of the address that a text stands for. -/
def read (text : String) : Except Fault Parts :=
  match scheme? (trim text.toList) with
  | none => .error .relative
  | some (scheme, cs) =>
      let kind := kindOf (String.ofList scheme)
      match kind with
      | .file => readFile toBasic? cs
      | .special => readAuthority toBasic? scheme kind (cs.dropWhile isSlash)
      | .other => readOther toBasic? scheme cs

end Names

end Uri
end DataContract
