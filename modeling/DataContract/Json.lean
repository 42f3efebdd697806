import DataContract.Text
import DataContract.Value
/-!
# JSON text

A text is read character by character.  A state tells whether the reader stands between
tokens, in a number or word, in a string or in an escape.  The tokens drive a stack of open
arrays and objects.  The last value of a repeated name counts.  A text with 128 or more arrays
and objects open at once is refused.

**Numbers.**  A literal has an optional minus, digits without superfluous zeros, an optional
fraction and an optional exponent.  A literal of digits alone stays a whole number while it
fits 64 bits.  Every other literal is a double: the leading digits that fit 64 bits are rounded
to a double, which is then multiplied or divided by a power of ten.  A literal beyond the
doubles has no value; one too small is zero.

**Writing.**  Values are written without blanks.  A double keeps a point and a zero when it is
whole, and has an exponent when its leading digit stands above `10 ^ 15` or below `10 ^ (-5)`.
-/

namespace DataContract

namespace Json

/-- The parts of a number literal. -/
structure NumberLiteral where
  negative : Bool
  integer : List Char
  fraction : Option (List Char)
  exponent : Option (Bool × List Char)

namespace NumberLiteral

/-- The value of decimal digits. -/
def digitsValue (digits : List Char) : Nat :=
  digits.foldl (fun n c => 10 * n + (c.toNat - '0'.toNat)) 0

/-- Split off the digits at the front. -/
def spanDigits (cs : List Char) : List Char × List Char :=
  (cs.takeWhile Char.isDigit, cs.dropWhile Char.isDigit)

/-- The exponent, and nothing after it. -/
def exponent? : List Char → Option (Option (Bool × List Char))
  | [] => some none
  | e :: cs =>
      if e = 'e' ∨ e = 'E' then
        let (negative, cs) :=
          match cs with
          | '-' :: rest => (true, rest)
          | '+' :: rest => (false, rest)
          | _ => (false, cs)
        let (digits, rest) := spanDigits cs
        if digits.isEmpty || !rest.isEmpty then none else some (some (negative, digits))
      else none

/-- The literal that the characters form. -/
def ofChars? (cs : List Char) : Option NumberLiteral := do
  let (negative, cs) :=
    match cs with
    | '-' :: rest => (true, rest)
    | _ => (false, cs)
  let (integer, cs) := spanDigits cs
  if integer.isEmpty || (integer.head? == some '0' && 1 < integer.length) then none
  else
    match cs with
    | '.' :: rest =>
        let (digits, rest) := spanDigits rest
        if digits.isEmpty then none
        else return ⟨negative, integer, some digits, ← exponent? rest⟩
    | _ => return ⟨negative, integer, none, ← exponent? cs⟩

/-- Append digits to a significand while it stays below `2 ^ 64`; the other digits are
returned. -/
def fill (significand : Nat) : List Char → Nat × List Char
  | [] => (significand, [])
  | c :: cs =>
      let next := 10 * significand + (c.toNat - '0'.toNat)
      if next < 0x10000000000000000 then fill next cs else (significand, c :: cs)

/-- The double of a power of ten, if it is finite. -/
def powerOfTen (n : Nat) : Option FiniteDouble :=
  match Double.nearest false (Nat.pow 10 n) 1 with
  | .finite x => some x
  | _ => none

/-- The finite double of a result. -/
def finite? : Double → Option FiniteDouble
  | .finite x => some x
  | _ => none

/-- A significand times a power of ten: both are rounded to doubles, and so is the
product or quotient. -/
def scale (significand : Nat) (exponent : Int) : Option FiniteDouble := do
  if significand = 0 then return .zero false
  let f ← finite? (.ofInt significand)
  if 308 < exponent then none
  else if 0 ≤ exponent then finite? (f.mul (← powerOfTen exponent.toNat))
  else if -308 ≤ exponent then finite? (f.div (← powerOfTen (-exponent).toNat))
  else if -616 ≤ exponent then
    let g ← finite? (f.div (← powerOfTen 308))
    finite? (g.div (← powerOfTen (-exponent - 308).toNat))
  else return .zero false

/-- The literal as a double. -/
def real? (l : NumberLiteral) : Option Number := do
  let (significand, extra) := fill 0 l.integer
  let fraction := l.fraction.getD []
  let (significand, dropped) := fill significand fraction
  let shift : Int :=
    match l.exponent with
    | none => 0
    | some (negative, digits) =>
        if negative then -(digitsValue digits : Int) else digitsValue digits
  let exponent := (extra.length : Int) - (fraction.length - dropped.length : Nat) + shift
  let x ← scale significand exponent
  return .real ⟨l.negative, x.mantissa, x.exponent, x.canonical⟩

/-- The number that the literal stands for. -/
def value? (l : NumberLiteral) : Option Number :=
  let n : Int := digitsValue l.integer
  let n := if l.negative then -n else n
  if l.fraction.isNone && l.exponent.isNone && !(l.negative && n == 0) then
    match Number.ofInt? n with
    | some number => some number
    | none => l.real?
  else l.real?

end NumberLiteral
end Json

namespace Json

/-- A token.  Numbers and the three words are scalars already. -/
inductive Token where
  | beginObject
  | endObject
  | beginArray
  | endArray
  | colon
  | comma
  | string (s : String)
  | scalar (v : Value)

namespace Token

/-- Where the reader stands.  Characters read so far are kept in reverse. -/
inductive State where
  | between
  | bare (chars : List Char)
  | text (chars : List Char)
  | escape (chars : List Char)
  /-- In the four digits of a code unit, after the high surrogate of a pair or not. -/
  | unit (chars : List Char) (high : Option Nat) (count value : Nat)
  /-- After a high surrogate: the backslash and the letter of the low one are due. -/
  | lowBackslash (chars : List Char) (high : Nat)
  | lowLetter (chars : List Char) (high : Nat)

/-- The blanks of the format. -/
def isSpace (c : Char) : Bool :=
  c == ' ' || c == '\n' || c == '\t' || c == '\r'

/-- The characters of numbers and words. -/
def isBare (c : Char) : Bool :=
  c.isAlphanum || c == '+' || c == '-' || c == '.'

/-- The token of a number or word. -/
def ofBare (chars : List Char) : Option Token :=
  if chars = ['t', 'r', 'u', 'e'] then some (.scalar (.bool true))
  else if chars = ['f', 'a', 'l', 's', 'e'] then some (.scalar (.bool false))
  else if chars = ['n', 'u', 'l', 'l'] then some (.scalar .null)
  else do return .scalar (.number (← (← NumberLiteral.ofChars? chars).value?))

/-- The character of a one-letter escape. -/
def escaped? (c : Char) : Option Char :=
  if c = '"' ∨ c = '\\' ∨ c = '/' then some c
  else if c = 'b' then some (Char.ofNat 8)
  else if c = 'f' then some (Char.ofNat 12)
  else if c = 'n' then some '\n'
  else if c = 'r' then some '\r'
  else if c = 't' then some '\t'
  else none

/-- A complete code unit: a character, or one half of a surrogate pair. -/
def endUnit (chars : List Char) (high : Option Nat) (value : Nat) : Option State :=
  match high with
  | some high =>
      if 0xDC00 ≤ value ∧ value < 0xE000 then
        some (.text (Char.ofNat (0x10000 + (high - 0xD800) * 0x400 + (value - 0xDC00)) :: chars))
      else none
  | none =>
      if 0xD800 ≤ value ∧ value < 0xDC00 then some (.lowBackslash chars value)
      else if 0xDC00 ≤ value ∧ value < 0xE000 then none
      else some (.text (Char.ofNat value :: chars))

/-- One character between tokens. -/
def stepBetween (c : Char) : Option (State × List Token) :=
  if isSpace c then some (.between, [])
  else if isBare c then some (.bare [c], [])
  else if c = '"' then some (.text [], [])
  else if c = '\x7b' then some (.between, [.beginObject])
  else if c = '\x7d' then some (.between, [.endObject])
  else if c = '[' then some (.between, [.beginArray])
  else if c = ']' then some (.between, [.endArray])
  else if c = ':' then some (.between, [.colon])
  else if c = ',' then some (.between, [.comma])
  else none

/-- One character: the next state and the tokens that it completes. -/
def step : State → Char → Option (State × List Token)
  | .between, c => stepBetween c
  | .bare chars, c =>
      if isBare c then some (.bare (c :: chars), [])
      else do
        let token ← ofBare chars.reverse
        let (state, tokens) ← stepBetween c
        return (state, token :: tokens)
  | .text chars, c =>
      if c = '"' then some (.between, [.string (String.ofList chars.reverse)])
      else if c = '\\' then some (.escape chars, [])
      else if c.toNat < 32 then none
      else some (.text (c :: chars), [])
  | .escape chars, c =>
      if c = 'u' then some (.unit chars none 0 0, [])
      else (escaped? c).map fun d => (.text (d :: chars), [])
  | .unit chars high count value, c => do
      let value := 16 * value + (← hexValue? c)
      if count = 3 then return (← endUnit chars high value, [])
      else return (.unit chars high (count + 1) value, [])
  | .lowBackslash chars high, c =>
      if c = '\\' then some (.lowLetter chars high, []) else none
  | .lowLetter chars high, c =>
      if c = 'u' then some (.unit chars (some high) 0 0, []) else none

/-- The tokens from a state on. -/
def scanFrom (state : State) : List Char → Option (List Token)
  | [] =>
      match state with
      | .between => some []
      | .bare chars => (ofBare chars.reverse).map fun token => [token]
      | _ => none
  | c :: cs => do
      let (state, tokens) ← step state c
      return tokens ++ (← scanFrom state cs)

/-- The tokens of a text. -/
def scan (text : String) : Option (List Token) := scanFrom .between text.toList

end Token
end Json

namespace Json

/-- An array or object with an item under way.  Items are kept in reverse. -/
inductive Frame where
  | array (items : List Value)
  | entry (entries : Entries Value) (name : String)

/-- What is due next. -/
inductive Phase where
  | value
  | itemOrEnd
  | nameOrEnd (entries : Entries Value)
  | name (entries : Entries Value)
  | colon (entries : Entries Value) (name : String)
  | afterItem (items : List Value)
  | afterEntry (entries : Entries Value)
  | done (v : Value)

/-- The largest number of arrays and objects open at once. -/
def maxDepth : Nat := 127

/-- Hand a complete value to the innermost open array or object. -/
def give (v : Value) : List Frame → List Frame × Phase
  | [] => ([], .done v)
  | .array items :: frames => (frames, .afterItem (v :: items))
  | .entry entries name :: frames => (frames, .afterEntry (entries.insert name v))

/-- A token where a value is due. -/
def startValue (frames : List Frame) : Token → Option (List Frame × Phase)
  | .beginArray =>
      if frames.length < maxDepth then some (.array [] :: frames, .itemOrEnd) else none
  | .beginObject =>
      if frames.length < maxDepth then some (frames, .nameOrEnd []) else none
  | .string s => some (give (.string s) frames)
  | .scalar v => some (give v frames)
  | _ => none

/-- One token. -/
def step : List Frame × Phase → Token → Option (List Frame × Phase)
  | (frames, .value), token => startValue frames token
  | (.array items :: frames, .itemOrEnd), .endArray =>
      some (give (.array items.reverse) frames)
  | (frames, .itemOrEnd), token => startValue frames token
  | (frames, .nameOrEnd entries), .endObject => some (give (.object entries) frames)
  | (frames, .nameOrEnd entries), .string name => some (frames, .colon entries name)
  | (frames, .name entries), .string name => some (frames, .colon entries name)
  | (frames, .colon entries name), .colon => some (.entry entries name :: frames, .value)
  | (frames, .afterItem items), .comma => some (.array items :: frames, .value)
  | (frames, .afterItem items), .endArray => some (give (.array items.reverse) frames)
  | (frames, .afterEntry entries), .comma => some (frames, .name entries)
  | (frames, .afterEntry entries), .endObject => some (give (.object entries) frames)
  | _, _ => none

/-- The value of a text. -/
def read (text : String) : Option Value := do
  let tokens ← Token.scan text
  match ← tokens.foldlM step ([], .value) with
  | (_, .done v) => return v
  | _ => none

end Json

namespace Json

/-- The text form of doubles. -/
def numberLayout : DecimalLayout where
  tie := .toEven
  positional := some (-5, 15)
  pointZero := true
  plusSign := true
  nanText := "null"
  infinityText := "null"

/-- The text of a number. -/
def numberText : Number → String
  | .whole n _ => toString n
  | .real x => Double.render numberLayout (.finite x)

mutual

/-- The text of a value. -/
def compact : Value → String
  | .null => "null"
  | .bool b => if b then "true" else "false"
  | .number n => numberText n
  | .string s => Quoted.encode s
  | .array items => "[" ++ compactItems items ++ "]"
  | .object entries => "\x7b" ++ compactEntries entries ++ "\x7d"

/-- The items, separated by commas. -/
def compactItems : List Value → String
  | [] => ""
  | [item] => compact item
  | item :: items => compact item ++ "," ++ compactItems items

/-- The entries, separated by commas. -/
def compactEntries : List (String × Value) → String
  | [] => ""
  | [(name, value)] => Quoted.encode name ++ ":" ++ compact value
  | (name, value) :: entries =>
      Quoted.encode name ++ ":" ++ compact value ++ "," ++ compactEntries entries

end

end Json

end DataContract
