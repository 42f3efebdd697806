import DataContract.Text.Unicode.Property
/-!
# Division of texts

Texts are divided into graphemes, words and sentences according to the kinds of their
characters.  Every way to divide texts has its own kinds, which are written down as properties
are.  Characters of no kind in particular are in no table.
-/

namespace DataContract
namespace Unicode

/-- The kinds for graphemes, except for syllables that are written as one. -/
def graphemeRows : List PropertyRow := [
  { names := ["control", "cn"]
    categories :=
      [.control]
    more :=
      "4t 1 12m 1 3jl 1 1ks 1 2 2 o 7 1d g 17yn 1 6o c ab8 g qxs 4 43z 8 h405 w 2o 3k 6o 2s0"
    less :=
      "a 1 2 1" },
  { names := ["cr"]
    more :=
      "d 1" },
  { names := ["extend", "ex"]
    categories :=
      [.nonspacingMark, .enclosingMark]
    more :=
      "1xa 1 o 1 9y 1 o 1 2u 1 o 1 6i 1 i 2 2v 1 o 1 3b 1 f 1 2mt 1 ye 1 36p 2 14z2 2 3vi 1 o 1
      9k 1 c 1 6p 1 ow 1 10dw 1 8 5 6tk 5 gx7k 2o" },
  { names := ["l"]
    more :=
      "3cw 2o u0w t" },
  { names := ["lf"]
    more :=
      "a 1" },
  { names := ["prepend", "pp"]
    more :=
      "16o 6 5z 1 1d 1 ao 2 28 1 vf 1 1f8u 1 f 1 6s 2 1h7 1 1 1 6w 1 21 6 jg 1 cb 1" },
  { names := ["regionalindicator", "ri"]
    more :=
      "2qcm q" },
  { names := ["spacingmark", "sm"]
    categories :=
      [.spacingMark]
    more :=
      "2sz 1 3j 1"
    less :=
      "1xa 1 o 1 9y 1 o 1 2u 1 o 1 6i 1 i 2 2v 1 o 1 3b 1 f 1 gb 2 b 1 15 3 2 7 l 1 3 6 2 1 a 3
      1xg 1 1 2 5s 1 454 2 o5n 1 1 1 kow 1 o 1 9k 1 c 1 6p 1 a8 2 em 1 10dw 1 8 5" },
  { names := ["t"]
    more :=
      "3hk 2g 132j 1d" },
  { names := ["v"]
    more :=
      "3fk 20 1348 n" },
  { names := ["zwj"]
    more :=
      "6bx 1" }]

/-- The number of open syllables; each of them is followed by those with a final consonant. -/
def openSyllables : Nat := 399

/-- The code points of the open syllable of a place. -/
def openSyllable (place : Nat) : Nat × Nat := (0xAC00 + 28 * place, 0xAC00 + 28 * place)

/-- The code points of the syllables behind the open syllable of a place. -/
def closedSyllables (place : Nat) : Nat × Nat := (0xAC00 + 28 * place + 1, 0xAC00 + 28 * place + 27)

/-- The kinds of syllables that are written as one character. -/
def syllables : List Property :=
  [⟨["lv"], [], (List.range openSyllables).map openSyllable, []⟩,
    ⟨["lvt"], [], (List.range openSyllables).map closedSyllables, []⟩]

/-- The kinds for words. -/
def wordRows : List PropertyRow := [
  { names := ["aletter", "le"]
    categories :=
      [.modifierLetter, .otherLetter, .letterNumber]
    more :=
      "1t q 6 q 1m 1 a n 1 v 1 5f 1 4 4 5s 1 r i 4 c 6 6 2 5 7 1 1 1 h 34 4 2 2 3 3 1 1 6 1 1 3 1
      1 1 k 1 2b 1 3v 8 4m 1 12 3 3 1 1 1 15 1 1 2w 1 23w 12 1 1 5 1 2 17 2 3 io 2e 2 6 1oi 9 7
      17 2 3 1s 18 1r d 1 y 2t 7q 2 6 2 12 2 6 2 8 1 1 1 1 1 1 1 v 2 1h 1 7 1 1 3 3 1 7 3 4 2 6
      4 d 5 3 1 7 79 1 4 1 2 a 1 1 3 5 6 1 1 1 1 1 1 4 1 6 4 1 2 4 5 5 4 1 1g 2 mp 1g 1ee 3g 2
      2v 6 4 3 2 c 12 1 1 5 1 nwy 1a i s 30 f 9 28 1 n 1 6 1 1n 5 2 1 1 1 5 r 2 3 1 mt 18 4 9 7
      28 fnk 7 c 5 sp q 6 q x1 28 2o 10 4 10 38 b 1 f 1 7 1 2 1 b 1 f 1 7 1 2 1c3 1f d 1f 2b1 1s
      gv4 1s k1s 2d 1 1z 1 2 2 1 2 2 2 4 1 c 1 1 1 7 1 1t 1 4 2 8 1 7 1 s 1 4 1 5 1 1 3 7 1 9g 2
      p 1 p 1 v 1 p 1 v 1 p 1 v 1 p 1 v 1 p 1 8 1f8 a 1 k 6 6 1xx 1w 1kc q 6 q 6 q"
    less :=
      "15c r 4 4 1la 1c 1 2 c 7 1m 2 1 1 1 5 1 o 1 1 1 a 1 2 9 1 2 5 1 1 l 4 80 17 k 1 g 6 4 4 3
      1 3 2 7 3 4 d c 1 1dd 1g z 1 4 1 ab u 2 5 b 18 4 q 2e 1h 2a 1 47y 2 p 9 7 5 2 3 6 2e 6 3 1
      2i 1 4 6o g e8 534 1s g74 1y8 5 1 a a 5 2p n 3 1 3 1e 1 1 3 2 2 5 2 1 1 1 o 3 ffm a6 2 2y
      1v 1 1 a 1 d 1 5 1 1 1 2 1 2 1 a t2 1m 4m8 r 11 7 hix 4qg 8 ye 16 9 6w7 4 1 7 1 2 1 83 f 1
      t 3 2 1 e 4 8 b0 f7o wyo w 37e 6 66 2 4g2 e 5rl 2e7 f2 15u 3t7 5 38g" },
  { names := ["cr"]
    more :=
      "d 1" },
  { names := ["doublequote", "dq"]
    more :=
      "y 1" },
  { names := ["extend"]
    categories :=
      [.nonspacingMark, .spacingMark, .enclosingMark]
    more :=
      "6bw 1 185t 2 1c9n 5 gx7k 2o" },
  { names := ["extendnumlet", "ex"]
    categories :=
      [.connectorPunctuation]
    more :=
      "6cv 1" },
  { names := ["format", "fo"]
    categories :=
      [.format]
    less :=
      "6bv 3 jhn6 2o" },
  { names := ["hebrewletter", "hl"]
    more :=
      "15c r 4 4 1cfe 1 1 a 1 d 1 5 1 1 1 2 1 2 1 a" },
  { names := ["katakana", "ka"]
    more :=
      "9ip 5 2t 2 3 2j 1 4 6o g 5s 1b 1 2g 14b2 1k ytu 4 1 7 1 2 1 1 7z 3 1e 1 e 4" },
  { names := ["lf"]
    more :=
      "a 1" },
  { names := ["midletter", "ml"]
    more :=
      "1m 1 3g 1 jz 1 d3 1 44 1 56a 1 17u3 1 1t 1 5g 1" },
  { names := ["midnum", "mn"]
    more :=
      "18 1 e 1 n6 1 ei 1 3m 2 2m 1 az 1 4sr 1 17t7 1 3 1 1n 1 3 1 53 1 e 1" },
  { names := ["midnumlet", "mb"]
    more :=
      "1a 1 6ax 2 a 1 17vx 1 50 1 6 1" },
  { names := ["newline", "nl"]
    more :=
      "b 2 3c 1 68y 2" },
  { names := ["numeric", "nu"]
    categories :=
      [.decimalNumber]
    more :=
      "19n 1" },
  { names := ["regionalindicator", "ri"]
    more :=
      "2qcm q" },
  { names := ["singlequote", "sq"]
    more :=
      "13 1" },
  { names := ["wsegspace"]
    categories :=
      [.spaceSeparator]
    less :=
      "4g 1 67a 1 13 1" },
  { names := ["zwj"]
    more :=
      "6bx 1" }]

/-- The kinds for sentences. -/
def sentenceRows : List PropertyRow := [
  { names := ["aterm", "at"]
    more :=
      "1a 1 6b9 1 17vx 1 57 1" },
  { names := ["close", "cl"]
    more :=
      "y 1 4 3 1d 1 1 1 t 1 1 1 19 1 f 1 2v2 4 1gd 2 1vf 8 p 2 a 2 1i 2 e 2 hl 4 t 2 ts 6 7 e 27
      2 v a b7 m 1r 4 w 2 si e e 2 2 a o 1 i 8 bv a 2 8 1 3 14im 2 5z 2 s g 2 2 g 6 4p 2 1d 1 1
      1 t 1 1 1 1 2 1 2 1csy 3" },
  { names := ["cr"]
    more :=
      "d 1" },
  { names := ["extend", "ex"]
    categories :=
      [.nonspacingMark, .spacingMark, .enclosingMark]
    more :=
      "6bw 2 185s 2 i9hc 2o" },
  { names := ["format", "fo"]
    categories :=
      [.format]
    less :=
      "6bw 2 jhn6 2o" },
  { names := ["lf"]
    more :=
      "a 1" },
  { names := ["lower", "lo"]
    categories :=
      [.lowercaseLetter]
    more :=
      "4q 1 f 1 dx 9 7 2 u 5 45 1 2o1 1 2en 1r d 1 y 11 j5 1 d 1 g d 5v g nk q 1hu 2 o4e 2 5u 1
      3l 3 3 2 o2 4 9 1 i6u 1 2 3 1 16 1 9 16r9 1q"
    less :=
      "3bk 17 2 3" },
  { names := ["numeric", "nu"]
    categories :=
      [.decimalNumber]
    more :=
      "19n 2" },
  { names := ["oletter", "le"]
    categories :=
      [.modifierLetter, .otherLetter, .letterNumber]
    more :=
      "16b 1 258 17 2 3 2a8 17 2 3"
    less :=
      "4q 1 f 1 dx 9 7 2 u 5 45 1 2o1 1 2en 1r d 1 y 11 j5 1 d 1 g d 5f w 264 2 o4e 2 5u 1 3l 3 3
      2 o2 4 9 1 gms 2 1k0 1 2 3 1 16 1 9 16r9 1q" },
  { names := ["scontinue", "sc"]
    more :=
      "18 2 c 1 10i 1 4u 2 dm 1 361 1 5 1 1l6 2 358 1 14pa 2 1 1 t 2 t 2 3 1 2 1 a 1 4o 2 c 1 21
      1" },
  { names := ["sep", "se"]
    more :=
      "3p 1 68y 2" },
  { names := ["sp"]
    categories :=
      [.spaceSeparator]
    more :=
      "9 1 1 2" },
  { names := ["sterm", "st"]
    more :=
      "x 1 t 1 11l 1 43 3 50 1 17 3 6u 1 1p 1 1 1 3 2 85 2 1d0 2 ly 1 4 2 lh 1 5i 2 5o 1 5 1 8q 2
      9u 4 4u 2 2 2 t 2 58 2 1t 2 qk 2 9 3 2qs 1 d 1 m 2 bx 1 n3w 1 7i 2 6b 1 3 1 am 2 2e 2 2n 1
      48 2 43 3 40 2 6x 1 ga2 2 4p 1 t 1 1t 1 25w 2 zh 5 18 4 59 2 39 4 3j 3 3l 2 6 1 g 2 2g 2 1
      2 30 1 bl 2 ad 2 5 f 2x 2 6x 3 ed 1 1 1 6z 2 2f 2 bo 2 j8 2 22 2 euh 2 3p 1 1t 2 b 1 nn 1
      feu 1 5wo 1" },
  { names := ["upper", "up"]
    categories :=
      [.uppercaseLetter, .titlecaseLetter]
    more :=
      "6lc g na q 2ixs q 6 q 6 q"
    less :=
      "5n4 17 2 3" }]

/-- The ways to divide texts, under their names, with their kinds. -/
def divisions : List (List String × List Property) :=
  [(["graphemeclusterbreak", "gcb"], graphemeRows.map .ofRow ++ syllables),
    (["wordbreak", "wb"], wordRows.map .ofRow),
    (["sentencebreak", "sb"], sentenceRows.map .ofRow)]

/-- The kind of a name in the division of a name. -/
def kind? (division name : String) : Option Property :=
  match divisions.find? fun row => row.1.contains division with
  | some row => row.2.find? fun p => p.names.contains name
  | none => none

end Unicode
end DataContract
