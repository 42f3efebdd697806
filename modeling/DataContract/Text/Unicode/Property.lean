import DataContract.Text.Unicode.Category
/-!
# Properties of characters

A property holds of the characters of some categories and of the characters of one
table, except for those of another table.
-/

namespace DataContract
namespace Unicode

/-- A property, written down as categories and exceptions. -/
structure PropertyRow where
  names : List String
  categories : List Category := []
  more : String := ""
  less : String := ""

/-- A property, ready for look-up. -/
structure Property where
  names : List String
  categories : List Category
  more : List (Nat × Nat)
  less : List (Nat × Nat)

namespace Property

/-- Whether a character has the property. -/
def holds (p : Property) (c : Char) : Bool :=
  (inCategories p.categories c && !inRanges p.less c.toNat) || inRanges p.more c.toNat

/-- The property of a row. -/
def ofRow (row : PropertyRow) : Property :=
  ⟨row.names, row.categories, readRanges row.more, readRanges row.less⟩

end Property

/-- The properties, under their names without case and underscores. -/
def propertyRows : List PropertyRow := [
  { names := ["asciihexdigit", "ahex"]
    more :=
      "1c a 7 6 q 6" },
  { names := ["alphabetic", "alpha"]
    categories :=
      [.lowercaseLetter, .modifierLetter, .otherLetter, .titlecaseLetter, .uppercaseLetter,
       .spacingMark, .letterNumber]
    more :=
      "n9 1 h6 e 1 1 1 2 1 2 1 1 20 b 1c d 1 7 g 1 2t 7 4 4 2 2 4 1 z 1 u g 2u b 2t 2 3 9 1 3
      1 4 4n c 3 7 6 j 1j 1 6 8 c 3 a 2 t 1 1r 4 t 2 t 2 1q 2 4 2 2 2 4 1 u 2 3 1 b 2 1q 5 1
      2 p 2 m 3 4 1 1p 1 1 4 h 1 b 2 u 1 1p 1 1r 1 3 1 1l 3 5 3 1 3 8 2 b 2 t 1 1p 1 6 1 5 1
      l 2 s 2 1r 4 t 2 t 1 28 3 1 1 2i 1 2 7 i 1 2r 1 2 6 1 2 g 1 4j e 1 4 9 b 1 10 34 4 1 5
      6 2 p 2 4 3 g 4 d 1 2 2 6 1 f 1 19w 2 u 2 u 2 u 2 1v 7 8 1 5a 2 y 1 3a 3 4 2 9 1 6c 2 2
      1 1m 1 1 7 3 1 2 8 6 2 22 2 b 3 1d 4 1e 5 1 1 5 1 1p 2 w 4 2 2 2 2 1m 2 3 1 1 3 1m 8 2
      1 c0 e 1c1 1g 1rq w nsk 8 y 2 9u 1 8 1 p 2 4e 1 1l 1 12 5 s b 1a 3 1f 4 2 2 13 1 1v 6 2
      2 2 2 c 1 8 1 1b 1 1f 1 1 3 2 2 5 1 19 2 6v 1 2 1 fn9 1 1nb 5 1ae 3 1 2 5 4 lw 4 ar 2
      9g 1 1i e 19 2 b 2 1d 4 b 1 1p 3 10 5 1 6 25 2 1g 9 g 1 2n 3 2 1 2 1 6 1 2 1 4d 1 3 6 n
      2 1q 1 6v 8 3 2 32 6 1 1 4 2 6p 4 6 2 u 2 2d 8 2 1 2 1 2y 1 1 1 2 6 2v 3 2 4 1 4 78 9
      77 2 47 4 2 2 11 a 16 4 2 4 i 6 2 3 1a d bd 7 1 6 2c m 2 7 1 2 1 2 3e 6 3 1 1 2 1 3 1 1
      3 1 20 2 3 1 9p 2 b 2 1g 5 5 1 fta 1 1r 4 f7v 1 6zl 7 1 h 2 7 1 2 1 5 2s 1 1pz 1 1k8 q
      6 q 6 q"
    less :=
      "30e 2 1jp 1 u 1 sv 1 2t 1 1z 2 6l 1 l 1 3sm 2 nxf 1 30 1 ff 1 k43 1 38 1 7r 1 o8 1 hy 1
      16r 1 z6r 2 6 6" },
  { names := ["bidicontrol", "bidic"]
    more :=
      "17g 1 54h 2 q 5 1j 4" },
  { names := ["bidimirrored", "bidim"]
    categories :=
      [.closePunctuation, .finalPunctuation, .initialPunctuation, .openPunctuation]
    more :=
      "1o 1 1 1 6ip 1 5c 4 3 6 3 1 3 2 3 4 1 4 1 1 1 1 4 9 5 1 1 i 5 4 9 2 1 1 1 8 2 v 2 4 5 1
      9 2 2 j 5 2 9 5 2 2 4 o 2 g w 2 wu 1 2 2 3 2 1 3 5 4 5 3 3 4 c5 6 1 e 8 1 7 6 3 1 4 5 1
      2 6 1 4 1 1 3 2 2 a 6 g j 1 4 2 1 1 1 2 1 1 4 5 2 6 3 o 2 b 2 4 4 1 2 2 2 4 17 2 8 1 14
      5 1 1 1 3 5 5 3 4 1 3 5 1 1 74 1 15k5 2 52 1 1 1 16m4 1 1l 1 1l 1 1l 1 1l 1"
    less :=
      "6c8 8 2si 1 d6 3 14im 2 5z 2 s g 2 2" },
  { names := ["caseignorable", "ci"]
    categories :=
      [.format, .modifierLetter, .enclosingMark, .nonspacingMark, .modifierSymbol]
    more :=
      "13 1 6 1 b 1 3g 1 jz 1 d3 1 44 1 55v 2 a 1 2 1 17u3 1 1q 1 2 1 4x 1 6 1 b 1" },
  { names := ["cased"]
    categories :=
      [.lowercaseLetter, .modifierLetter, .titlecaseLetter, .uppercaseLetter]
    more :=
      "4q 1 f 1 i2 1 5y2 w mu 1g 2ix2 q 6 q 6 q"
    less :=
      "jd 7 6 c q 1 1 1 3p 1 dg 1 6e 1 4k 2 7h 2 4 1 v 1 9 1 3 1 4g 1 4n 1 yc 1 3j 1 1sg 1 2z
      1 gz 1 cw 6 3ch 1 5b 1 d1 1 17 5 5 1 2p 2 2l 3 lxy 1 yq 6 7i 1 36 1 47 9 2w 1 g6 1 m 1
      3t 1 30 1 l 2 gor 1 19 2 1k1 2 jp9 4 un d 1s 2 1 1 cng 4 1 7 1 2 9q0 7 q5 1 v3 1" },
  { names := ["changeswhencasefolded", "cwcf"]
    categories :=
      [.titlecaseLetter, .uppercaseLetter]
    more :=
      "51 1 15 1 2x 1 1h 1 cl 1 3g 1 d 2 3 2 p 2 3 1 b5 1 2uo 6 1oi 9 ep 2 6c 8 8 8 8 8 a 3 2
      1 a 3 2 1 16 3 2 1 a0 g na q qlc 28 fnk 7 c 5"
    less :=
      "r6 3 34b 2e 2ks 1 4 1 3 3 2 3 2 1 3 5 6 1 3 1 3 2 2 2 1 1 a 2 5 1 2dve q q q q q q 1 1
      2 2 1 2 2 2 4 1 8 q q q 2 1 4 2 8 1 7 r 2 1 4 1 5 1 1 3 7 r q q q q q q q q q q q u p x
      p x p x p x p x 1" },
  { names := ["changeswhencasemapped", "cwcm"]
    categories :=
      [.lowercaseLetter, .titlecaseLetter, .uppercaseLetter]
    more :=
      "n9 1 5y2 w mu 1g"
    less :=
      "8o 1 2c 1 d 1 e 2 e 1 3 1 2q 1 i 6 r 1 2 1 1 1 2 3 2 1 1 1 2 1 5 2 1 1 2 2 1 7 1 2 1 1
      2 3 6 5 1 1 1 8 2 h 82 3 13 1 9v 1 13 1 4mv 18 1r d 2 3 1 g 1 c 75 2 1 1 gy 1 4 1 2 a 1
      1 3 5 6 1 3 1 3 2 1 3 1 2 4 1 2 4 5 5 27b 1 2 1 2 5 2w 1 o5n 2 1r 8 l 1 6 1 p 1 z 1 1 1
      10 1 mt z 1 7 5 9 1ml3 2d 1 1z 1 2 2 1 2 2 2 4 1 c 1 1 1 7 1 1t 1 4 2 8 1 7 1 s 1 4 1 5
      1 1 3 7 1 9g 2 p 1 p 1 v 1 p 1 v 1 p 1 v 1 p 1 v 1 p 1 8 1f8 a 1 k 6 6" },
  { names := ["changeswhenlowercased", "cwl"]
    categories :=
      [.titlecaseLetter, .uppercaseLetter]
    more :=
      "6lc g na q"
    less :=
      "r6 3 5rh 1 4 1 3 3 2 3 2 1 3 5 6 1 3 1 3 2 2 2 1 1 a 2 5 1 2dve q q q q q q 1 1 2 2 1 2
      2 2 4 1 8 q q q 2 1 4 2 8 1 7 r 2 1 4 1 5 1 1 3 7 r q q q q q q q q q q q u p x p x p x
      p x p x 1" },
  { names := ["changeswhentitlecased", "cwt"]
    categories :=
      [.lowercaseLetter]
    more :=
      "ck 1 2 1 2 1 12 1 9f 1 5yi g nk q"
    less :=
      "8o 1 2c 1 d 1 e 2 e 1 3 1 2q 1 i 6 r 1 2 1 1 1 2 3 2 1 1 1 2 1 5 2 1 1 2 2 1 7 1 2 1 1
      2 3 6 5 1 1 1 8 2 h 98 1 9v 1 13 1 287 17 2 3 2dc 18 1r d 2 3 1 g 1 c 75 2 1 1 h6 1 3 2
      3 1 r 1 4 1 4 1 2 2 8 4 27b 1 2 1 2 5 2w 1 o5n 2 1r 8 l 1 6 1 p 1 z 1 1 1 10 1 mt z 1 7
      5 9 1mlt q q 7 1 i q q q 4 1 1 1 7 1 b q q q q q q q q q q q q q q q q q s s p 1 6 q p
      1 6 q p 1 6 q p 1 6 q p 1 6 1 1 1f8 a 1 k 6 6" },
  { names := ["changeswhenuppercased", "cwu"]
    categories :=
      [.lowercaseLetter, .titlecaseLetter]
    more :=
      "n9 1 5yi g nk q"
    less :=
      "8o 1 2c 1 d 1 e 2 e 1 3 1 2q 1 i 6 r 1 2 1 1 1 2 3 2 1 1 1 2 1 5 2 1 1 2 2 1 7 1 2 1 1
      2 3 6 5 1 1 1 8 2 h 98 1 9v 1 13 1 4mv 18 1r d 2 3 1 g 1 c 75 2 1 1 h6 1 3 2 3 1 r 1 4
      1 4 1 2 2 8 4 27b 1 2 1 2 5 2w 1 o5n 2 1r 8 l 1 6 1 p 1 z 1 1 1 10 1 mt z 1 7 5 9 1mlt
      q q 7 1 i q q q 4 1 1 1 7 1 b q q q q q q q q q q q q q q q q q s s p 1 6 q p 1 6 q p 1
      6 q p 1 6 q p 1 6 1 1 1f8 a 1 k 6 6" },
  { names := ["dash"]
    categories :=
      [.dashPunctuation]
    more :=
      "6dv 1 13 1 f 1 au 1" },
  { names := ["defaultignorablecodepoint", "di"]
    more :=
      "4t 1 ip 1 jw 1 282 2 18z 2 2d 5 1kr 5 q 5 1d g 3ck 1 14ez g 6n 1 4g 1 27 9 119j 4 43z 8
      h405 35s" },
  { names := ["deprecated", "dep"]
    more :=
      "95 1 10p 1 1s3 1 1 1 1m1 2 1qd 6 jd 2 jh06 1" },
  { names := ["diacritic", "dia"]
    more :=
      "2m 1 1 1 1z 1 6 1 4 1 2 2 dz 4f 1 8 5 6 h 2 4 1 9 2 71 5 5t 1 1j h 1 r 1 1 1 2 1 1 3q 8
      4 2 3q 2 4 2 3 3 1v r 2j b 1m b y 2 3i 8 15 a g s 1p 1 g 1 3 4 s 1 22 1 g 1 32 1 g 1 32
      1 g 1 1b 3 1o 1 g 1 7 1 3b 1 32 1 g 1 32 1 g 1 31 2 g 1 3g 1 3g 6 1 1 2z 1 d 5 23 2 r 1
      1 1 1 1 4 2 1u 3 1 2 1q 1 34 1 1 2 14 2 4 5 p 7 1 1 a 2 jl 3 qc 2 4z b 9 1 9n 3 8p 8 2
      1 1c f 2 b 2w 1 f 1 12 9 1i 2 3u 2 1s 6 2a p 4 1 6 1 2 3 1e 1r 2h c 11 b cd 1 1 3 b 3 d
      3 d 3 d 2 2k0 3 8t 1 e2 6 2x 4 2n 1 n76 1 c 2 1 1 s 2 2a 2 e y 2u 3 31 2 5m 1 r i 1l 4
      10 1 2n 1 c 1 10 1 45 3 1t 4 1f 1 2s 5 9 3 3k 2 fn4 1 ld g 7i 1 1 1 1b 1 19 2 1v 1 l8 1
      wv 6 1 16 1 9 mi 2 fv 6 d1 3 1y b 1d 4 5c 1 15 1 20 2 3c 2 1q 1 24 1 9 3 2w 2 4y 2 29 1
      g 1 o 7 3 5 5p 1 3 1 3f 2 6z 2 3i 1 3a 2 37 1 7h 2 76 2 4 1 4c 1 2b 1 i 1 29 1 bp 1 76
      1 1 2 29 1 4hb f asa 5 1n 7 uw h 28 2 cn2 4 1 7 1 2 64h 1a 2 n f4 3 3 6 8 8 2 7 u 4 2v6
      1q 5e 7 af 1 1p 4 15s 7 31 3 1 3" },
  { names := ["emoji"]
    more :=
      "z 1 6 1 5 a 33 1 4 1 68d 1 c 1 60 1 m 1 2i 6 f 2 a7 2 c 1 4m 1 p b 4 3 5j 1 6f 2 a 1 9
      1 1m 4 1 5 9 1 2 1 2 2 2 1 4 1 2 1 1 2 2 1 3 1 3 2 8 3 5 1 1 1 5 c b 2 2 1 1 2 1 1 i 1
      2 2 i 6 1 1 1 2 3 2 5 1 2 2 4 2 b 2 5 2 2 1 5 2 1 1 1 2 k 2 5 6 1 4 2 1 4 1 2 1 2 6 1 1
      2 1 1 1 1 1 6 1 3 1 6 1 a 2 f 1 2 1 4 1 1 1 4 3 1 1 b 2 1c 3 9 1 e 1 e 1 ac 2 cv 3 j 2
      1f 1 4 1 yi 1 c 1 gp 1 1 1 2fze 1 5m 1 4g 2 c 2 e 1 2 a 23 q 1 2 n 1 k 1 2 9 l 2 4u y 2
      34 2 2 1 3 2 2b 2 3 1 7b 1 1r b 6 1 o 7 2 2 8 c 1 2 4 2 1 4 2 d 2 2 1 8 2 9 1 5 3 c 3 8
      3 2 1 1 1 4 1 6 1 3 1 6 2e 1c 1y 5 8 2 3 4 a 3 1 1 2 3 1 2 a 6b c 4 1 7v 1b 1 a 1 55 34
      d 3 9 7 1a 1 7 8 e 4 9 7 9" },
  { names := ["emojicomponent", "ecomp"]
    more :=
      "z 1 6 1 5 a 6ab 1 5x 1 17or 1 1c5y q e3 5 14g 4 gw30 2o" },
  { names := ["emojimodifier", "emod"]
    more :=
      "2qrf 5" },
  { names := ["emojimodifierbase", "ebase"]
    more :=
      "7j1 1 63 1 g 4 2iyf 1 1o 3 2 1 2 3 39 2 2 b l j 3 1 4 3 1 3 7 1 1 1 o 1 5l 2 4 1 l 1 4
      2 4u 3 3 5 2b 1 g 3 9 1 b 1 fz 1 2 1 8 8 6 1 9 a 2 3 1k 1 1p 2 1 2 1 1 h 3 1 d 6d 3 16
      9" },
  { names := ["emojipresentation", "epres"]
    more :=
      "6xm 2 5p 4 3 1 2 1 eh 2 l 2 1e c 17 1 j 1 d 1 8 2 h 2 5 2 8 1 5 1 l 1 7 2 1 1 4 1 2 1 7
      1 4 2 s 1 z 1 1 1 4 3 1 1 1p 3 o 1 e 1 nv 2 1f 1 4 1 2hf2 1 5m 1 5a 1 2 a 23 q 1 1 o 1
      k 1 2 5 1 3 l 2 4u x c 9 1 1y 1 m c 17 4 5 c h 3 1 3 1z 1 1 1 57 2 1r d 4 1 o i 1 q 2 d
      1 2e 2d 1c 1y 6 1 3 3 2 3 4 4 b 2 7 9 6b c 4 1 7v 1b 1 a 1 55 34 d 3 9 7 1a 1 7 8 e 4 9
      7 9" },
  { names := ["extendedpictographic", "extpict"]
    more :=
      "4p 1 4 1 68d 1 c 1 60 1 m 1 2i 6 f 2 a7 2 c 1 2n 1 1y 1 p b 4 3 5j 1 6f 2 a 1 9 1 1m 4
      1 6 1 c 1 36 a 3a 2 b 1 1 1 1 6 1 3 1 6 1 a 2 f 1 2 1 4 1 1 1 4 3 1 1 b 5 19 3 9 1 e 1
      e 1 ac 2 cv 3 j 2 1f 1 4 1 yi 1 c 1 gp 1 1 1 2fza 74 d 3 v 1 1o 6 c 2 e 1 2 a i 1l r f
      a 1 k 1 2 9 1 4 9 c2 5 8u 8 7e 1c 3k 38 c 2d 17 c 4 1k 8 a 6 14 8 u 2a c 1b 1 a 1 c9 74
      se" },
  { names := ["extender", "ext"]
    more :=
      "53 1 ew 2 oe 1 c9 1 nu 1 kw 1 3j 1 1tv 1 1k 1 gz 1 b2 1 1w 1 3ux 1 17 5 2v 2 2l 3 lxy 1
      16e 1 qq 1 m 1 3t 1 30 1 l 2 gor 1 1lc 2 2ca 1 h4 3 y7 1 fxl 2 ws 2 1 1 me0 2 1l2 3" },
  { names := ["graphemebase", "grbase"]
    categories :=
      [.lowercaseLetter, .modifierLetter, .otherLetter, .titlecaseLetter, .uppercaseLetter,
       .spacingMark, .decimalNumber, .letterNumber, .otherNumber, .connectorPunctuation,
       .dashPunctuation, .closePunctuation, .finalPunctuation, .initialPunctuation,
       .otherPunctuation, .openPunctuation, .currencySymbol, .modifierSymbol, .mathSymbol,
       .otherSymbol, .spaceSeparator]
    less :=
      "1xa 1 o 1 9y 1 o 1 2u 1 o 1 6i 1 i 2 2v 1 o 1 3b 1 f 1 2mt 1 454 2 14z2 2 3vi 1 o 1 9k
      1 c 1 6p 1 ow 1 10dw 1 8 5" },
  { names := ["graphemeextend", "grext"]
    categories :=
      [.format, .enclosingMark, .nonspacingMark]
    more :=
      "1xa 1 o 1 9y 1 o 1 2u 1 o 1 6i 1 i 2 2v 1 o 1 3b 1 f 1 2mt 1 454 2 14z2 2 3vi 1 o 1 9k
      1 c 1 6p 1 ow 1 10dw 1 8 5"
    less :=
      "4t 1 11u 6 m 1 5c 1 1d 1 ao 2 28 1 2zv 1 1ks 1 1 3 q 5 1d 5 1 a 17yn 1 6x 3 3b5 1 f 1
      6zm g qxs 4 43z 8 h406 1" },
  { names := ["hexdigit", "hex"]
    more :=
      "1c a 7 6 q 6 1eax a 7 6 q 6" },
  { names := ["idsbinaryoperator", "idsb"]
    more :=
      "9gw 2 2 8" },
  { names := ["idstrinaryoperator", "idst"]
    more :=
      "9gy 2" },
  { names := ["idcontinue", "idc"]
    categories :=
      [.lowercaseLetter, .modifierLetter, .otherLetter, .titlecaseLetter, .uppercaseLetter,
       .spacingMark, .nonspacingMark, .decimalNumber, .letterNumber, .connectorPunctuation]
    more :=
      "53 1 jz 1 34x 9 19k 1 1fh 1 l 1 31o 2"
    less :=
      "94f 1" },
  { names := ["idstart", "ids"]
    categories :=
      [.lowercaseLetter, .modifierLetter, .otherLetter, .titlecaseLetter, .uppercaseLetter,
       .letterNumber]
    more :=
      "4ud 2 1ox 1 l 1 31o 2"
    less :=
      "94f 1" },
  { names := ["ideographic", "ideo"]
    more :=
      "9hi 2 p 9 e 3 qt 534 1s g74 hkw a6 2 2y n4a 1 r 4qg 8 ye 16 9 76v b0 f7o wyo w 37e 6 66
      2 4g2 e 5rl 2e7 f2 15u 3t7 5 38g" },
  { names := ["joincontrol", "joinc"]
    more :=
      "6bw 2" },
  { names := ["logicalorderexception", "loe"]
    more :=
      "2tc 5 3f 5 25s 3 2 1 smy 2 2 1 1 2" },
  { names := ["lowercase", "lower"]
    categories :=
      [.lowercaseLetter, .modifierLetter]
    more :=
      "4q 1 f 1 i2 1 5yi g nk q"
    less :=
      "jd 7 6 c q 1 1 1 3p 1 dg 1 6e 1 4k 2 7h 2 4 1 v 1 9 1 3 1 4g 1 4n 1 yc 1 3j 1 1sg 1 2z
      1 gz 1 cw 6 3ch 1 5b 1 d1 1 17 5 5 1 2p 2 2l 3 lxy 1 yq 6 7i 1 36 1 47 9 2w 1 g6 1 m 1
      3t 1 30 1 l 2 gor 1 19 2 1k1 2 jp9 4 un d 1s 2 1 1 cng 4 1 7 1 2 9q0 7 q5 1 v3 1" },
  { names := ["math"]
    categories :=
      [.mathSymbol]
    more :=
      "2m 1 oh 3 2 1 q 2 2 2 5k0 1 r 3 b 1 w 4 o 2 e 2 1t d 4 1 3 2 4 5 i 1 4 1 2 a 1 1 3 5 6
      1 3 2 2 2 1 3 1 6 3 4 5 5 23 5 2 4 1 2 1 2 1 1 1 5 2 2 4 2 4 i 2 2 1 1 1 7 1 1 6 2 82 4
      4o 2 1 1 o 1 h 1 cd 2 c 9 5 5 5 2 2 2 3 5 e 1 1 1 2 6 o 2 1l 1 1 1 t 4 9 2 9i 2 v a b7
      m 1r 4 w 2 15yb 1 1 1 4 1 5v 1 1 1 160x 2d 1 1z 1 2 2 1 2 2 2 4 1 c 1 1 1 7 1 1t 1 4 2
      8 1 7 1 s 1 4 1 5 1 1 3 7 1 9g 2 p 1 p 1 v 1 p 1 v 1 p 1 v 1 p 1 v 1 p 1 8 2 1e 4cg 4 1
      r 1 2 1 1 2 1 1 a 1 4 1 1 1 1 6 1 4 1 1 1 1 1 1 3 1 2 1 1 2 1 1 1 1 1 1 1 1 1 1 2 1 1 2
      4 1 7 1 4 1 4 1 1 1 a 1 h 5 3 1 5 1 h" },
  { names := ["noncharactercodepoint", "nchar"]
    more :=
      "1e4w w em 2 1eke 2 1eke 2 1eke 2 1eke 2 1eke 2 1eke 2 1eke 2 1eke 2 1eke 2 1eke 2 1eke
      2 1eke 2 1eke 2 1eke 2 1eke 2 1eke 2" },
  { names := ["patternsyntax", "patsyn"]
    more :=
      "x f a 7 q 4 1 1 q 4 y 7 1 1 1 2 1 1 1 2 4 1 4 1 3 1 n 1 v 1 654 o 8 f 2 j 1 a 8h k0 4g
      hi u vg e8 3k ap 3 4 p f 1 14i5 2 79 2" },
  { names := ["patternwhitespace", "patws"]
    more :=
      "9 5 i 1 2s 1 688 2 o 2" },
  { names := ["prependedconcatenationmark", "pcm"]
    more :=
      "16o 6 5z 1 1d 1 ao 2 28 1 1g4a 1 f 1" },
  { names := ["quotationmark", "qmark"]
    more :=
      "y 1 4 1 3n 1 f 1 670 8 p 2 2rr 1 cp 4 d 3 14pt 4 59 1 4 1 2i 2" },
  { names := ["radical"]
    more :=
      "96o q 1 2h c 5y" },
  { names := ["regionalindicator", "ri"]
    more :=
      "2qcm q" },
  { names := ["sentenceterminal", "sterm"]
    more :=
      "x 1 c 1 g 1 11l 1 43 3 50 1 17 3 6u 1 1p 1 1 1 3 2 85 2 1d0 2 ly 1 4 2 lh 1 5i 2 5o 1 5
      1 8q 2 9u 4 4u 2 2 2 t 2 58 2 1t 2 qk 2 9 3 2qs 1 d 1 m 2 bx 1 n3w 1 7i 2 6b 1 3 1 am 2
      2e 2 2n 1 48 2 43 3 40 2 6x 1 g9y 1 3 2 4p 1 c 1 g 1 1t 1 25w 2 zh 5 18 4 59 2 39 4 3j
      3 3l 2 6 1 g 2 2g 2 1 2 30 1 bl 2 ad 2 5 f 2x 2 6x 3 ed 1 1 1 6z 2 2f 2 bo 2 j8 2 22 2
      euh 2 3p 1 1t 2 b 1 nn 1 feu 1 5wo 1" },
  { names := ["softdotted", "sd"]
    more :=
      "2x 2 5g 1 7t 1 u 1 1g 1 k 1 8w 1 2q 1 1 1 4y1 1 1f 1 d 1 3 1 3o 1 4d 1 bp 1 5y 2 27m 1
      2bol 2 1e 2 1e 2 1e 2 1e 2 1e 2 1e 2 1e 2 1e 2 1e 2 1e 2 1e 2 1e 2 1om 1 8h 2 q 1" },
  { names := ["terminalpunctuation", "term"]
    more :=
      "x 1 a 1 1 1 b 2 3 1 n2 1 8 1 e9 1 1l 1 20 1 e 1 1 3 50 1 17 b 1 1 6j 2 1i f v 1 79 2 z8
      2 4s 1 4 6 8n 2 lx 8 lh 1 3g 3 1z 2 4d 3 3 1 13 4 2 2 8q 2 9u 4 4u 2 1 3 t 2 58 5 1q 2
      qk 2 9 3 2qs 1 d 1 4 1 a 1 1 2 3 2 bw 2 n3v 2 7h 3 6b 5 am 2 2e 2 2n 1 47 3 43 3 3j 1 g
      2 6x 1 g9w 3 1 4 4p 1 a 1 1 1 b 2 3 1 1t 1 2 1 u2 1 1c 1 w6 1 5j 1 8m 2 48 6 1w 6 2h 4
      qg 5 18 4 59 7 34 4 3j 3 3l 2 6 1 g 2 2g 5 30 1 bl 3 c 2 9y 4 3 f 2x 2 6x 3 ed 1 1 1 6z
      2 2f 2 4 2 bi 3 19 1 hx 2 22 2 10r 5 dtl 2 3p 1 1t 3 a 1 nm 2 feu 1 5wn 4" },
  { names := ["unifiedideograph", "uideo"]
    more :=
      "a9s 534 1s g74 hse 2 1 1 1 2 a 1 1 1 1 2 2 3 1fpy wyo w 37e 6 66 2 4g2 e 5rl 3z3 3t7 5
      38g" },
  { names := ["uppercase", "upper"]
    categories :=
      [.uppercaseLetter]
    more :=
      "6lc g na q 2ixs q 6 q 6 q" },
  { names := ["variationselector", "vs"]
    more :=
      "4qz 3 1 1 19f4 g i9yo 6o" },
  { names := ["whitespace", "wspace", "space"]
    categories :=
      [.lineSeparator, .paragraphSeparator, .spaceSeparator]
    more :=
      "9 5 3b 1" },
  { names := ["xidcontinue", "xidc"]
    categories :=
      [.lowercaseLetter, .modifierLetter, .otherLetter, .titlecaseLetter, .uppercaseLetter,
       .spacingMark, .nonspacingMark, .decimalNumber, .letterNumber, .connectorPunctuation]
    more :=
      "53 1 jz 1 34x 9 19k 1 1fh 1 l 1"
    less :=
      "oq 1 8fo 1 14q6 6 ba 2 38 1 1 1 1 1 1 1 1 1 1 1 1 1 1 1" },
  { names := ["xidstart", "xids"]
    categories :=
      [.lowercaseLetter, .modifierLetter, .otherLetter, .titlecaseLetter, .uppercaseLetter,
       .letterNumber]
    more :=
      "4ud 2 1ox 1 l 1"
    less :=
      "oq 1 248 1 3j 1 67v 1 14q6 6 ba 2 38 1 1 1 1 1 1 1 1 1 1 1 1 1 1 1 7z 2" }]

/-- The properties. -/
def properties : List Property := propertyRows.map .ofRow

/-- The property of a name. -/
def property? (name : String) : Option Property :=
  properties.find? fun p => p.names.contains name

/-- Whether a character has the property of a name. -/
def hasProperty (name : String) (c : Char) : Bool :=
  match property? name with
  | some p => p.holds c
  | none => false

end Unicode
end DataContract
