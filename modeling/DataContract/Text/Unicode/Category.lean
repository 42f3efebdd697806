/-!
# General categories

Tables of characters are written down as texts: gaps and lengths of ranges in base
thirty-six, in ascending order.  Every code point has one general category.  Its table lists
the categories of the code points from zero on, with the length of each run.
-/

namespace DataContract

namespace Unicode

/-- The value of a digit in base thirty-six. -/
def digitValue (c : Char) : Nat :=
  if c.isDigit then c.toNat - '0'.toNat
  else if c.isLower then c.toNat - 'a'.toNat + 10
  else 0

/-- The value of digits in base thirty-six. -/
def readNumber (digits : List Char) : Nat :=
  digits.foldl (fun n c => 36 * n + digitValue c) 0

/-- The words of a text, between blanks and ends of lines. -/
def words (text : String) : List (List Char) :=
  (text.toList.splitOnP Char.isWhitespace).filter (! List.isEmpty ·)

/-- The ranges of alternating gaps and lengths that follow `start`, ends included. -/
def rangesFrom (start : Nat) : List Nat → List (Nat × Nat)
  | gap :: size :: rest =>
      (start + gap, start + gap + size - 1) :: rangesFrom (start + gap + size) rest
  | _ => []

/-- The ranges of a table. -/
def readRanges (text : String) : List (Nat × Nat) :=
  rangesFrom 0 ((words text).map readNumber)

/-- Whether a code point lies in one of the ranges. -/
def inRanges (ranges : List (Nat × Nat)) (code : Nat) : Bool :=
  ranges.any fun (low, high) => decide (low ≤ code) && decide (code ≤ high)

end Unicode

namespace Unicode

/-- A general category. -/
inductive Category where
  | uppercaseLetter
  | lowercaseLetter
  | titlecaseLetter
  | modifierLetter
  | otherLetter
  | nonspacingMark
  | spacingMark
  | enclosingMark
  | decimalNumber
  | letterNumber
  | otherNumber
  | connectorPunctuation
  | dashPunctuation
  | openPunctuation
  | closePunctuation
  | initialPunctuation
  | finalPunctuation
  | otherPunctuation
  | mathSymbol
  | currencySymbol
  | modifierSymbol
  | otherSymbol
  | spaceSeparator
  | lineSeparator
  | paragraphSeparator
  | control
  | format
  | surrogate
  | privateUse
  | unassigned
deriving DecidableEq, Repr

namespace Category

/-- The two-letter code of a category. -/
def code : Category → String
  | .uppercaseLetter => "Lu"
  | .lowercaseLetter => "Ll"
  | .titlecaseLetter => "Lt"
  | .modifierLetter => "Lm"
  | .otherLetter => "Lo"
  | .nonspacingMark => "Mn"
  | .spacingMark => "Mc"
  | .enclosingMark => "Me"
  | .decimalNumber => "Nd"
  | .letterNumber => "Nl"
  | .otherNumber => "No"
  | .connectorPunctuation => "Pc"
  | .dashPunctuation => "Pd"
  | .openPunctuation => "Ps"
  | .closePunctuation => "Pe"
  | .initialPunctuation => "Pi"
  | .finalPunctuation => "Pf"
  | .otherPunctuation => "Po"
  | .mathSymbol => "Sm"
  | .currencySymbol => "Sc"
  | .modifierSymbol => "Sk"
  | .otherSymbol => "So"
  | .spaceSeparator => "Zs"
  | .lineSeparator => "Zl"
  | .paragraphSeparator => "Zp"
  | .control => "Cc"
  | .format => "Cf"
  | .surrogate => "Cs"
  | .privateUse => "Co"
  | .unassigned => "Cn"

/-- All categories. -/
def all : List Category :=
  [.uppercaseLetter, .lowercaseLetter, .titlecaseLetter, .modifierLetter,
   .otherLetter, .nonspacingMark, .spacingMark, .enclosingMark,
   .decimalNumber, .letterNumber, .otherNumber, .connectorPunctuation,
   .dashPunctuation, .openPunctuation, .closePunctuation, .initialPunctuation,
   .finalPunctuation, .otherPunctuation, .mathSymbol, .currencySymbol,
   .modifierSymbol, .otherSymbol, .spaceSeparator, .lineSeparator,
   .paragraphSeparator, .control, .format, .surrogate,
   .privateUse, .unassigned]

/-- The category of a two-letter code. -/
def ofCode? (code : String) : Option Category :=
  all.find? fun category => category.code == code

/-- The names of categories and of groups of categories, without case, blanks,
underscores and hyphens. -/
def named : List (List String × List Category) :=
  [(["c", "other"], [.control, .format, .privateUse, .unassigned]),
   (["l", "letter"],
     [.uppercaseLetter, .lowercaseLetter, .titlecaseLetter, .modifierLetter, .otherLetter]),
   (["lc", "casedletter"], [.uppercaseLetter, .lowercaseLetter, .titlecaseLetter]),
   (["m", "mark", "combiningmark"], [.nonspacingMark, .spacingMark, .enclosingMark]),
   (["n", "number"], [.decimalNumber, .letterNumber, .otherNumber]),
   (["p", "punct", "punctuation"],
     [.connectorPunctuation, .dashPunctuation, .openPunctuation, .closePunctuation,
      .initialPunctuation, .finalPunctuation, .otherPunctuation]),
   (["s", "symbol"], [.mathSymbol, .currencySymbol, .modifierSymbol, .otherSymbol]),
   (["z", "separator"], [.spaceSeparator, .lineSeparator, .paragraphSeparator]),
   (["lu", "uppercaseletter"], [.uppercaseLetter]),
   (["ll", "lowercaseletter"], [.lowercaseLetter]),
   (["lt", "titlecaseletter"], [.titlecaseLetter]),
   (["lm", "modifierletter"], [.modifierLetter]),
   (["lo", "otherletter"], [.otherLetter]),
   (["mn", "nonspacingmark"], [.nonspacingMark]),
   (["mc", "spacingmark"], [.spacingMark]),
   (["me", "enclosingmark"], [.enclosingMark]),
   (["nd", "digit", "decimalnumber"], [.decimalNumber]),
   (["nl", "letternumber"], [.letterNumber]),
   (["no", "othernumber"], [.otherNumber]),
   (["pc", "connectorpunctuation"], [.connectorPunctuation]),
   (["pd", "dashpunctuation"], [.dashPunctuation]),
   (["ps", "openpunctuation"], [.openPunctuation]),
   (["pe", "closepunctuation"], [.closePunctuation]),
   (["pi", "initialpunctuation"], [.initialPunctuation]),
   (["pf", "finalpunctuation"], [.finalPunctuation]),
   (["po", "otherpunctuation"], [.otherPunctuation]),
   (["sm", "mathsymbol"], [.mathSymbol]),
   (["sc", "currencysymbol"], [.currencySymbol]),
   (["sk", "modifiersymbol"], [.modifierSymbol]),
   (["so", "othersymbol"], [.otherSymbol]),
   (["zs", "spaceseparator"], [.spaceSeparator]),
   (["zl", "lineseparator"], [.lineSeparator]),
   (["zp", "paragraphseparator"], [.paragraphSeparator]),
   (["cc", "cntrl", "control"], [.control]),
   (["cf", "format"], [.format]),
   (["co", "privateuse"], [.privateUse]),
   (["cn", "unassigned"], [.unassigned])]

end Category

/-- The categories of the code points from zero on, each with the length of its run. -/
def categoryTable : String :=
  "Ccw Zs1 Po3 Sc1 Po3 Ps1 Pe1 Po1 Sm1 Po1 Pd1 Po2 Nda Po2 Sm3 Po2 Luq Ps1 Po1 Pe1 Sk1 Pc1 Sk1
  Llq Ps1 Sm1 Pe1 Sm1 Ccx Zs1 Po1 Sc4 So1 Po1 Sk1 So1 Lo1 Pi1 Sm1 Cf1 So1 Sk1 So1 Sm1 No2 Sk1
  Ll1 Po2 Sk1 No1 Lo1 Pf1 No3 Po1 Lun Sm1 Lu7 Llo Sm1 Ll8 Lu1 Ll1 Lu1 Ll1 Lu1 Ll1 Lu1 Ll1 Lu1
  Ll1 Lu1 Ll1 Lu1 Ll1 Lu1 Ll1 Lu1 Ll1 Lu1 Ll1 Lu1 Ll1 Lu1 Ll1 Lu1 Ll1 Lu1 Ll1 Lu1 Ll1 Lu1 Ll1
  Lu1 Ll1 Lu1 Ll1 Lu1 Ll1 Lu1 Ll1 Lu1 Ll1 Lu1 Ll1 Lu1 Ll1 Lu1 Ll1 Lu1 Ll1 Lu1 Ll1 Lu1 Ll1 Lu1
  Ll2 Lu1 Ll1 Lu1 Ll1 Lu1 Ll1 Lu1 Ll1 Lu1 Ll1 Lu1 Ll1 Lu1 Ll1 Lu1 Ll2 Lu1 Ll1 Lu1 Ll1 Lu1 Ll1
  Lu1 Ll1 Lu1 Ll1 Lu1 Ll1 Lu1 Ll1 Lu1 Ll1 Lu1 Ll1 Lu1 Ll1 Lu1 Ll1 Lu1 Ll1 Lu1 Ll1 Lu1 Ll1 Lu1
  Ll1 Lu1 Ll1 Lu1 Ll1 Lu1 Ll1 Lu1 Ll1 Lu1 Ll1 Lu1 Ll1 Lu1 Ll1 Lu1 Ll1 Lu2 Ll1 Lu1 Ll1 Lu1 Ll3
  Lu2 Ll1 Lu1 Ll1 Lu2 Ll1 Lu3 Ll2 Lu4 Ll1 Lu2 Ll1 Lu3 Ll3 Lu2 Ll1 Lu2 Ll1 Lu1 Ll1 Lu1 Ll1 Lu2
  Ll1 Lu1 Ll2 Lu1 Ll1 Lu2 Ll1 Lu3 Ll1 Lu1 Ll1 Lu2 Ll2 Lo1 Lu1 Ll3 Lo4 Lu1 Lt1 Ll1 Lu1 Lt1 Ll1
  Lu1 Lt1 Ll1 Lu1 Ll1 Lu1 Ll1 Lu1 Ll1 Lu1 Ll1 Lu1 Ll1 Lu1 Ll1 Lu1 Ll1 Lu1 Ll2 Lu1 Ll1 Lu1 Ll1
  Lu1 Ll1 Lu1 Ll1 Lu1 Ll1 Lu1 Ll1 Lu1 Ll1 Lu1 Ll1 Lu1 Ll2 Lu1 Lt1 Ll1 Lu1 Ll1 Lu3 Ll1 Lu1 Ll1
  Lu1 Ll1 Lu1 Ll1 Lu1 Ll1 Lu1 Ll1 Lu1 Ll1 Lu1 Ll1 Lu1 Ll1 Lu1 Ll1 Lu1 Ll1 Lu1 Ll1 Lu1 Ll1 Lu1
  Ll1 Lu1 Ll1 Lu1 Ll1 Lu1 Ll1 Lu1 Ll1 Lu1 Ll1 Lu1 Ll1 Lu1 Ll1 Lu1 Ll1 Lu1 Ll1 Lu1 Ll1 Lu1 Ll1
  Lu1 Ll1 Lu1 Ll1 Lu1 Ll1 Lu1 Ll1 Lu1 Ll7 Lu2 Ll1 Lu2 Ll2 Lu1 Ll1 Lu4 Ll1 Lu1 Ll1 Lu1 Ll1 Lu1
  Ll1 Lu1 Ll1x Lo1 Llr Lmi Sk4 Lmc Ske Lm5 Sk7 Lm1 Sk1 Lm1 Skh Mn34 Lu1 Ll1 Lu1 Ll1 Lm1 Sk1
  Lu1 Ll1 Cn2 Lm1 Ll3 Po1 Lu1 Cn4 Sk2 Lu1 Po1 Lu3 Cn1 Lu1 Cn1 Lu2 Ll1 Luh Cn1 Lu9 Llz Lu1 Ll2
  Lu3 Ll3 Lu1 Ll1 Lu1 Ll1 Lu1 Ll1 Lu1 Ll1 Lu1 Ll1 Lu1 Ll1 Lu1 Ll1 Lu1 Ll1 Lu1 Ll1 Lu1 Ll1 Lu1
  Ll1 Lu1 Ll5 Lu1 Ll1 Sm1 Lu1 Ll1 Lu2 Ll2 Lu1f Ll1c Lu1 Ll1 Lu1 Ll1 Lu1 Ll1 Lu1 Ll1 Lu1 Ll1
  Lu1 Ll1 Lu1 Ll1 Lu1 Ll1 Lu1 Ll1 Lu1 Ll1 Lu1 Ll1 Lu1 Ll1 Lu1 Ll1 Lu1 Ll1 Lu1 Ll1 Lu1 Ll1 Lu1
  Ll1 So1 Mn5 Me2 Lu1 Ll1 Lu1 Ll1 Lu1 Ll1 Lu1 Ll1 Lu1 Ll1 Lu1 Ll1 Lu1 Ll1 Lu1 Ll1 Lu1 Ll1 Lu1
  Ll1 Lu1 Ll1 Lu1 Ll1 Lu1 Ll1 Lu1 Ll1 Lu1 Ll1 Lu1 Ll1 Lu1 Ll1 Lu1 Ll1 Lu1 Ll1 Lu1 Ll1 Lu1 Ll1
  Lu1 Ll1 Lu1 Ll1 Lu1 Ll1 Lu1 Ll1 Lu1 Ll1 Lu1 Ll1 Lu2 Ll1 Lu1 Ll1 Lu1 Ll1 Lu1 Ll1 Lu1 Ll1 Lu1
  Ll1 Lu1 Ll2 Lu1 Ll1 Lu1 Ll1 Lu1 Ll1 Lu1 Ll1 Lu1 Ll1 Lu1 Ll1 Lu1 Ll1 Lu1 Ll1 Lu1 Ll1 Lu1 Ll1
  Lu1 Ll1 Lu1 Ll1 Lu1 Ll1 Lu1 Ll1 Lu1 Ll1 Lu1 Ll1 Lu1 Ll1 Lu1 Ll1 Lu1 Ll1 Lu1 Ll1 Lu1 Ll1 Lu1
  Ll1 Lu1 Ll1 Lu1 Ll1 Lu1 Ll1 Lu1 Ll1 Lu1 Ll1 Lu1 Ll1 Lu1 Ll1 Lu1 Ll1 Lu1 Ll1 Lu1 Ll1 Lu1 Ll1
  Lu1 Ll1 Lu1 Ll1 Lu1 Ll1 Lu1 Ll1 Lu1 Ll1 Lu1 Ll1 Lu1 Ll1 Lu1 Ll1 Lu1 Ll1 Lu1 Ll1 Lu1 Ll1 Lu1
  Ll1 Lu1 Ll1 Lu1 Ll1 Lu1 Ll1 Cn1 Lu12 Cn2 Lm1 Po6 Ll15 Po1 Pd1 Cn2 So2 Sc1 Cn1 Mn19 Pd1 Mn1
  Po1 Mn2 Po1 Mn2 Po1 Mn1 Cn8 Lor Cn4 Lo4 Po2 Cnb Cf6 Sm3 Po2 Sc1 Po2 So2 Mnb Po1 Cf1 Po3 Low
  Lm1 Loa Mnl Nda Po4 Lo2 Mn1 Lo2r Po1 Lo1 Mn7 Cf1 So1 Mn6 Lm2 Mn2 So1 Mn4 Lo2 Nda Lo3 So2
  Lo1 Poe Cn1 Cf1 Lo1 Mn1 Lou Mnr Cn2 Lo2h Mnb Lo1 Cne Nda Lox Mn9 Lm2 So1 Po3 Lm1 Cn2 Mn1
  Sc2 Lom Mn4 Lm1 Mn9 Lm1 Mn3 Lm1 Mn5 Cn2 Pof Cn1 Lop Mn3 Cn2 Po1 Cn1 Lob Cn5 Loo Sk1 Lo6 Cn1
  Cf2 Cn5 Mn9 Lo15 Lm1 Mno Cf1 Mnw Mc1 Lo1i Mn1 Mc1 Mn1 Lo1 Mc3 Mn8 Mc4 Mn1 Mc2 Lo1 Mn7 Loa
  Mn2 Po2 Nda Po1 Lm1 Lof Mn1 Mc2 Cn1 Lo8 Cn2 Lo2 Cn2 Lom Cn1 Lo7 Cn1 Lo1 Cn3 Lo4 Cn2 Mn1 Lo1
  Mc3 Mn4 Cn2 Mc2 Cn2 Mc2 Mn1 Lo1 Cn8 Mc1 Cn4 Lo2 Cn1 Lo3 Mn2 Cn2 Nda Lo2 Sc2 No6 So1 Sc1 Lo1
  Po1 Mn1 Cn2 Mn2 Mc1 Cn1 Lo6 Cn4 Lo2 Cn2 Lom Cn1 Lo7 Cn1 Lo2 Cn1 Lo2 Cn1 Lo2 Cn2 Mn1 Cn1 Mc3
  Mn2 Cn4 Mn2 Cn2 Mn3 Cn3 Mn1 Cn7 Lo4 Cn1 Lo1 Cn7 Nda Mn2 Lo3 Mn1 Po1 Cna Mn2 Mc1 Cn1 Lo9 Cn1
  Lo3 Cn1 Lom Cn1 Lo7 Cn1 Lo2 Cn1 Lo5 Cn2 Mn1 Lo1 Mc3 Mn5 Cn1 Mn2 Mc1 Cn1 Mc2 Mn1 Cn2 Lo1 Cnf
  Lo2 Mn2 Cn2 Nda Po1 Sc1 Cn7 Lo1 Mn6 Cn1 Mn1 Mc2 Cn1 Lo8 Cn2 Lo2 Cn2 Lom Cn1 Lo7 Cn1 Lo2 Cn1
  Lo5 Cn2 Mn1 Lo1 Mc1 Mn1 Mc1 Mn4 Cn2 Mc2 Cn2 Mc2 Mn1 Cn7 Mn2 Mc1 Cn4 Lo2 Cn1 Lo3 Mn2 Cn2 Nda
  So1 Lo1 No6 Cna Mn1 Lo1 Cn1 Lo6 Cn3 Lo3 Cn1 Lo4 Cn3 Lo2 Cn1 Lo1 Cn1 Lo2 Cn3 Lo2 Cn3 Lo3 Cn3
  Loc Cn4 Mc2 Mn1 Mc2 Cn3 Mc3 Cn1 Mc3 Mn1 Cn2 Lo1 Cn6 Mc1 Cne Nda No3 So6 Sc1 So1 Cn5 Mn1 Mc3
  Mn1 Lo8 Cn1 Lo3 Cn1 Lon Cn1 Log Cn2 Mn1 Lo1 Mn3 Mc4 Cn1 Mn3 Cn1 Mn4 Cn7 Mn2 Cn1 Lo3 Cn2 Lo1
  Cn2 Lo2 Mn2 Cn2 Nda Cn7 Po1 No7 So1 Lo1 Mn1 Mc2 Po1 Lo8 Cn1 Lo3 Cn1 Lon Cn1 Loa Cn1 Lo5 Cn2
  Mn1 Lo1 Mc1 Mn1 Mc5 Cn1 Mn1 Mc2 Cn1 Mc2 Mn2 Cn7 Mc2 Cn6 Lo2 Cn1 Lo2 Mn2 Cn2 Nda Cn1 Lo2 Mc1
  Cnc Mn2 Mc2 Lo9 Cn1 Lo3 Cn1 Lo15 Mn2 Lo1 Mc3 Mn4 Cn1 Mc3 Cn1 Mc3 Mn1 Lo1 So1 Cn4 Lo3 Mc1
  No7 Lo3 Mn2 Cn2 Nda No9 So1 Lo6 Cn1 Mn1 Mc2 Cn1 Loi Cn3 Loo Cn1 Lo9 Cn1 Lo1 Cn2 Lo7 Cn3 Mn1
  Cn4 Mc3 Mn3 Cn1 Mn1 Cn1 Mc8 Cn6 Nda Cn2 Mc2 Po1 Cnc Lo1c Mn1 Lo2 Mn7 Cn4 Sc1 Lo6 Lm1 Mn8
  Po1 Nda Po2 Cn11 Lo2 Cn1 Lo1 Cn1 Lo5 Cn1 Loo Cn1 Lo1 Cn1 Loa Mn1 Lo2 Mn9 Lo1 Cn2 Lo5 Cn1
  Lm1 Cn1 Mn7 Cn1 Nda Cn2 Lo4 Cnw Lo1 So3 Pof So1 Po1 So3 Mn2 So6 Nda Noa So1 Mn1 So1 Mn1 So1
  Mn1 Ps1 Pe1 Ps1 Pe1 Mc2 Lo8 Cn1 Lo10 Cn4 Mne Mc1 Mn5 Po1 Mn2 Lo5 Mnb Cn1 Mn10 Cn1 So8 Mn1
  So6 Cn1 So2 Po5 So4 Po2 Cn11 Lo17 Mc2 Mn4 Mc1 Mn6 Mc1 Mn2 Mc2 Mn2 Lo1 Nda Po6 Lo6 Mc2 Mn2
  Lo4 Mn3 Lo1 Mc3 Lo2 Mc7 Lo3 Mn4 Lod Mn1 Mc2 Mn2 Mc6 Mn1 Lo1 Mc1 Nda Mc3 Mn1 So2 Lu12 Cn1
  Lu1 Cn5 Lu1 Cn2 Ll17 Po1 Lm1 Ll3 Lo95 Cn1 Lo4 Cn2 Lo7 Cn1 Lo1 Cn1 Lo4 Cn2 Lo15 Cn1 Lo4 Cn2
  Lox Cn1 Lo4 Cn2 Lo7 Cn1 Lo1 Cn1 Lo4 Cn2 Lof Cn1 Lo1l Cn1 Lo4 Cn2 Lo1v Cn2 Mn3 Po9 Nok Cn3
  Log Soa Cn6 Lu2e Cn2 Ll6 Cn2 Pd1 Loh8 So1 Po1 Loh Zs1 Loq Ps1 Pe1 Cn3 Lo23 Po3 Nl3 Lo8 Cn7
  Loi Mn3 Mc1 Cn9 Loj Mn2 Mc1 Po2 Cn9 Loi Mn2 Cnc Lod Cn1 Lo3 Cn1 Mn2 Cnc Lo1g Mn2 Mc1 Mn7
  Mc8 Mn1 Mc2 Mnb Po3 Lm1 Po3 Sc1 Lo1 Mn1 Cn2 Nda Cn6 Noa Cn6 Po6 Pd1 Po4 Mn3 Cf1 Mn1 Nda Cn6
  Loz Lm1 Lo1h Cn7 Lo5 Mn2 Loy Mn1 Lo1 Cn5 Lo1y Cna Lov Cn1 Mn3 Mc4 Mn2 Mc3 Cn4 Mc2 Mn1 Mc6
  Mn3 Cn4 So1 Cn3 Po2 Nda Lou Cn2 Lo5 Cnb Lo18 Cn4 Loq Cn6 Nda No1 Cn3 Soy Lon Mn2 Mc2 Mn1
  Cn2 Po2 Lo1h Mc1 Mn1 Mc1 Mn7 Cn1 Mn1 Mc1 Mn1 Mc2 Mn8 Mc6 Mna Cn2 Mn1 Nda Cn6 Nda Cn6 Po7
  Lm1 Po6 Cn2 Mne Me1 Mng Cn1d Mn4 Mc1 Lo1b Mn1 Mc1 Mn5 Mc1 Mn1 Mc5 Mn1 Mc2 Lo8 Cn1 Po2 Nda
  Po7 Soa Mn9 So9 Po3 Mn2 Mc1 Lou Mc1 Mn4 Mc2 Mn2 Mc1 Mn3 Lo2 Nda Lo18 Mn1 Mc1 Mn2 Mc3 Mn1
  Mc1 Mn3 Mc2 Cn8 Po4 Lo10 Mc8 Mn8 Mc2 Mn2 Cn3 Po5 Nda Cn3 Lo3 Nda Lou Lm6 Po2 Ll9 Lu1 Ll1
  Cn5 Lu17 Cn2 Lu3 Po8 Cn8 Mn3 Po1 Mnd Mc1 Mn7 Lo4 Mn1 Lo6 Mn1 Lo2 Mc1 Mn2 Lo1 Cn5 Ll18 Lm1r
  Lld Lm1 Lly Lm11 Mn1s Lu1 Ll1 Lu1 Ll1 Lu1 Ll1 Lu1 Ll1 Lu1 Ll1 Lu1 Ll1 Lu1 Ll1 Lu1 Ll1 Lu1
  Ll1 Lu1 Ll1 Lu1 Ll1 Lu1 Ll1 Lu1 Ll1 Lu1 Ll1 Lu1 Ll1 Lu1 Ll1 Lu1 Ll1 Lu1 Ll1 Lu1 Ll1 Lu1 Ll1
  Lu1 Ll1 Lu1 Ll1 Lu1 Ll1 Lu1 Ll1 Lu1 Ll1 Lu1 Ll1 Lu1 Ll1 Lu1 Ll1 Lu1 Ll1 Lu1 Ll1 Lu1 Ll1 Lu1
  Ll1 Lu1 Ll1 Lu1 Ll1 Lu1 Ll1 Lu1 Ll1 Lu1 Ll1 Lu1 Ll1 Lu1 Ll1 Lu1 Ll1 Lu1 Ll1 Lu1 Ll1 Lu1 Ll1
  Lu1 Ll1 Lu1 Ll1 Lu1 Ll1 Lu1 Ll1 Lu1 Ll1 Lu1 Ll1 Lu1 Ll1 Lu1 Ll1 Lu1 Ll1 Lu1 Ll1 Lu1 Ll1 Lu1
  Ll1 Lu1 Ll1 Lu1 Ll1 Lu1 Ll1 Lu1 Ll1 Lu1 Ll1 Lu1 Ll1 Lu1 Ll1 Lu1 Ll1 Lu1 Ll1 Lu1 Ll1 Lu1 Ll1
  Lu1 Ll1 Lu1 Ll1 Lu1 Ll1 Lu1 Ll1 Lu1 Ll1 Lu1 Ll1 Lu1 Ll1 Lu1 Ll1 Lu1 Ll9 Lu1 Ll1 Lu1 Ll1 Lu1
  Ll1 Lu1 Ll1 Lu1 Ll1 Lu1 Ll1 Lu1 Ll1 Lu1 Ll1 Lu1 Ll1 Lu1 Ll1 Lu1 Ll1 Lu1 Ll1 Lu1 Ll1 Lu1 Ll1
  Lu1 Ll1 Lu1 Ll1 Lu1 Ll1 Lu1 Ll1 Lu1 Ll1 Lu1 Ll1 Lu1 Ll1 Lu1 Ll1 Lu1 Ll1 Lu1 Ll1 Lu1 Ll1 Lu1
  Ll1 Lu1 Ll1 Lu1 Ll1 Lu1 Ll1 Lu1 Ll1 Lu1 Ll1 Lu1 Ll1 Lu1 Ll1 Lu1 Ll1 Lu1 Ll1 Lu1 Ll1 Lu1 Ll1
  Lu1 Ll1 Lu1 Ll1 Lu1 Ll1 Lu1 Ll1 Lu1 Ll1 Lu1 Ll1 Lu1 Ll1 Lu1 Ll1 Lu1 Ll1 Lu1 Ll1 Lu1 Ll1 Lu1
  Ll9 Lu8 Ll6 Cn2 Lu6 Cn2 Ll8 Lu8 Ll8 Lu8 Ll6 Cn2 Lu6 Cn2 Ll8 Cn1 Lu1 Cn1 Lu1 Cn1 Lu1 Cn1 Lu1
  Ll8 Lu8 Lle Cn2 Ll8 Lt8 Ll8 Lt8 Ll8 Lt8 Ll5 Cn1 Ll2 Lu4 Lt1 Sk1 Ll1 Sk3 Ll3 Cn1 Ll2 Lu4 Lt1
  Sk3 Ll4 Cn2 Ll2 Lu4 Cn1 Sk3 Ll8 Lu5 Sk3 Cn2 Ll3 Cn1 Ll2 Lu4 Lt1 Sk2 Cn1 Zsb Cf5 Pd6 Po2 Pi1
  Pf1 Ps1 Pi2 Pf1 Ps1 Pi1 Po8 Zl1 Zp1 Cf5 Zs1 Po9 Pi1 Pf1 Po4 Pc2 Po3 Sm1 Ps1 Pe1 Pob Sm1 Po1
  Pc1 Poa Zs1 Cf5 Cn1 Cfa No1 Lm1 Cn2 No6 Sm3 Ps1 Pe1 Lm1 Noa Sm3 Ps1 Pe1 Cn1 Lmd Cn3 Scx Cnf
  Mnd Me4 Mn1 Me3 Mnc Cnf So2 Lu1 So4 Lu1 So2 Ll1 Lu3 Ll2 Lu3 Ll1 So1 Lu1 So2 Sm1 Lu5 So6 Lu1
  So1 Lu1 So1 Lu1 So1 Lu4 So1 Ll1 Lu4 Ll1 Lo4 Ll1 So2 Ll2 Lu2 Sm5 Lu1 Ll4 So1 Sm1 So2 Ll1 So1
  Nog Nlz Lu1 Ll1 Nl4 No1 So2 Cn4 Sm5 So5 Sm2 So4 Sm1 So2 Sm1 So2 Sm1 So7 Sm1 Sov Sm2 So2 Sm1
  So1 Sm1 Sov Sm7g So8 Ps1 Pe1 Ps1 Pe1 Sok Sm2 So7 Ps1 Pe1 So29 Sm1 Sou Smp So14 Sm6 So20 Cnm
  Sob Cnl No1o So26 Nom So53 Sm1 So9 Sm1 So1i Sm8 So33 Sm1 So6w Ps1 Pe1 Ps1 Pe1 Ps1 Pe1 Ps1
  Pe1 Ps1 Pe1 Ps1 Pe1 Ps1 Pe1 Nou So18 Sm5 Ps1 Pe1 Smv Ps1 Pe1 Ps1 Pe1 Ps1 Pe1 Ps1 Pe1 Ps1
  Pe1 Smg So74 Sm3n Ps1 Pe1 Ps1 Pe1 Ps1 Pe1 Ps1 Pe1 Ps1 Pe1 Ps1 Pe1 Ps1 Pe1 Ps1 Pe1 Ps1 Pe1
  Ps1 Pe1 Ps1 Pe1 Sm1r Ps1 Pe1 Ps1 Pe1 Smw Ps1 Pe1 Sm76 So1c Sml So2 Sm6 So13 Cn2 Sow Cn1
  So2x Lu1c Ll1c Lu1 Ll1 Lu3 Ll2 Lu1 Ll1 Lu1 Ll1 Lu1 Ll1 Lu4 Ll1 Lu1 Ll2 Lu1 Ll6 Lm2 Lu3 Ll1
  Lu1 Ll1 Lu1 Ll1 Lu1 Ll1 Lu1 Ll1 Lu1 Ll1 Lu1 Ll1 Lu1 Ll1 Lu1 Ll1 Lu1 Ll1 Lu1 Ll1 Lu1 Ll1 Lu1
  Ll1 Lu1 Ll1 Lu1 Ll1 Lu1 Ll1 Lu1 Ll1 Lu1 Ll1 Lu1 Ll1 Lu1 Ll1 Lu1 Ll1 Lu1 Ll1 Lu1 Ll1 Lu1 Ll1
  Lu1 Ll1 Lu1 Ll1 Lu1 Ll1 Lu1 Ll1 Lu1 Ll1 Lu1 Ll1 Lu1 Ll1 Lu1 Ll1 Lu1 Ll1 Lu1 Ll1 Lu1 Ll1 Lu1
  Ll1 Lu1 Ll1 Lu1 Ll1 Lu1 Ll1 Lu1 Ll1 Lu1 Ll1 Lu1 Ll1 Lu1 Ll1 Lu1 Ll1 Lu1 Ll1 Lu1 Ll1 Lu1 Ll1
  Lu1 Ll1 Lu1 Ll1 Lu1 Ll2 So6 Lu1 Ll1 Lu1 Ll1 Mn3 Lu1 Ll1 Cn5 Po4 No1 Po2 Ll12 Cn1 Ll1 Cn5
  Ll1 Cn2 Lo1k Cn7 Lm1 Po1 Cne Mn1 Lon Cn9 Lo7 Cn1 Lo7 Cn1 Lo7 Cn1 Lo7 Cn1 Lo7 Cn1 Lo7 Cn1
  Lo7 Cn1 Lo7 Cn1 Mnw Po2 Pi1 Pf1 Pi1 Pf1 Po3 Pi1 Pf1 Po1 Pi1 Pf1 Po9 Pd1 Po2 Pd1 Po1 Pi1 Pf1
  Po2 Pi1 Pf1 Ps1 Pe1 Ps1 Pe1 Ps1 Pe1 Ps1 Pe1 Po5 Lm1 Poa Pd2 Po4 Pd1 Po1 Ps1 Pod So2 Po3 Ps1
  Pe1 Ps1 Pe1 Ps1 Pe1 Ps1 Pe1 Pd1 Cny Soq Cn1 So2h Cnc So5y Cnq Sog Zs1 Po3 So1 Lm1 Lo1 Nl1
  Ps1 Pe1 Ps1 Pe1 Ps1 Pe1 Ps1 Pe1 Ps1 Pe1 So2 Ps1 Pe1 Ps1 Pe1 Ps1 Pe1 Ps1 Pe1 Pd1 Ps1 Pe2 So1
  Nl9 Mn4 Mc2 Pd1 Lm5 So2 Nl3 Lm1 Lo1 Po1 So2 Cn1 Lo2e Cn2 Mn2 Sk2 Lm2 Lo1 Pd1 Lo2i Po1 Lm3
  Lo1 Cn5 Lo17 Cn1 Lo2m Cn1 So2 No4 Soa Low So12 Cn9 So1 Log Sov Cn1 Noa Sou No8 So1 Nof Sow
  Noa So13 Nof So8w Lo534 So1s Log7p Lm1 Lovr Cn3 So1j Cn9 Lo14 Lm6 Po2 Lo7g Lm1 Po3 Log Nda
  Lo2 Cnk Lu1 Ll1 Lu1 Ll1 Lu1 Ll1 Lu1 Ll1 Lu1 Ll1 Lu1 Ll1 Lu1 Ll1 Lu1 Ll1 Lu1 Ll1 Lu1 Ll1 Lu1
  Ll1 Lu1 Ll1 Lu1 Ll1 Lu1 Ll1 Lu1 Ll1 Lu1 Ll1 Lu1 Ll1 Lu1 Ll1 Lu1 Ll1 Lu1 Ll1 Lu1 Ll1 Lu1 Ll1
  Lu1 Ll1 Lo1 Mn1 Me3 Po1 Mna Po1 Lm1 Lu1 Ll1 Lu1 Ll1 Lu1 Ll1 Lu1 Ll1 Lu1 Ll1 Lu1 Ll1 Lu1 Ll1
  Lu1 Ll1 Lu1 Ll1 Lu1 Ll1 Lu1 Ll1 Lu1 Ll1 Lu1 Ll1 Lu1 Ll1 Lm2 Mn2 Lo1y Nla Mn2 Po6 Cn8 Skn
  Lm9 Sk2 Lu1 Ll1 Lu1 Ll1 Lu1 Ll1 Lu1 Ll1 Lu1 Ll1 Lu1 Ll1 Lu1 Ll3 Lu1 Ll1 Lu1 Ll1 Lu1 Ll1 Lu1
  Ll1 Lu1 Ll1 Lu1 Ll1 Lu1 Ll1 Lu1 Ll1 Lu1 Ll1 Lu1 Ll1 Lu1 Ll1 Lu1 Ll1 Lu1 Ll1 Lu1 Ll1 Lu1 Ll1
  Lu1 Ll1 Lu1 Ll1 Lu1 Ll1 Lu1 Ll1 Lu1 Ll1 Lu1 Ll1 Lu1 Ll1 Lu1 Ll1 Lu1 Ll1 Lu1 Ll1 Lu1 Ll1 Lu1
  Ll1 Lu1 Ll1 Lu1 Ll1 Lu1 Ll1 Lu1 Ll1 Lm1 Ll8 Lu1 Ll1 Lu1 Ll1 Lu2 Ll1 Lu1 Ll1 Lu1 Ll1 Lu1 Ll1
  Lu1 Ll1 Lm1 Sk2 Lu1 Ll1 Lu1 Ll1 Lo1 Lu1 Ll1 Lu1 Ll3 Lu1 Ll1 Lu1 Ll1 Lu1 Ll1 Lu1 Ll1 Lu1 Ll1
  Lu1 Ll1 Lu1 Ll1 Lu1 Ll1 Lu1 Ll1 Lu1 Ll1 Lu5 Ll1 Lu5 Ll1 Lu1 Ll1 Lu1 Ll1 Lu1 Ll1 Lu1 Ll1 Lu1
  Ll1 Lu1 Ll1 Lu1 Ll1 Lu4 Ll1 Lu1 Ll1 Lu2 Ll1 Cn2 Lu1 Ll1 Cn1 Ll1 Cn1 Ll1 Lu1 Ll1 Lu1 Ll1 Lu1
  Ll1 Lu1 Cnl Lm3 Lu1 Ll1 Lo1 Lm2 Ll1 Lo7 Mn1 Lo3 Mn1 Lo4 Mn1 Lon Mc2 Mn2 Mc1 So4 Mn1 Cn3 No6
  So2 Sc1 So1 Cn6 Lo1g Po4 Cn8 Mc2 Lo1e Mcg Mn2 Cn8 Po2 Nda Cn6 Mni Lo6 Po3 Lo1 Po1 Lo2 Mn1
  Nda Los Mn8 Po2 Lon Mnb Mc2 Cnb Po1 Lot Cn3 Mn3 Mc1 Lo1b Mn1 Mc2 Mn4 Mc2 Mn2 Mc3 Pod Cn1
  Lm1 Nda Cn4 Po2 Lo5 Mn1 Lm1 Lo9 Nda Lo5 Cn1 Lo15 Mn6 Mc2 Mn2 Mc2 Mn2 Cn9 Lo3 Mn1 Lo8 Mn1
  Mc1 Cn2 Nda Cn2 Po4 Log Lm1 Lo6 So3 Lo1 Mc1 Mn1 Mc1 Lo1e Mn1 Lo1 Mn3 Lo2 Mn2 Lo5 Mn2 Lo1
  Mn1 Lo1 Cno Lo2 Lm1 Po2 Lob Mc1 Mn2 Mc2 Po2 Lo1 Lm2 Mc1 Mn1 Cna Lo6 Cn2 Lo6 Cn2 Lo6 Cn9 Lo7
  Cn1 Lo7 Cn1 Ll17 Sk1 Lm4 Ll9 Lm1 Sk2 Cn4 Ll28 Loz Mc2 Mn1 Mc2 Mn1 Mc2 Po1 Mc1 Mn1 Cn2 Nda
  Cn6 Lo8mc Cnc Lon Cn4 Lo1d Cn4 Cs1kw Co4xs Loa6 Cn2 Lo2y Cn12 Ll7 Cnc Ll5 Cn5 Lo1 Mn1 Loa
  Sm1 Lod Cn1 Lo5 Cn1 Lo1 Cn1 Lo2 Cn1 Lo2 Cn1 Lo30 Skh Cng Loa3 Pe1 Ps1 Sog Lo1s Cn2 Lo1i Cn7
  So1 Cnw Loc Sc1 So3 Mng Po7 Ps1 Pe1 Po1 Cn6 Mng Po1 Pd2 Pc2 Ps1 Pe1 Ps1 Pe1 Ps1 Pe1 Ps1 Pe1
  Ps1 Pe1 Ps1 Pe1 Ps1 Pe1 Ps1 Pe1 Po2 Ps1 Pe1 Po4 Pc3 Po3 Cn1 Po4 Pd1 Ps1 Pe1 Ps1 Pe1 Ps1 Pe1
  Po3 Sm1 Pd1 Sm3 Cn1 Po1 Sc1 Po2 Cn4 Lo5 Cn1 Lo3r Cn2 Cf1 Cn1 Po3 Sc1 Po3 Ps1 Pe1 Po1 Sm1
  Po1 Pd1 Po2 Nda Po2 Sm3 Po2 Luq Ps1 Po1 Pe1 Sk1 Pc1 Sk1 Llq Ps1 Sm1 Pe1 Sm1 Ps1 Pe1 Po1 Ps1
  Pe1 Po2 Loa Lm1 Lo19 Lm2 Lov Cn3 Lo6 Cn2 Lo6 Cn2 Lo6 Cn2 Lo3 Cn3 Sc2 Sm1 Sk1 So1 Sc2 Cn1
  So1 Sm4 So2 Cna Cf3 So2 Cn2 Loc Cn1 Loq Cn1 Loj Cn1 Lo2 Cn1 Lof Cn2 Loe Cny Lo3f Cn5 Po3
  Cn4 No19 Cn3 So9 Nl1h No4 Soh No2 So3 Cn1 Sod Cn3 So1 Cn1b So19 Mn1 Cn3m Lot Cn3 Lo1d Cnf
  Mn1 Nor Cn4 Low No4 Cn9 Lok Nl1 Lo8 Nl1 Cn5 Lo12 Mn5 Cn5 Lou Cn1 Po1 Lo10 Cn4 Lo8 Po1 Nl5
  Cn16 Lu14 Ll14 Lo26 Cn2 Nda Cn6 Lu10 Cn4 Ll10 Cn4 Lo14 Cn8 Lo1g Cnb Po1 Lub Cn1 Luf Cn1 Lu7
  Cn1 Lu2 Cn1 Llb Cn1 Llf Cn1 Ll7 Cn1 Ll2 Cn3 Lo1g Cnc Lo8n Cn9 Lom Cna Lo8 Cno Lm6 Cn1 Lm16
  Cn1 Lm9 Cn1x Lo6 Cn2 Lo1 Cn1 Lo18 Cn1 Lo2 Cn3 Lo1 Cn2 Lon Cn1 Po1 No8 Lon So2 No7 Lov Cn8
  No9 Cn1c Loj Cn1 Lo2 Cn5 No5 Lom No6 Cn3 Po1 Loq Cn5 Po1 Cn1s Lo1k Cn4 No2 Lo2 Nog Cn2 No1a
  Lo1 Mn3 Cn1 Mn2 Cn5 Mn4 Lo4 Cn1 Lo3 Cn1 Lot Cn2 Mn3 Cn4 Mn1 No9 Cn7 Po9 Cn7 Lot No2 Po1 Lot
  No3 Cnw Lo8 So1 Los Mn2 Cn4 No5 Po7 Cn9 Lo1i Cn3 Po7 Lom Cn2 No8 Loj Cn5 No8 Loi Cn7 Po4
  Cnc No7 Cn28 Lo21 Cn1j Lu1f Cnd Ll1f Cn7 No6 Lo10 Mn4 Cn8 Nda Cn6 Nda Lo4 Lm1 Lo1 Lum Cn3
  Mn5 Pd1 Lm1 Llm Cn8 Sm2 Cn5s Nov Cn1 Lo16 Cn1 Mn2 Pd1 Cn2 Lo2 Cng Lo3 Cn1j Mn4 Lot Noa Lo1
  Cn8 Lom Mnb No4 Po5 Cnm Loi Mn4 Po4 Cn12 Lol No7 Cnk Lon Cn9 Mc1 Mn1 Mc1 Lo1h Mnf Po7 Cn4
  Nok Nda Mn1 Lo2 Mn2 Lo1 Cn9 Mn3 Mc1 Lo19 Mc3 Mn4 Mc2 Mn2 Po2 Cf1 Po4 Mn1 Cna Cf1 Cn2 Lop
  Cn7 Nda Cn6 Mn3 Lo10 Mn5 Mc1 Mn8 Cn1 Nda Po4 Lo1 Mc2 Lo1 Cn8 Loz Mn1 Po2 Lo1 Cn9 Mn2 Mc1
  Lo1c Mc3 Mn9 Mc2 Lo4 Po4 Mn4 Po1 Mc1 Mn1 Nda Lo1 Po1 Lo1 Po3 Cn1 Nok Cnb Loi Cn1 Lop Mc3
  Mn3 Mc2 Mn1 Mc1 Mn2 Po6 Mn1 Lo2 Mn1 Cn1q Lo7 Cn1 Lo1 Cn1 Lo4 Cn1 Lof Cn1 Loa Po1 Cn6 Lo1b
  Mn1 Mc3 Mn8 Cn5 Nda Cn6 Mn2 Mc2 Cn1 Lo8 Cn2 Lo2 Cn2 Lom Cn1 Lo7 Cn1 Lo2 Cn1 Lo5 Cn1 Mn2 Lo1
  Mc2 Mn1 Mc4 Cn2 Mc2 Cn2 Mc3 Cn2 Lo1 Cn6 Mc1 Cn5 Lo5 Mc2 Cn2 Mn7 Cn3 Mn5 Cn3v Lo1h Mc3 Mn8
  Mc2 Mn3 Mc1 Mn1 Lo4 Po5 Nda Po2 Cn1 Po1 Mn1 Lo3 Cnu Lo1c Mc3 Mn6 Mc1 Mn1 Mc4 Mn2 Mc1 Mn2
  Lo2 Po1 Lo1 Cn8 Nda Cn4m Lo1b Mc3 Mn4 Cn2 Mc4 Mn2 Mc1 Mn2 Pon Lo4 Mn2 Cny Lo1c Mc3 Mn8 Mc2
  Mn1 Mc1 Mn2 Po3 Lo1 Cnb Nda Cn6 Pod Cnj Lo17 Mn1 Mc1 Mn1 Mc2 Mn6 Mc1 Mn1 Lo1 Po1 Cn6 Nda
  Cn6 Ndk Cns Lor Cn2 Mn3 Mc2 Mn4 Mc1 Mn5 Cn4 Nda No2 Po3 So1 Lo7 Cn55 Lo18 Mc3 Mn9 Mc1 Mn2
  Po1 Cn2s Luw Llw Nda No9 Cnc Lo8 Cn2 Lo1 Cn2 Lo8 Cn1 Lo2 Cn1 Loo Mc6 Cn1 Mc2 Cn2 Mn2 Mc1
  Mn1 Lo1 Mc1 Lo1 Mc1 Mn1 Po3 Cn9 Nda Cn1y Lo8 Cn2 Lo13 Mc3 Mn4 Cn2 Mn2 Mc4 Mn1 Lo1 Po1 Lo1
  Mc1 Cnr Lo1 Mna Lo14 Mn6 Mc1 Lo1 Mn4 Po8 Mn1 Cn8 Lo1 Mn6 Mc2 Mn3 Lo1a Mnd Mc1 Mn2 Po3 Lo1
  Po5 Cnd Lo21 Cn7 Poa Cn52 Lox Po1 Cne Nda Cn6 Lo9 Cn1 Lo11 Mc1 Mn7 Cn1 Mn6 Mc1 Mn1 Lo1 Po5
  Cna Nda Noj Cn3 Po2 Lou Cn2 Mnm Cn1 Mc1 Mn7 Mc1 Mn2 Mc1 Mn2 Cn21 Lo7 Cn1 Lo2 Cn1 Lo12 Mn6
  Cn3 Mn1 Cn1 Mn2 Cn1 Mn7 Lo1 Mn1 Cn8 Nda Cn6 Lo6 Cn1 Lo2 Cn1 Low Mc5 Cn1 Mn2 Cn1 Mc2 Mn1 Mc1
  Mn1 Lo1 Cn7 Nda Cn8m Loj Mn2 Mc2 Po2 Cn7 Mn2 Lo1 Mc1 Lod Cn1 Loy Mc2 Mn5 Cn3 Mc2 Mn1 Mc1
  Mn1 Pod Nda Mn1 Cn2d Lo1 Cnf Nol So8 Sc4 Soh Cnd Po1 Lopm Cn2u Nl33 Cn1 Po5 Cnb Lo5g Cn218
  Lo2p Po2 Cnd Lots Cfg Mn1 Lo6 Mnf Cna Lo32z Cn5 Log7 Cn6nt Loft Cn7 Lov Cn1 Nda Cn4 Po2
  Lo27 Cn1 Nda Cn6 Lou Cn2 Mn5 Po1 Cna Lo1c Mn7 Po5 So4 Lm4 Po1 So1 Cna Nda Cn1 No7 Cn1 Lol
  Cn5 Loj Cnj4 Luw Llw Non Po4 Cn2t Lo23 Cn4 Mn1 Lo1 Mc1j Cn7 Mn4 Lmd Cn1s Lm2 Po1 Lm1 Mn1
  Cnb Mc2 Cne Lo4qg Cn8 Loye Cn15 Loa Cn6w7 Lm4 Cn1 Lm7 Cn1 Lm2 Cn1 Lo83 Cnf Lo1 Cnt Lo3 Cn2
  Lo1 Cne Lo4 Cn8 Lob0 Cn1s4 Lo2z Cn5 Lod Cn3 Lo9 Cn7 Loa Cn2 So1 Mn2 Po1 Cf4 Cn318 So6o Nda
  Cn6 Soc4 Cn24 Mn1a Cn2 Mnn Cn9 So38 Cn1o So6u Cna So13 Cn2 So1o Mc2 Mn3 So3 Mc6 Cf8 Mn8 So2
  Mn7 Sou Mn4 So1p Cnl So1u Mn3 So1 Cn3e Nok Cnc Nok Cnc So2f Cn9 Nop Cn3r Luq Llq Luq Ll7
  Cn1 Lli Luq Llq Lu1 Cn1 Lu2 Cn2 Lu1 Cn2 Lu2 Cn2 Lu4 Cn1 Lu8 Ll4 Cn1 Ll1 Cn1 Ll7 Cn1 Llb Luq
  Llq Lu2 Cn1 Lu4 Cn2 Lu8 Cn1 Lu7 Cn1 Llq Lu2 Cn1 Lu4 Cn1 Lu5 Cn1 Lu1 Cn3 Lu7 Cn1 Llq Luq Llq
  Luq Llq Luq Llq Luq Llq Luq Llq Luq Lls Cn2 Lup Sm1 Llp Sm1 Ll6 Lup Sm1 Llp Sm1 Ll6 Lup Sm1
  Llp Sm1 Ll6 Lup Sm1 Llp Sm1 Ll6 Lup Sm1 Llp Sm1 Ll6 Lu1 Ll1 Cn2 Nd1e Soe8 Mn1j So4 Mn1e So8
  Mn1 Soe Mn1 So2 Po5 Cnf Mn5 Cn1 Mnf Cnuo Lla Lo1 Llk Cn6 Ll6 Cn5x Mn7 Cn1 Mnh Cn2 Mn7 Cn1
  Mn2 Cn1 Mn5 Cn5 Lm1q Cnx Mn1 Cn34 Lo19 Cn3 Mn7 Lm7 Cn2 Nda Cn4 Lo1 So1 Cn8w Lou Mn1 Cnh
  Lo18 Mn4 Nda Cn5 Sc1 Cncw Lor Lm1 Mn4 Nda Cnkm Lo7 Cn1 Lo4 Cn1 Lo2 Cn1 Lof Cn1 Lo5h Cn2 No9
  Mn7 Cn15 Luy Lly Mn7 Lm1 Cn4 Nda Cn4 Po2 Cnlt No1n So1 No3 Sc1 No4 Cn24 No19 So1 Nof Cn5e
  Lo4 Cn1 Lor Cn1 Lo2 Cn1 Lo1 Cn2 Lo1 Cn1 Loa Cn1 Lo4 Cn1 Lo1 Cn1 Lo1 Cn6 Lo1 Cn4 Lo1 Cn1 Lo1
  Cn1 Lo1 Cn1 Lo3 Cn1 Lo2 Cn1 Lo1 Cn2 Lo1 Cn1 Lo1 Cn1 Lo1 Cn1 Lo1 Cn1 Lo1 Cn1 Lo2 Cn1 Lo1 Cn2
  Lo4 Cn1 Lo7 Cn1 Lo4 Cn1 Lo4 Cn1 Lo1 Cn1 Loa Cn1 Loh Cn5 Lo3 Cn1 Lo5 Cn1 Loh Cn1g Sm2 Cn7i
  So18 Cn4 So2s Cnc Sof Cn2 Sof Cn1 Sof Cn1 So11 Cna Nod So4h Cn1k Sot Cnd So18 Cn4 So9 Cn7
  So2 Cne So6 Cn4a So6z Sk5 Sok8 Cn4 Soh Cn3 Sod Cn3 So3b Cn4 So2n Cn6 Soc Cn4 So1 Cnf Soc
  Cn4 So1k Cn8 Soa Cn6 So14 Cn8 Sou Cn2 Soc Cn4 So2 Cn1q So9g Cnc Soe Cn2 Sod Cn3 Soa Cn5
  So1k Cn7 Sof Cn2 Sob Cn6 So9 Cn7 So43 Cn1 So2k Nda Cnsm Lowyo Cnw Lo37e Cn6 Lo66 Cn2 Lo4g2
  Cne Lo5rl Cnf Loha Cn1wi Lof2 Cn15u Lo3t7 Cn5 Lo38g Cnf975 Cf1 Cnu Cf2o Cn3k Mn6o Cn1e6o
  Co1eke Cn2 Co1eke Cn2"

/-- The runs of equal category: the code point after the run and the category. -/
def categoryRuns : List (Nat × Category) :=
  ((words categoryTable).foldl (fun (runs, next) word =>
    let next := next + readNumber (word.drop 2)
    match Category.ofCode? (String.ofList (word.take 2)) with
    | some category => ((next, category) :: runs, next)
    | none => (runs, next)) (([], 0) : List (Nat × Category) × Nat)).1.reverse

/-- The general category of a character. -/
def category (c : Char) : Category :=
  match categoryRuns.find? fun run => decide (c.toNat < run.1) with
  | some (_, category) => category
  | none => .unassigned

/-- Whether a character belongs to one of the categories. -/
def inCategories (categories : List Category) (c : Char) : Bool :=
  categories.contains (category c)

end Unicode

end DataContract
