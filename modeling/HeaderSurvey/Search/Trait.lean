import HeaderSurvey.Search.Category
import HeaderSurvey.Text.CaseFold
import HeaderSurvey.Unicode.Alphabetic
import HeaderSurvey.Unicode.Capital
import HeaderSurvey.Unicode.Casing
import HeaderSurvey.Unicode.Emoji
import HeaderSurvey.Unicode.Letterform
import HeaderSurvey.Unicode.Printable
import HeaderSurvey.Unicode.Sign

/-!
# Traits of characters

The properties that a character has or has not, each as the set of the characters that have it,
under their names as they are looked up. Many are told by the general category and a few characters
besides, and need no table of their own.
-/

namespace HeaderSurvey.Search

open Unicode (Range charactersOf collect exclude)

/-! ### Sets of characters -/

/-- The characters of a string. -/
def among (chars : String) : List Range :=
  collect (chars.toList.map fun c => (c.toNat, c.toNat))

/-- The set without the characters that are not known yet. -/
def known (ranges : List Range) : List Range :=
  exclude ranges Unicode.recent

/-! ### Blanks, digits and words -/

/-- The blanks of every script. -/
def blankCharacters : List Range :=
  [
    (0x9, 0xD), (0x20, 0x20), (0x85, 0x85), (0xA0, 0xA0), (0x1680, 0x1680), (0x2000, 0x200A),
    (0x2028, 0x2029), (0x202F, 0x202F), (0x205F, 0x205F), (0x3000, 0x3000)
  ]

/-- The two characters that ask for, or forbid, a join of their neighbours. -/
def joinControls : List Range := [(0x200C, 0x200D)]

/-- Letters of every script, letter numbers and the marks that belong to a letter. -/
def alphabetic : List Range :=
  known Unicode.alphabetic

/-- The decimal digits of every script. -/
def decimalDigits : List Range :=
  charactersOf [.nd]

/-- What words are made of: letters, marks, decimal digits, connectors and join controls. -/
def wordCharacters : List Range :=
  collect (alphabetic ++ charactersOf [.mn, .mc, .me, .nd, .pc] ++ joinControls)

/-! ### Case -/

/-- The small letters. -/
def lowercase : List Range :=
  collect (charactersOf [.ll] ++ Unicode.otherLowercase)

/-- The capitals. -/
def uppercase : List Range :=
  collect (charactersOf [.lu] ++ Unicode.otherUppercase)

/-- The letters that have a case. The pharyngeal fricative counts as a small letter, though it has
no capital. -/
def cased : List Range :=
  collect (known Unicode.cased ++ among "\u0295")

/-- The letters that stand at the start of a word in a title. -/
def titlecase : List Range :=
  charactersOf [.lt]

/-- The capitals that have a small letter, of one character or of more. -/
def withSmallLetter : List Range :=
  collect (among "\u0130" ++ Text.capitals.map fun (capital, _) => (capital, capital))

/-- The variant forms of small letters. -/
def variantForms : List Range :=
  collect (Text.variantForms.map fun (form, _) => (form, form))

/-- The small letters that have a capital, of one character or of more. -/
def withCapital : List Range :=
  let small := Text.capitals.map fun (_, small) => (small, small)
  collect (small ++ variantForms ++ among "\u0131" ++ Unicode.longCapital)

/-- The letters of Cherokee that were its only ones: their case runs the other way. -/
def oldCherokee : List Range := [(0x13A0, 0x13F5)]

/-- The letters of Cherokee that came later. -/
def newCherokee : List Range := [(0x13F8, 0x13FD), (0xAB70, 0xABBF)]

/-- The characters that folding changes in any text. -/
def changedByFolding : List Range :=
  let folded := exclude variantForms (among "\u1fbe\u1fd3\u1fe3")
  collect (exclude withSmallLetter oldCherokee ++ newCherokee ++ folded ++ Unicode.longFolded)

/-- The letters of Georgian that begin no word with a capital. -/
def georgianSmall : List Range := [(0x10D0, 0x10FA), (0x10FD, 0x10FF)]

/-- The characters that are written otherwise at the start of a title. -/
def changedInTitle : List Range :=
  let capitals := among "\u01c4\u01c7\u01ca\u01f1"
  exclude (collect (withCapital ++ capitals)) (collect (titlecase ++ georgianSmall))

/-! ### Identifiers -/

/-- The characters that extend the one before them. -/
def extending : List Range :=
  known Unicode.graphemeExtend

/-- The characters that start an identifier although they are no letters. -/
def otherIdStart : List Range :=
  among "\u1885\u1886\u2118\u212e\u309b\u309c"

/-- The characters that go on with an identifier although they are no letters, marks or digits. -/
def otherIdContinue : List Range :=
  collect (among "\u00b7\u0387\u19da\u200c\u200d\u30fb\uff65" ++ [(0x1369, 0x1371)])

/-- The characters that an identifier can begin with. -/
def idStart : List Range :=
  let letters := charactersOf [.lu, .ll, .lt, .lm, .lo, .nl]
  collect (exclude letters (among "\u2e2f") ++ otherIdStart)

/-- The characters that an identifier is made of. -/
def idContinue : List Range :=
  collect (idStart ++ charactersOf [.mn, .mc, .nd, .pc] ++ otherIdContinue)

/-- The characters of an identifier whose decompositions do not fit in one. -/
def decomposedOutside : List Range :=
  let signs := among "\u037a\u309b\u309c\ufdfa\ufdfb"
  let marks := among "\ufe70\ufe72\ufe74\ufe76\ufe78\ufe7a\ufe7c\ufe7e"
  collect (signs ++ marks ++ [(0xFC5E, 0xFC63)])

/-- The characters that go on with an identifier once they are decomposed. -/
def decomposedToContinue : List Range :=
  among "\u0e33\u0eb3\uff9e\uff9f"

/-! ### Operators and code points -/

/-- The operators that describe an ideograph by two parts. -/
def binaryOperators : List Range := [(0x2FF0, 0x2FF1), (0x2FF4, 0x2FFD), (0x31EF, 0x31EF)]

/-- The code points that never stand for a character: the last two of every plane, and one run. -/
def noncharacters : List Range :=
  let ends := (List.range 17).map fun plane => (plane * 0x10000 + 0xFFFE, plane * 0x10000 + 0xFFFF)
  collect ((0xFDD0, 0xFDEF) :: ends)

/-- The letters that stand for a region in pairs. -/
def regionalIndicators : List Range := [(0x1F1E6, 0x1F1FF)]

/-- The colours of skin. -/
def skinColours : List Range := [(0x1F3FB, 0x1F3FF)]

/-- The characters that a character can be built on. -/
def graphemeBase : List Range :=
  exclude Unicode.assigned (collect (charactersOf [.zl, .zp, .cc, .cf, .co] ++ extending))

/-- The hexadecimal digits of ASCII. -/
def asciiHexadecimalDigits : List Range := [(48, 57), (65, 70), (97, 102)]

/-- The hexadecimal digits, of full width too. -/
def hexadecimalDigits : List Range :=
  let wide := asciiHexadecimalDigits.map fun (first, last) => (first + 0xFEE0, last + 0xFEE0)
  asciiHexadecimalDigits ++ wide

/-- The blanks that may stand in a pattern, and the marks of direction. -/
def patternBlanks : List Range :=
  [(0x9, 0xD), (0x20, 0x20), (0x85, 0x85), (0x200E, 0x200F), (0x2028, 0x2029)]

/-! ### Names -/

/-- The characters with the trait that a name stands for. -/
def trait? (name : String) : Option (List Range) :=
  match name with
  | "ahex" | "asciihexdigit" => some asciiHexadecimalDigits
  | "alpha" | "alphabetic" => some alphabetic
  | "bidic" | "bidicontrol" => some Unicode.bidiControl
  | "cased" => some cased
  | "ci" | "caseignorable" => some (known Unicode.caseIgnorable)
  | "cwcf" | "changeswhencasefolded" => some changedByFolding
  | "cwcm" | "changeswhencasemapped" => some (collect (withSmallLetter ++ withCapital))
  | "cwl" | "changeswhenlowercased" => some withSmallLetter
  | "cwt" | "changeswhentitlecased" => some changedInTitle
  | "cwu" | "changeswhenuppercased" => some (collect (withCapital ++ titlecase))
  | "dash" => some Unicode.dash
  | "dep" | "deprecated" => some Unicode.deprecated
  | "di" | "defaultignorablecodepoint" => some Unicode.defaultIgnorable
  | "dia" | "diacritic" => some Unicode.diacritic
  | "ebase" | "emojimodifierbase" => some Unicode.emojiModifierBase
  | "ecomp" | "emojicomponent" => some Unicode.emojiComponent
  | "emod" | "emojimodifier" => some skinColours
  | "emoji" => some Unicode.emoji
  | "epres" | "emojipresentation" => some Unicode.emojiPresentation
  | "ext" | "extender" => some Unicode.extender
  | "extpict" | "extendedpictographic" => some Unicode.pictographic
  | "grbase" | "graphemebase" => some graphemeBase
  | "grext" | "graphemeextend" => some extending
  | "grlink" | "graphemelink" => some Unicode.virama
  | "hex" | "hexdigit" => some hexadecimalDigits
  | "hyphen" => some Unicode.hyphen
  | "idc" | "idcontinue" => some idContinue
  | "idcompatmathcontinue" =>
    some (collect (Unicode.mathIdentifierStart ++ Unicode.mathIdentifierScript))
  | "idcompatmathstart" => some Unicode.mathIdentifierStart
  | "ideo" | "ideographic" => some Unicode.ideographic
  | "ids" | "idstart" => some idStart
  | "idsb" | "idsbinaryoperator" => some binaryOperators
  | "idst" | "idstrinaryoperator" => some [(0x2FF2, 0x2FF3)]
  | "idsu" | "idsunaryoperator" => some [(0x2FFE, 0x2FFF)]
  | "joinc" | "joincontrol" => some joinControls
  | "loe" | "logicalorderexception" => some Unicode.logicalOrderException
  | "lower" | "lowercase" => some lowercase
  | "math" => some (collect (charactersOf [.sm] ++ Unicode.otherMath))
  | "mcm" | "modifiercombiningmark" => some Unicode.modifierCombiningMark
  | "nchar" | "noncharactercodepoint" => some noncharacters
  | "oalpha" | "otheralphabetic" =>
    some (exclude alphabetic (charactersOf [.lu, .ll, .lt, .lm, .lo, .nl]))
  | "odi" | "otherdefaultignorablecodepoint" => some Unicode.otherDefaultIgnorable
  | "ogrext" | "othergraphemeextend" => some (exclude extending (charactersOf [.mn, .me]))
  | "oidc" | "otheridcontinue" => some otherIdContinue
  | "oids" | "otheridstart" => some otherIdStart
  | "olower" | "otherlowercase" => some Unicode.otherLowercase
  | "omath" | "othermath" => some Unicode.otherMath
  | "oupper" | "otheruppercase" => some Unicode.otherUppercase
  | "patsyn" | "patternsyntax" => some Unicode.patternSyntax
  | "patws" | "patternwhitespace" => some patternBlanks
  | "pcm" | "prependedconcatenationmark" => some Unicode.prependedMark
  | "qmark" | "quotationmark" => some Unicode.quotationMark
  | "radical" => some Unicode.radical
  | "ri" | "regionalindicator" => some regionalIndicators
  | "sd" | "softdotted" => some Unicode.softDotted
  | "sterm" | "sentenceterminal" => some Unicode.sentenceTerminal
  | "term" | "terminalpunctuation" => some Unicode.terminalPunctuation
  | "uideo" | "unifiedideograph" => some Unicode.unifiedIdeograph
  | "upper" | "uppercase" => some uppercase
  | "vs" | "variationselector" => some Unicode.variationSelector
  | "wspace" | "whitespace" | "space" => some blankCharacters
  | "xidc" | "xidcontinue" => some (exclude idContinue decomposedOutside)
  | "xids" | "xidstart" =>
    some (exclude idStart (collect (decomposedOutside ++ decomposedToContinue)))
  | _ => none

end HeaderSurvey.Search
