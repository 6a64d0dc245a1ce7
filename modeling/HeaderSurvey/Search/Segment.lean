import HeaderSurvey.Search.Trait
import HeaderSurvey.Unicode.Script

/-!
# Classes of characters at breaks

The classes by which a text is divided into characters as a reader sees them, into words and into
sentences, under their names as they are looked up. Most of them follow from the general category
and the traits of a character.
-/

namespace HeaderSurvey.Search

open Unicode (Range charactersOf collect common exclude)

/-- The characters of the scripts with some names. -/
def ofScripts (names : List String) : List Range :=
  collect ((names.filterMap Unicode.script?).flatMap (·.ranges))

/-- Carriage returns and newlines, which are classes of their own. -/
def lineEnd? (name : String) : Option (List Range) :=
  match name with
  | "cr" => some (among "\r")
  | "lf" => some (among "\n")
  | _ => none

/-- The joiner, which is a class of its own. -/
def joiner : List Range :=
  among "\u200d"

/-! ### Characters as a reader sees them -/

/-- The marks that stand beside a letter and are no part of it. -/
def marksApart : List Range :=
  let marks := among "\u102b\u102c\u1038\u1083\u108f\u1a61\u1a63\u1a64\uaa7b\uaa7d"
  collect
    (marks ++ [(0x1062, 0x1064), (0x1067, 0x106D), (0x1087, 0x108C), (0x109A, 0x109C)] ++
      [(0x11720, 0x11721)])

/-- The letters that are written before the cluster that they belong to. -/
def prependedLetters : List Range :=
  [
    (0xD4E, 0xD4E), (0x111C2, 0x111C3), (0x113D1, 0x113D1), (0x1193F, 0x1193F), (0x11941, 0x11941),
    (0x11A84, 0x11A89), (0x11D46, 0x11D46), (0x11F02, 0x11F02)
  ]

/-- The characters that extend the one before them, skin colours among them. -/
def clusterExtend : List Range :=
  collect (extending ++ skinColours)

/-- The controls and format characters that end every cluster. -/
def clusterControl : List Range :=
  let ignorable := exclude Unicode.defaultIgnorable Unicode.assigned
  let others := collect (among "\r\n\u200d" ++ Unicode.prependedMark ++ clusterExtend)
  exclude (collect (charactersOf [.zl, .zp, .cc, .cf] ++ ignorable)) others

/-- The marks that take a place of their own and belong to the character before them. -/
def spacingMarks : List Range :=
  let marks := exclude (charactersOf [.mc]) (collect (clusterExtend ++ marksApart))
  collect (marks ++ among "\u0e33\u0eb3")

/-- The vowels in the middle of a syllable. -/
def medialVowels : List Range :=
  [(0x1160, 0x11A7), (0xD7B0, 0xD7C6), (0x16D63, 0x16D63), (0x16D67, 0x16D6A)]

/-- The syllables of Hangul that have no final letter: every twenty-eighth. -/
def openSyllables : List Range :=
  (List.range 399).map fun i => (0xAC00 + 28 * i, 0xAC00 + 28 * i)

/-- The characters of the class of cluster breaks that a name stands for. -/
def clusterClass? (name : String) : Option (List Range) :=
  match name with
  | "cn" | "control" => some clusterControl
  | "ex" | "extend" => some clusterExtend
  | "l" => some [(0x1100, 0x115F), (0xA960, 0xA97C)]
  | "v" => some medialVowels
  | "t" => some [(0x11A8, 0x11FF), (0xD7CB, 0xD7FB)]
  | "lv" => some openSyllables
  | "lvt" => some (exclude [(0xAC00, 0xD7A3)] openSyllables)
  | "pp" | "prepend" => some (collect (Unicode.prependedMark ++ prependedLetters))
  | "ri" | "regionalindicator" => some regionalIndicators
  | "sm" | "spacingmark" => some spacingMarks
  | "zwj" => some joiner
  | _ => lineEnd? name

/-! ### Words -/

/-- The marks and skin colours that belong to the character before them. -/
def wordExtend : List Range :=
  exclude (collect (extending ++ charactersOf [.mc] ++ skinColours)) joiner

/-- The format characters that a text can be read without. -/
def formats : List Range :=
  exclude (charactersOf [.cf]) (collect (extending ++ joiner ++ Unicode.prependedMark))

/-- The signs above and around numbers: all prepended marks but the Syriac abbreviation. -/
def numberSigns : List Range :=
  exclude Unicode.prependedMark (among "\u070f")

/-- The letters of Hebrew. -/
def hebrewLetters : List Range :=
  common (charactersOf [.lo]) (ofScripts ["hebr"])

/-- The letters of Katakana and what is used like them. -/
def katakana : List Range :=
  let signs :=
    [(0x3031, 0x3035), (0x309B, 0x309C), (0x30A0, 0x30FF), (0x31F0, 0x31FF), (0x32D0, 0x32FE),
      (0x3300, 0x3357), (0xFF66, 0xFF9D)]
  exclude (collect (signs ++ ofScripts ["kana"])) (among "\u30fb")

/-- The characters of the scripts that are written without blanks between words. -/
def undivided : List Range :=
  ofScripts ["thai", "laoo", "mymr", "khmr", "tale", "talu", "lana", "tavt", "ahom"]

/-- The signs that are used like letters. -/
def letterSigns : List Range :=
  let signs := among "\u02ed\u055e\u058a\u05f3\u070f\ua720\ua721\ua789\ua78a\uab5b"
  collect
    (signs ++ [(0x2C2, 0x2C5), (0x2D2, 0x2D7), (0x2DE, 0x2DF), (0x2E5, 0x2EB), (0x2EF, 0x2FF)] ++
      [(0x55A, 0x55C), (0xA708, 0xA716)])

/-- The letters that words are made of, where blanks stand between words. -/
def wordLetters : List Range :=
  let others :=
    collect
      (wordExtend ++ Unicode.ideographic ++ katakana ++ ofScripts ["hira"] ++ hebrewLetters ++
        undivided)
  collect (exclude alphabetic others ++ letterSigns)

/-- The characters of the class of word breaks that a name stands for. -/
def wordClass? (name : String) : Option (List Range) :=
  match name with
  | "dq" | "doublequote" => some (among "\"")
  | "sq" | "singlequote" => some (among "\u0027")
  | "ex" | "extendnumlet" => some (collect (charactersOf [.pc] ++ among "\u202f"))
  | "extend" => some wordExtend
  | "fo" | "format" => some (exclude formats (among "\u200b"))
  | "hl" | "hebrewletter" => some hebrewLetters
  | "ka" | "katakana" => some katakana
  | "le" | "aletter" => some wordLetters
  | "mb" | "midnumlet" => some (among ".\u2018\u2019\u2024\ufe52\uff07\uff0e")
  | "ml" | "midletter" => some (among ":\u00b7\u0387\u055f\u05f4\u2027\ufe13\ufe55\uff1a")
  | "mn" | "midnum" =>
    some (among ",;\u037e\u0589\u060c\u060d\u066c\u07f8\u2044\ufe10\ufe14\ufe50\ufe54\uff0c\uff1b")
  | "nl" | "newline" => some (among "\x0b\x0c\u0085\u2028\u2029")
  | "nu" | "numeric" => some (collect (decimalDigits ++ among "\u066b" ++ numberSigns))
  | "ri" | "regionalindicator" => some regionalIndicators
  | "wsegspace" => some (exclude (charactersOf [.zs]) (among "\u00a0\u2007\u202f"))
  | "zwj" => some joiner
  | _ => lineEnd? name

/-! ### Sentences -/

/-- The small letters, without those of Georgian. -/
def sentenceLower : List Range :=
  exclude lowercase (collect (extending ++ georgianSmall))

/-- The capitals, without those of Georgian. -/
def sentenceUpper : List Range :=
  exclude (collect (uppercase ++ titlecase)) [(0x1C90, 0x1CBA), (0x1CBD, 0x1CBF)]

/-- The marks and joiners that belong to the character before them. -/
def sentenceExtend : List Range :=
  collect (extending ++ charactersOf [.mc] ++ joiner)

/-- The letters without a case. -/
def sentenceLetters : List Range :=
  let others := collect (sentenceLower ++ sentenceUpper ++ sentenceExtend)
  collect (exclude alphabetic others ++ among "\u05f3")

/-- The full stops that may also be a part of a word. -/
def sentenceDots : List Range :=
  among ".\u2024\ufe52\uff0e"

/-- The quotation marks that are neither opening nor closing ones. -/
def plainQuotes : List Range :=
  let marks := among "\"\u0027\u2e00\u2e01\u2e06\u2e07\u2e08\u2e0b"
  collect (marks ++ [(0x275B, 0x2760), (0x1F676, 0x1F678)])

/-- The signs that a sentence goes on behind. -/
def sentenceContinue : List Range :=
  collect
    (among ",-:;\u037e\u055d\u060c\u060d\u07f8\u1802\u1808\u2013\u2014\u3001" ++
      among "\ufe10\ufe11\ufe13\ufe14\ufe31\ufe32\ufe50\ufe51\ufe54\ufe55\ufe58\ufe63" ++
      among "\uff0c\uff0d\uff1a\uff1b\uff64")

/-- The characters of the class of sentence breaks that a name stands for. -/
def sentenceClass? (name : String) : Option (List Range) :=
  match name with
  | "at" | "aterm" => some sentenceDots
  | "cl" | "close" => some (collect (charactersOf [.ps, .pe, .pi, .pf] ++ plainQuotes))
  | "ex" | "extend" => some sentenceExtend
  | "fo" | "format" => some formats
  | "le" | "oletter" => some sentenceLetters
  | "lo" | "lower" => some sentenceLower
  | "nu" | "numeric" => some (collect (decimalDigits ++ among "\u066b\u066c" ++ numberSigns))
  | "sc" | "scontinue" => some sentenceContinue
  | "se" | "sep" => some (among "\u0085\u2028\u2029")
  | "sp" => some (exclude blankCharacters (among "\r\n\u0085\u2028\u2029"))
  | "st" | "sterm" => some (exclude Unicode.sentenceTerminal sentenceDots)
  | "up" | "upper" => some sentenceUpper
  | _ => lineEnd? name

end HeaderSurvey.Search
