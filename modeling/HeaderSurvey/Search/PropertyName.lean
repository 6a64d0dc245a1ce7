/-!
# Names of properties

The names under which a search pattern can ask for a property of characters, and the properties that
are known by name alone. Capitals, blanks, hyphens and underscores make no difference in a name, nor
does an "is" in front of it.
-/

namespace HeaderSurvey.Search

/-- A name as it is looked up. The "is" of ISO comments belongs to their name. -/
def normalName (name : List Char) : String :=
  let plain (cs : List Char) : List Char :=
    (cs.filter fun c => c.val < 128 && c ≠ ' ' && c ≠ '_' && c ≠ '-').map Char.toLower
  match name with
  | i :: s :: rest =>
    if i.toLower = 'i' ∧ s.toLower = 's' then
      let short := plain rest
      if short = ['c'] then "isc" else String.ofList short
    else String.ofList (plain name)
  | _ => String.ofList (plain name)

/-- The names of the properties of characters, as they are looked up. -/
def propertyNames : List String :=
  [
    "age", "ahex", "asciihexdigit", "alpha", "alphabetic", "bc", "bidiclass", "bidic",
    "bidicontrol", "bidim", "bidimirrored", "blk", "block", "bmg", "bidimirroringglyph", "bpb",
    "bidipairedbracket", "bpt", "bidipairedbrackettype", "cased", "ccc",
    "canonicalcombiningclass", "ce", "compositionexclusion", "cf", "casefolding", "ci",
    "caseignorable", "compex", "fullcompositionexclusion", "cwcf", "changeswhencasefolded", "cwcm",
    "changeswhencasemapped", "cwkcf", "changeswhennfkccasefolded", "cwl", "changeswhenlowercased",
    "cwt", "changeswhentitlecased", "cwu", "changeswhenuppercased", "dash", "dep", "deprecated",
    "di", "defaultignorablecodepoint", "dia", "diacritic", "dm", "decompositionmapping", "dt",
    "decompositiontype", "ea", "eastasianwidth", "ebase", "emojimodifierbase", "ecomp",
    "emojicomponent", "emod", "emojimodifier", "emoji", "epres", "emojipresentation", "equideo",
    "equivalentunifiedideograph", "expandsonnfc", "expandsonnfd", "expandsonnfkc",
    "expandsonnfkd", "ext", "extender", "extpict", "extendedpictographic", "fcnfkc",
    "fcnfkcclosure", "gc", "generalcategory", "gcb", "graphemeclusterbreak", "grbase",
    "graphemebase", "grext", "graphemeextend", "grlink", "graphemelink", "hex", "hexdigit", "hst",
    "hangulsyllabletype", "hyphen", "idc", "idcontinue", "idcompatmathcontinue",
    "idcompatmathstart", "ideo", "ideographic", "ids", "idstart", "idsb", "idsbinaryoperator",
    "idst", "idstrinaryoperator", "idsu", "idsunaryoperator", "incb", "indicconjunctbreak", "inpc",
    "indicpositionalcategory", "insc", "indicsyllabiccategory", "isc", "ocomment",
    "jamoshortname", "jsn", "jg", "joininggroup", "joinc", "joincontrol", "jt", "joiningtype",
    "lb", "linebreak", "lc", "lowercasemapping", "loe", "logicalorderexception", "lower",
    "lowercase", "math", "mcm", "modifiercombiningmark", "na", "name", "na1", "unicode1name",
    "namealias", "nchar", "noncharactercodepoint", "nfcqc", "nfcquickcheck", "nfdqc",
    "nfdquickcheck", "nfkccf", "nfkccasefold", "nfkcqc", "nfkcquickcheck", "nfkcscf",
    "nfkcsimplecasefold", "nfkdqc", "nfkdquickcheck", "nt", "numerictype", "nv", "numericvalue",
    "oalpha", "otheralphabetic", "odi", "otherdefaultignorablecodepoint", "ogrext",
    "othergraphemeextend", "oidc", "otheridcontinue", "oids", "otheridstart", "olower",
    "otherlowercase", "omath", "othermath", "oupper", "otheruppercase", "patsyn", "patternsyntax",
    "patws", "patternwhitespace", "pcm", "prependedconcatenationmark", "qmark", "quotationmark",
    "radical", "ri", "regionalindicator", "sb", "sentencebreak", "sc", "script", "scf",
    "simplecasefolding", "sfc", "scx", "scriptextensions", "sd", "softdotted", "slc",
    "simplelowercasemapping", "stc", "simpletitlecasemapping", "sterm", "sentenceterminal", "suc",
    "simpleuppercasemapping", "tc", "titlecasemapping", "term", "terminalpunctuation", "uc",
    "uppercasemapping", "uideo", "unifiedideograph", "upper", "uppercase", "urs",
    "unicoderadicalstroke", "krsunicode", "vo", "verticalorientation", "vs", "variationselector",
    "wb", "wordbreak", "wspace", "whitespace", "space", "xidc", "xidcontinue", "xids", "xidstart",
    "xonfc", "xonfd", "xonfkc", "xonfkd"
  ]

end HeaderSurvey.Search
