import HeaderSurvey.Unicode.Category

/-!
# General categories by name

The general categories and groups of them that a search pattern can ask for, under their names as
they are looked up.
-/

namespace HeaderSurvey.Search

open Unicode (Category Range)

/-- The general categories that a name stands for. -/
def categories? (name : String) : Option (List Category) :=
  match name with
  | "l" | "letter" => some [.lu, .ll, .lt, .lm, .lo]
  | "lc" | "casedletter" => some [.lu, .ll, .lt]
  | "lu" | "uppercaseletter" => some [.lu]
  | "ll" | "lowercaseletter" => some [.ll]
  | "lt" | "titlecaseletter" => some [.lt]
  | "lm" | "modifierletter" => some [.lm]
  | "lo" | "otherletter" => some [.lo]
  | "m" | "mark" | "combiningmark" => some [.mn, .mc, .me]
  | "mn" | "nonspacingmark" => some [.mn]
  | "mc" | "spacingmark" => some [.mc]
  | "me" | "enclosingmark" => some [.me]
  | "n" | "number" => some [.nd, .nl, .no]
  | "nd" | "decimalnumber" | "digit" => some [.nd]
  | "nl" | "letternumber" => some [.nl]
  | "no" | "othernumber" => some [.no]
  | "p" | "punctuation" | "punct" => some [.pc, .pd, .ps, .pe, .pi, .pf, .po]
  | "pc" | "connectorpunctuation" => some [.pc]
  | "pd" | "dashpunctuation" => some [.pd]
  | "ps" | "openpunctuation" => some [.ps]
  | "pe" | "closepunctuation" => some [.pe]
  | "pi" | "initialpunctuation" => some [.pi]
  | "pf" | "finalpunctuation" => some [.pf]
  | "po" | "otherpunctuation" => some [.po]
  | "s" | "symbol" => some [.sm, .sc, .sk, .so]
  | "sm" | "mathsymbol" => some [.sm]
  | "sc" | "currencysymbol" => some [.sc]
  | "sk" | "modifiersymbol" => some [.sk]
  | "so" | "othersymbol" => some [.so]
  | "z" | "separator" => some [.zs, .zl, .zp]
  | "zs" | "spaceseparator" => some [.zs]
  | "zl" | "lineseparator" => some [.zl]
  | "zp" | "paragraphseparator" => some [.zp]
  | "cc" | "control" | "cntrl" => some [.cc]
  | "cf" | "format" => some [.cf]
  | "co" | "privateuse" => some [.co]
  | _ => none

/-- The characters of the general categories that a name stands for. What is not assigned is of the
category of others. -/
def ofCategory? (name : String) : Option (List Range) :=
  match name with
  | "any" => some Unicode.everyCharacter
  | "ascii" => some [(0, 127)]
  | "assigned" => some Unicode.assigned
  | "cn" | "unassigned" => some (Unicode.others Unicode.assigned)
  | "c" | "other" =>
    let unassigned := Unicode.others Unicode.assigned
    some (Unicode.collect (unassigned ++ Unicode.charactersOf [.cc, .cf, .co]))
  | _ => (categories? name).map Unicode.charactersOf

end HeaderSurvey.Search
