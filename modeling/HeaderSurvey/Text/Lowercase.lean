import HeaderSurvey.Text.Basic
import HeaderSurvey.Unicode.Lowercase
import HeaderSurvey.Unicode.Casing

/-!
# Lower case of a text

Every letter has one lower-case form but two. The capital I with a dot becomes an i with a combining
dot, and the capital sigma has a form of its own at the end of a word: where a cased letter stands
before it and none after it, whatever case-ignorable characters are in between.
-/

namespace HeaderSurvey.Text

/-- The lower-case form of a character by itself. -/
def lowerChar (c : Char) : List Char :=
  if c.val < 128 then [c.toLower]
  else if c = '\u0130' then ['i', '\u0307']
  else [((Unicode.lowerOf? c.toNat Unicode.caseRuns).map Char.ofNat).getD c]

/-- Whether the first character that is not case-ignorable is a cased letter. -/
def meetsCased (cs : List Char) : Bool :=
  match cs.dropWhile fun c => Unicode.inRanges c.toNat Unicode.caseIgnorable with
  | [] => false
  | c :: _ => Unicode.inRanges c.toNat Unicode.cased

/-- The small sigma for a capital one between two texts, the first of them backwards. -/
def lowerSigma (before rest : List Char) : Char :=
  if meetsCased before && !meetsCased rest then 'ς' else 'σ'

/-- The lower case of a text that follows `before`, which is given backwards. -/
def lowercaseFrom (before : List Char) : List Char → List Char
  | [] => []
  | c :: rest =>
    (if c = 'Σ' then [lowerSigma before rest] else lowerChar c) ++ lowercaseFrom (c :: before) rest

/-- The lower case of a text. -/
def lowercase (text : List Char) : List Char :=
  lowercaseFrom [] text

end HeaderSurvey.Text
