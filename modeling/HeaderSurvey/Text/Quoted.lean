import HeaderSurvey.CharClass
import HeaderSurvey.Unicode.Printable

/-!
# Texts in quotes

A text as it is shown inside a message: between double quotes, with an escape for each quote,
backslash and control, and for each character that would not be seen by itself.
-/

namespace HeaderSurvey.Text

/-- A number in hexadecimal digits. -/
def hexText (n : Nat) : List Char :=
  Nat.toDigits 16 n

/-- The letters of Hangul that stand for no sound and have no shape. -/
def isHangulFiller (c : Char) : Bool :=
  c = '\u115f' || c = '\u1160' || c = '\u3164' || c = '\uffa0'

/-- The half-width voicing marks: they extend the character before them and yet take a place of their
own. -/
def isVoicingMark (c : Char) : Bool :=
  c = '\uff9e' || c = '\uff9f'

/-- Whether a character is shown as itself. -/
def isPrintable (c : Char) : Bool :=
  if c.val < 128 then ' ' ≤ c && c ≤ '~'
  else
    isVoicingMark c ||
      !(Unicode.inRanges c.toNat Unicode.unprintable ||
        Unicode.inRanges c.toNat Unicode.graphemeExtend || isHangulFiller c)

/-- A character inside quotes. -/
def quoteChar (c : Char) : List Char :=
  if c = '"' ∨ c = '\\' then ['\\', c]
  else if c = '\n' then ['\\', 'n']
  else if c = '\r' then ['\\', 'r']
  else if c = '\t' then ['\\', 't']
  else if c = '\x00' then ['\\', '0']
  else if isPrintable c then [c]
  else ['\\', 'u', '{'] ++ hexText c.toNat ++ ['}']

/-- A text inside quotes, with the quotes. -/
def quote (text : List Char) : List Char :=
  '"' :: text.flatMap quoteChar ++ ['"']

end HeaderSurvey.Text
