import HeaderSurvey.Unicode.Alphabetic
import HeaderSurvey.Unicode.Mark
import HeaderSurvey.Unicode.Number
import HeaderSurvey.Unicode.Recent

/-!
# Character classes

The classes of characters that the patterns and the text functions ask about: blanks, word
characters, alphanumeric characters and the ASCII letters. A table is read only for characters
outside ASCII.
-/

namespace HeaderSurvey

/-- The characters with the property `White_Space`. -/
def isBlank (c : Char) : Bool :=
  c = ' ' || ('\t' ≤ c && c ≤ '\r') || c = '\x85' || c = '\u00a0' || c = '\u1680' ||
    ('\u2000' ≤ c && c ≤ '\u200a') || c = '\u2028' || c = '\u2029' || c = '\u202f' ||
    c = '\u205f' || c = '\u3000'

/-- The blanks of ASCII that may stand between a keyword and its opening brace: a vertical tab is
not one of them. -/
def isAsciiBlank (c : Char) : Bool :=
  c = ' ' || c = '\t' || c = '\n' || c = '\x0c' || c = '\r'

/-- The letters `A` to `Z` and `a` to `z`. -/
def isAsciiLetter (c : Char) : Bool :=
  ('A' ≤ c && c ≤ 'Z') || ('a' ≤ c && c ≤ 'z')

/-- The digits `0` to `9`. -/
def isAsciiDigit (c : Char) : Bool :=
  '0' ≤ c && c ≤ '9'

/-- The punctuation that joins words: the underscore and its relatives. -/
def isConnector (c : Char) : Bool :=
  c = '_' || c = '\u203f' || c = '\u2040' || c = '\u2054' || c = '\ufe33' || c = '\ufe34' ||
    ('\ufe4d' ≤ c && c ≤ '\ufe4f') || c = '\uff3f'

/-- The two characters that ask for, or forbid, a join of their neighbours. -/
def isJoinControl (c : Char) : Bool :=
  c = '\u200c' || c = '\u200d'

/-- What a word is made of: letters, marks, decimal digits, connectors and join controls. The
characters that came last into the standard are not known to be any of them. -/
def isWordChar (c : Char) : Bool :=
  if c.val < 128 then isAsciiLetter c || isAsciiDigit c || c = '_'
  else
    (Unicode.inRanges c.toNat Unicode.alphabetic || Unicode.inRanges c.toNat Unicode.mark ||
        Unicode.inRanges c.toNat Unicode.decimalDigit || isConnector c || isJoinControl c) &&
      !Unicode.inRanges c.toNat Unicode.recent

/-- Letters of every script, letter numbers and the marks that belong to a letter. -/
def isAlphabetic (c : Char) : Bool :=
  if c.val < 128 then isAsciiLetter c else Unicode.inRanges c.toNat Unicode.alphabetic

/-- Letters and numbers of every kind; no marks, connectors or join controls. -/
def isAlphanumeric (c : Char) : Bool :=
  isAlphabetic c ||
    if c.val < 128 then isAsciiDigit c else Unicode.inRanges c.toNat Unicode.number

/-- What an identifier may begin with: an ASCII letter or an underscore. -/
def isNameStart (c : Char) : Bool :=
  isAsciiLetter c || c = '_'

end HeaderSurvey
