import HeaderSurvey.CharClass
import HeaderSurvey.Unicode.Width

/-!
# Column widths

How many columns of a terminal a character takes: two for a wide one, none for a control or for one
that is shown on the character before it, and one for nearly all others. A tab goes to the next
multiple of four columns.
-/

namespace HeaderSurvey.Text

/-- The distance between two tab stops. -/
def tabWidth : Nat := 4

/-- Whether a character is shown on the one before it, or not at all. -/
def isZeroWidth (c : Char) : Bool :=
  c.val < 32 || (127 ≤ c.val && c.val < 160) ||
    (128 ≤ c.val && Unicode.inRanges c.toNat Unicode.zeroWidth)

/-- How many columns a character takes that begins in the given column. A tab goes to the next stop,
and a Khmer sign that stands for a whole word takes three columns. -/
def columnWidth (column : Nat) (c : Char) : Nat :=
  if c = '\t' then tabWidth - column % tabWidth
  else if c = '\u17d8' then 3
  else if isZeroWidth c then 0
  else if 128 ≤ c.val && Unicode.inRanges c.toNat Unicode.wide then 2
  else 1

/-- A character with its byte offset in the text and the columns it takes. -/
structure Glyph where
  offset : Nat
  width : Nat
  char : Char
  deriving Repr, DecidableEq

/-- The characters of a text that begins at an offset and a column. -/
def glyphsFrom (offset column : Nat) : List Char → List Glyph
  | [] => []
  | c :: cs =>
    let width := columnWidth column c
    ⟨offset, width, c⟩ :: glyphsFrom (offset + c.utf8Size) (column + width) cs

/-- The characters of a line. -/
def glyphs (line : List Char) : List Glyph :=
  glyphsFrom 0 0 line

/-- A line with spaces for its tabs. -/
def expandTabs (line : List Char) : List Char :=
  (glyphs line).flatMap fun g =>
    if g.char = '\t' then List.replicate g.width ' ' else [g.char]

end HeaderSurvey.Text
