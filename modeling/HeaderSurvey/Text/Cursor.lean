import HeaderSurvey.Text.Basic

/-!
# Cursors

A cursor is a place in a text: the characters before it, the nearest first, and the characters
after it. Looking back is taking the head of `before`, and every cursor knows its text, its byte
offset, its line and its column. `upTo` gives the characters between two cursors of one text, and an
extent is the stretch between them.
-/

namespace HeaderSurvey

/-- A range of byte offsets, without its end. -/
structure Span where
  start : Nat
  stop : Nat
  deriving Repr, DecidableEq

/-- Whether the offset lies in the range. -/
def Span.contains (s : Span) (offset : Nat) : Bool :=
  s.start ≤ offset && offset < s.stop

/-- A place in a text. -/
structure Cursor where
  /-- The characters before the place, the nearest first. -/
  before : List Char
  /-- The characters after the place. -/
  rest : List Char
  deriving Repr, DecidableEq

namespace Cursor

/-- The place in front of the first character. -/
def atStart (text : List Char) : Cursor :=
  ⟨[], text⟩

/-- The text that the cursor is a place in. -/
def text (c : Cursor) : List Char :=
  c.before.reverse ++ c.rest

/-- How many bytes of the text stand before the cursor. -/
def offset (c : Cursor) : Nat :=
  Text.byteLength c.before

/-- The line of the cursor: one more than the newlines before it. -/
def line (c : Cursor) : Nat :=
  c.before.count '\n' + 1

/-- The column of the cursor: one more than the characters before it on its line. -/
def column (c : Cursor) : Nat :=
  (c.before.takeWhile (· ≠ '\n')).length + 1

/-- The characters from `c` to a later cursor `d` of the same text. -/
def upTo (c d : Cursor) : List Char :=
  (d.before.take (d.before.length - c.before.length)).reverse

/-- The byte offsets from `c` to a later cursor `d` of the same text. -/
def span (c d : Cursor) : Span :=
  ⟨c.offset, d.offset⟩

/-- The cursor after the given characters have been passed over. -/
def skipWhileFrom (p : Char → Bool) (before : List Char) : List Char → Cursor
  | [] => ⟨before, []⟩
  | c :: rest => if p c then skipWhileFrom p (c :: before) rest else ⟨before, c :: rest⟩

/-- The first place at or after `c` whose next character does not satisfy `p`. -/
def skipWhile (p : Char → Bool) (c : Cursor) : Cursor :=
  skipWhileFrom p c.before c.rest

/-- The cursor behind `chars`, if the text goes on with them. -/
def skipText? : (chars : List Char) → Cursor → Option Cursor
  | [], c => some c
  | x :: chars, ⟨before, y :: rest⟩ =>
    if x = y then skipText? chars ⟨y :: before, rest⟩ else none
  | _ :: _, ⟨_, []⟩ => none

/-- Whether the cursor stands at the start of a line: at the start of the text or after a
newline. -/
def isLineStart (c : Cursor) : Bool :=
  match c.before with
  | [] => true
  | x :: _ => x = '\n'

/-- Whether the character at the head of the list, if there is one, is a word character. -/
def headIsWord : List Char → Bool
  | [] => false
  | x :: _ => isWordChar x

/-- Whether the cursor stands between a word character and something else. -/
def isWordBoundary (c : Cursor) : Bool :=
  headIsWord c.before != headIsWord c.rest

end Cursor

/-- A stretch of a text, between two of its cursors. -/
structure Extent where
  start : Cursor
  stop : Cursor
  deriving Repr, DecidableEq

end HeaderSurvey
