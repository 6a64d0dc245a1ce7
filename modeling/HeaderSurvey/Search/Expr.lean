import HeaderSurvey.Text.Cursor
import HeaderSurvey.Unicode.Range

/-!
# Search expressions

A search expression describes the pieces of a text that one looks for. Its meaning is told in sets
of places: `Expr.reach` gives the places at which a piece can end that begins at a place of a given
set. So every way to match is followed at once, and neither the order of alternatives nor the greed
of a repetition matters. `Expr.occursIn` asks whether a text holds such a piece at all.

A repetition ends because a round that finds no new place ends it.
-/

namespace HeaderSurvey.Search

/-! ### Places -/

/-- What is asked of the words around a place. -/
inductive WordEdge where
  /-- A word begins or ends here. -/
  | boundary
  /-- No word begins or ends here. -/
  | noBoundary
  | wordStart
  | wordEnd
  /-- There is no word before the place. -/
  | noWordBefore
  /-- There is no word after the place. -/
  | noWordAfter
  deriving Repr, DecidableEq

/-- Whether a place is such an edge, given whether there is a word before it and after it. -/
def WordEdge.holds : WordEdge → (before after : Bool) → Bool
  | boundary, before, after => before != after
  | noBoundary, before, after => before == after
  | wordStart, before, after => !before && after
  | wordEnd, before, after => before && !after
  | noWordBefore, before, _ => !before
  | noWordAfter, _, after => !after

/-- What is asked of a place in a text. -/
inductive Look where
  | textStart
  | textEnd
  /-- The start of a line. -/
  | lineStart
  /-- The end of a line. -/
  | lineEnd
  /-- The start of a line, where a carriage return, a newline or both end a line. -/
  | anyLineStart
  /-- The end of a line, where a carriage return, a newline or both end a line. -/
  | anyLineEnd
  /-- An edge of words, which are made of characters of all scripts or of ASCII. -/
  | edge (kind : WordEdge) (allScripts : Bool)
  deriving Repr, DecidableEq

namespace Look

/-- The characters that words are made of in ASCII. -/
def isAsciiWordChar (c : Char) : Bool :=
  isAsciiLetter c || isAsciiDigit c || c = '_'

/-- Whether the list is empty or begins with a character that satisfies `p`. -/
def endsOr (p : Char → Bool) : List Char → Bool
  | [] => true
  | c :: _ => p c

/-- Whether the list begins with a character that satisfies `p`. -/
def headIs (p : Char → Bool) : List Char → Bool
  | [] => false
  | c :: _ => p c

/-- Whether a place has what is asked of it. -/
def holdsAt : Look → Cursor → Bool
  | textStart, c => c.before.isEmpty
  | textEnd, c => c.rest.isEmpty
  | lineStart, c => endsOr (· = '\n') c.before
  | lineEnd, c => endsOr (· = '\n') c.rest
  | anyLineStart, c =>
    endsOr (· = '\n') c.before || (headIs (· = '\r') c.before && endsOr (· ≠ '\n') c.rest)
  | anyLineEnd, c =>
    endsOr (· = '\r') c.rest || (headIs (· = '\n') c.rest && endsOr (· ≠ '\r') c.before)
  | edge kind allScripts, c =>
    let isWord := if allScripts then isWordChar else isAsciiWordChar
    kind.holds (headIs isWord c.before) (headIs isWord c.rest)

end Look

/-! ### Sets of places -/

/-- A set of places of a text: a mark for each place, from the one before the first character to the
one after the last. -/
abbrev Marks := List Bool

namespace Marks

/-- Every place of a text. -/
def all (text : List Char) : Marks :=
  true :: text.map fun _ => true

/-- The places behind a character of the set, where the place in front of it is marked. -/
def advance (ranges : List Unicode.Range) (text : List Char) (marks : Marks) : Marks :=
  false :: List.zipWith (fun mark c => mark && Unicode.inRanges c.toNat ranges) marks text

/-- The places that one or both of two sets hold. -/
def union (a b : Marks) : Marks :=
  List.zipWith (· || ·) a b

/-- The places of a text, of which `before` is what precedes it. -/
def placesFrom (before : List Char) : List Char → List Cursor
  | [] => [⟨before, []⟩]
  | c :: rest => ⟨before, c :: rest⟩ :: placesFrom (c :: before) rest

/-- The marked places that have what is asked of them. -/
def keep (l : Look) (text : List Char) (marks : Marks) : Marks :=
  List.zipWith (fun mark place => mark && l.holdsAt place) marks (placesFrom [] text)

/-- What comes of so many rounds of `f`. A round that changes nothing is the last that is done. -/
def iterate (f : Marks → Marks) : (rounds : Nat) → Marks → Marks
  | 0, marks => marks
  | rounds + 1, marks =>
    let next := f marks
    if next = marks then marks else iterate f rounds next

end Marks

/-! ### Expressions -/

/-- A description of pieces of text. -/
inductive Expr where
  /-- No character. -/
  | empty
  /-- One character of a set. -/
  | one (ranges : List Unicode.Range)
  /-- No character, at a place that has what is asked of it. -/
  | look (l : Look)
  /-- A piece that is remembered by a number. -/
  | group (body : Expr)
  /-- One piece and then another. -/
  | seq (first second : Expr)
  /-- One piece or another. -/
  | either (first second : Expr)
  /-- Pieces in a row: so many at least, and at most, if there is a bound. -/
  | repeated (least : Nat) (most : Option Nat) (body : Expr)
  deriving Repr, DecidableEq

namespace Expr

/-- The places of the text at which a piece can end that begins at a marked place. -/
def reach (text : List Char) : Expr → Marks → Marks
  | empty, marks => marks
  | one ranges, marks => marks.advance ranges text
  | look l, marks => marks.keep l text
  | group body, marks => body.reach text marks
  | seq first second, marks => second.reach text (first.reach text marks)
  | either first second, marks => Marks.union (first.reach text marks) (second.reach text marks)
  | repeated least most body, marks =>
    let further :=
      match most with
      | some most => most - least
      | none => marks.length
    Marks.iterate (fun marks => marks.union (body.reach text marks)) further
      (Marks.iterate (body.reach text) least marks)

/-- Whether the text holds a piece that the expression describes. -/
def occursIn (text : List Char) (e : Expr) : Bool :=
  (e.reach text (Marks.all text)).any id

end Expr
end HeaderSurvey.Search
