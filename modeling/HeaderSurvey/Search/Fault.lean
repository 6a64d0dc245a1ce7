import HeaderSurvey.Search.Term

/-!
# Faults of a search pattern

What is wrong with a written pattern and where, and the report that shows it: the pattern with a
caret below each character of the faulty stretch. A pattern of several lines is shown with the
numbers of its lines.
-/

namespace HeaderSurvey.Search

/-- How deep the terms of a pattern may be nested. -/
def nestingLimit : Nat := 250

/-- What can be wrong with a pattern. -/
inductive Cause where
  | setEscapeInvalid
  | rangeBackwards
  | rangeEndNoLetter
  | setUnclosed
  | decimalTooLarge
  | hexEmpty
  | hexNoCharacter
  | hexDigitInvalid
  | escapeUnfinished
  | escapeUnknown
  | switchNegationDangling
  | switchDuplicate
  | switchNegationDuplicate
  | switchesUnfinished
  | switchUnknown
  | nameDuplicate
  | nameEmpty
  | nameInvalid
  | nameUnclosed
  | groupUnclosed
  | groupUnopened
  | nestingTooDeep
  | countBackwards
  | countEmpty
  | countUnclosed
  | repetitionOfNothing
  | edgeUnclosed
  | edgeUnknown
  | edgeOrCountUnfinished
  | propertyInvalid
  | backreference
  | lookaround
  /-- Characters outside ASCII where bytes are meant. -/
  | bytesOnly
  /-- Something that could match a part of a character. -/
  | splitsCharacters
  | propertyUnknown
  | propertyValueUnknown
  deriving Repr, DecidableEq

/-- What is wrong, in words. -/
def Cause.message : Cause → String
  | setEscapeInvalid => "invalid escape sequence found in character class"
  | rangeBackwards => "invalid character class range, the start must be <= the end"
  | rangeEndNoLetter => "invalid range boundary, must be a literal"
  | setUnclosed => "unclosed character class"
  | decimalTooLarge => "decimal literal invalid"
  | hexEmpty => "hexadecimal literal empty"
  | hexNoCharacter => "hexadecimal literal is not a Unicode scalar value"
  | hexDigitInvalid => "invalid hexadecimal digit"
  | escapeUnfinished => "incomplete escape sequence, reached end of pattern prematurely"
  | escapeUnknown => "unrecognized escape sequence"
  | switchNegationDangling => "dangling flag negation operator"
  | switchDuplicate => "duplicate flag"
  | switchNegationDuplicate => "flag negation operator repeated"
  | switchesUnfinished => "expected flag but got end of regex"
  | switchUnknown => "unrecognized flag"
  | nameDuplicate => "duplicate capture group name"
  | nameEmpty => "empty capture group name"
  | nameInvalid => "invalid capture group character"
  | nameUnclosed => "unclosed capture group name"
  | groupUnclosed => "unclosed group"
  | groupUnopened => "unopened group"
  | nestingTooDeep =>
    "exceed the maximum number of nested parentheses/brackets (" ++ toString nestingLimit ++ ")"
  | countBackwards => "invalid repetition count range, the start must be <= the end"
  | countEmpty => "repetition quantifier expects a valid decimal"
  | countUnclosed => "unclosed counted repetition"
  | repetitionOfNothing => "repetition operator missing expression"
  | edgeUnclosed =>
    "special word boundary assertion is either unclosed or contains an invalid character"
  | edgeUnknown =>
    "unrecognized special word boundary assertion, " ++
      "valid choices are: start, end, start-half or end-half"
  | edgeOrCountUnfinished =>
    "found either the beginning of a special word boundary or a bounded repetition on a \\b " ++
      "with an opening brace, but no closing brace"
  | propertyInvalid => "invalid Unicode character class"
  | backreference => "backreferences are not supported"
  | lookaround => "look-around, including look-ahead and look-behind, is not supported"
  | bytesOnly => "Unicode not allowed here"
  | splitsCharacters => "pattern can match invalid UTF-8"
  | propertyUnknown => "Unicode property not found"
  | propertyValueUnknown => "Unicode property value not found"

/-- What is wrong with which stretch of a pattern. -/
structure Fault where
  cause : Cause
  extent : Extent
  /-- An earlier stretch that the faulty one repeats. -/
  earlier : Option Extent

/-! ### The report -/

/-- The lines of a pattern that are shown. A carriage return in front of a newline is left out, and
so is an empty line at the end. -/
def shownLines : (pieces : List (List Char)) → List (List Char)
  | [] => []
  | [last] => if last.isEmpty then [] else [last]
  | line :: pieces =>
    (if line.getLast? = some '\r' then line.dropLast else line) :: shownLines pieces

/-- A row of carets below stretches of one line, in their order; below an empty stretch stands one
caret. -/
def caretRow : (row : List Char) → List Extent → List Char
  | row, [] => row
  | row, e :: es =>
    let blanks := List.replicate (e.start.column - 1 - row.length) ' '
    let carets := List.replicate (Nat.max 1 (e.stop.column - e.start.column)) '^'
    caretRow (row ++ blanks ++ carets) es

namespace Fault

/-- The faulty stretches, the earlier one first. -/
def extents (f : Fault) : List Extent :=
  match f.earlier with
  | none => [f.extent]
  | some e =>
    if e.start.offset ≤ f.extent.start.offset then [e, f.extent] else [f.extent, e]

/-- The shown line with the number, between its margin and the carets of its faulty stretches. -/
def lineRows (f : Fault) (margin : Nat → List Char) (line : List Char) (number : Nat) :
    List (List Char) :=
  let here := f.extents.filter fun e => e.start.line = number && e.stop.line = number
  let blank := List.replicate (margin number).length ' '
  (margin number ++ line) :: if here.isEmpty then [] else [blank ++ caretRow [] here]

/-- Where a stretch of several lines begins and ends. -/
def lineNote (e : Extent) : String :=
  "on line " ++ toString e.start.line ++ " (column " ++ toString e.start.column ++
    ") through line " ++ toString e.stop.line ++ " (column " ++ toString (e.stop.column - 1) ++ ")"

/-- The report of a fault of a pattern. -/
def report (pattern : List Char) (f : Fault) : String :=
  let pieces := Text.splitBy (· = '\n') pattern
  let lines := shownLines pieces
  let width := (toString pieces.length).length
  let margin (number : Nat) : List Char :=
    if pieces.length ≤ 1 then List.replicate 4 ' '
    else
      let digits := (toString number).toList
      List.replicate (width - digits.length) ' ' ++ digits ++ [':', ' ']
  let rows := lines.zipIdx.flatMap fun (line, i) => f.lineRows margin line (i + 1)
  let shown := rows.map String.ofList
  let rule := String.ofList (List.replicate 79 '~')
  let notes := (f.extents.filter fun e => e.start.line ≠ e.stop.line).map lineNote
  let body := if pieces.length ≤ 1 then shown else rule :: shown ++ rule :: notes
  "\n".intercalate ("regex parse error:" :: body ++ ["error: " ++ f.cause.message])

end Fault
end HeaderSurvey.Search
