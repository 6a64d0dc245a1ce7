import HeaderSurvey.Block
import HeaderSurvey.Text.Width

/-!
# Diagnostics

An error is shown with the lines of the text that it is about. It names its file by a number, and the
text is looked up in a table of files. A stretch within one line is underlined; one over several
lines is bracketed in the margin, and of its lines the first four and the last two are shown.
-/

namespace HeaderSurvey

/-- A line of a text: its number, the byte offset of its start, and its characters. -/
structure SourceLine where
  number : Nat
  start : Nat
  text : List Char
  deriving Repr, DecidableEq

namespace SourceLine

/-- The lines of a text from the given number and offset on. -/
def numberFrom (number start : Nat) : List (List Char) → List SourceLine
  | [] => []
  | line :: lines =>
    ⟨number, start, line⟩ :: numberFrom (number + 1) (start + Text.byteLength line + 1) lines

/-- The lines of a text, without their newlines. -/
def ofText (text : List Char) : List SourceLine :=
  numberFrom 1 0 (Text.splitBy (· = '\n') text)

/-- The last of the lines that begins at or before the offset. -/
def containing? (lines : List SourceLine) (offset : Nat) : Option SourceLine :=
  (lines.filter (·.start ≤ offset)).getLast?

/-- What is shown of a line: its characters without the line ends and NULs at its end. -/
def shown (l : SourceLine) : List Char :=
  (l.text.reverse.dropWhile fun c => c = '\n' || c = '\r' || c = '\x00').reverse

/-- How many bytes of blanks the shown line begins with. -/
def indent (l : SourceLine) : Nat :=
  Text.byteLength (l.shown.takeWhile isBlank)

end SourceLine

/-- A file that an error can be about. -/
structure SourceFile where
  path : String
  text : String
  deriving Repr, DecidableEq

/-- The files that errors can be about. The number of a file is its position. -/
abbrev FileTable := List SourceFile

/-- The table with one file more, and the number of this file. -/
def FileTable.add (files : FileTable) (file : SourceFile) : FileTable × Nat :=
  (files ++ [file], files.length)

/-- An error as it is shown: the stretch of bytes from `start` on the first line to `stop` on the
last, counted from the starts of these lines. -/
structure Diagnostic where
  path : String
  message : String
  notes : List String
  /-- The first line. -/
  first : SourceLine
  /-- The last line. -/
  last : SourceLine
  /-- All lines from the first to the last. -/
  lines : List SourceLine
  start : Nat
  stop : Nat
  deriving Repr, DecidableEq

namespace Diagnostic

/-- The diagnostic of an error in a file. -/
def ofFile? (file : SourceFile) (e : UnclosedBlock) : Option Diagnostic := do
  let lines := SourceLine.ofText file.text.toList
  let first ← SourceLine.containing? lines e.keyword.start
  let last ← SourceLine.containing? lines e.keyword.stop
  return {
    path := file.path
    message := e.message
    notes := e.notes
    first := first
    last := last
    lines := lines.filter fun l => first.number ≤ l.number && l.number ≤ last.number
    start := e.keyword.start - first.start
    stop := e.keyword.stop - last.start
  }

/-- The diagnostic of an error in the file that it names; none if the table has no such file. -/
def ofError? (files : FileTable) (e : UnclosedBlock) : Option Diagnostic :=
  files[e.fileId]?.bind fun file => ofFile? file e

/-- Whether the stretch lies in one line. -/
def isSingle (d : Diagnostic) : Bool :=
  d.first.number = d.last.number

/-- So many copies of a character. -/
def copies (n : Nat) (c : Char) : List Char :=
  List.replicate n c

/-- How many columns the widest line number takes. -/
def numberWidth (d : Diagnostic) : Nat :=
  (toString d.last.number).length

/-- The space in front of the border, where line numbers stand. -/
def gutter (d : Diagnostic) : List Char :=
  copies (d.numberWidth + 1) ' '

/-- The space in front of the border with a line number, to the right. -/
def numbered (d : Diagnostic) (n : Nat) : List Char :=
  let digits := (toString n).toList
  copies (d.numberWidth - digits.length) ' ' ++ digits ++ [' ']

/-- The place of the failure: the column counts characters. -/
def location (d : Diagnostic) : List Char :=
  let before := (Text.glyphs d.first.text).filter (·.offset < d.start)
  d.path.toList ++ ':' :: (toString d.first.number).toList ++
    ':' :: (toString (before.length + 1)).toList

/-- A row that holds the border only. -/
def emptyRow (d : Diagnostic) : List Char :=
  d.gutter ++ '│' :: if d.isSingle then [] else [' ', ' ']

/-- A row with a line of the text, and what stands in the margin of it. -/
def sourceRow (d : Diagnostic) (margin : List Char) (l : SourceLine) : List Char :=
  d.numbered l.number ++ '│' :: margin ++ ' ' :: Text.expandTabs l.shown

/-- The carets below a stretch within one line: at least one, and one more where the stretch goes
on behind the line. -/
def underline (d : Diagnostic) : List Char :=
  let line := d.first.shown
  let stop := max d.stop (d.start + 1)
  let columns := Text.glyphs line ++ [⟨Text.byteLength line, 1, '\x00'⟩]
  columns.flatMap fun g =>
    if d.start < g.offset + g.char.utf8Size ∧ g.offset < stop then copies g.width '^'
    else if g.offset < stop then copies g.width ' '
    else []

/-- The columns in front of an offset in a line. -/
def columnsBefore (l : SourceLine) (offset : Nat) : Nat :=
  ((Text.glyphs l.shown).filter (·.offset < offset)).foldl (fun n g => n + g.width) 0

/-- The rows of a stretch within one line. -/
def singleRows (d : Diagnostic) : List (List Char) :=
  [d.sourceRow [] d.first, d.gutter ++ ['│', ' '] ++ d.underline]

/-- Whether the stretch begins in front of the text of its first line, so that its bracket can begin
in the margin. -/
def startsInMargin (d : Diagnostic) : Bool :=
  d.start ≤ d.first.indent

/-- The rows of the first line of a stretch over several lines. -/
def firstRows (d : Diagnostic) : List (List Char) :=
  if d.startsInMargin then [d.sourceRow [' ', '╭'] d.first]
  else
    [d.sourceRow [' ', ' '] d.first,
      d.gutter ++ ['│', ' ', '╭'] ++ copies (columnsBefore d.first (d.start + 1)) '─' ++ ['^']]

/-- The rows of the last line of a stretch over several lines. -/
def lastRows (d : Diagnostic) : List (List Char) :=
  [d.sourceRow [' ', '│'] d.last,
    d.gutter ++ ['│', ' ', '╰'] ++ copies (columnsBefore d.last d.stop) '─' ++ ['^']]

/-- The rows of the lines between the first and the last. If more than one of them is left out, a
row stands for all of them. -/
def middleRows (d : Diagnostic) : List (List Char) :=
  let row := d.sourceRow [' ', '│']
  let inner := d.lines.filter fun l => d.first.number < l.number && l.number < d.last.number
  if inner.length ≤ 5 then inner.map row
  else (inner.take 3).map row ++ [d.gutter ++ ['·', ' ', '│']] ++
    (inner.drop (inner.length - 1)).map row

/-- All rows. -/
def rows (d : Diagnostic) : List (List Char) :=
  [("error: " ++ d.message).toList, d.gutter ++ ['┌', '─', ' '] ++ d.location, d.emptyRow] ++
    (if d.isSingle then d.singleRows else d.firstRows ++ d.middleRows ++ d.lastRows) ++
    [d.emptyRow] ++ d.notes.map fun note => d.gutter ++ ['=', ' '] ++ note.toList

/-- The text of the diagnostic, with an empty line behind it. -/
def render (d : Diagnostic) : String :=
  String.ofList ((d.rows ++ [[]]).flatMap (· ++ ['\n']))

end Diagnostic
end HeaderSurvey
