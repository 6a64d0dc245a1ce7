import HeaderSurvey.Text.Digits
import HeaderSurvey.Toml.Reader
import HeaderSurvey.Toml.Scalar

/-!
# Reading a TOML document

Keys, strings, lists and tables between braces, and the lines of a document: comments, headers and
assignments. `Toml.parse` reads a text to its end and puts the tables together; it gives nothing if
the text is no document or names something twice.
-/

namespace HeaderSurvey.Toml

open Reader
open Text (isDigitOf ofDigits)

/-! ### Blanks and comments -/

/-- A space or a tab. -/
def isSpace (c : Char) : Bool :=
  c = ' ' || c = '\t'

/-- A character that may stand in a comment: no control but the tab. -/
def isCommentChar (c : Char) : Bool :=
  c = '\t' || (' ' ≤ c && c ≠ '\x7f')

/-- Spaces and tabs. -/
def spaces : Reader Unit := do
  let _ ← takeWhile isSpace

/-- The end of a line. -/
def newline : Reader Unit :=
  text ['\n'] <|> text ['\r', '\n']

/-- A comment, without the end of its line. -/
def comment : Reader Unit := do
  text ['#']
  let _ ← takeWhile isCommentChar

/-- The end of a line or of the document. -/
def lineEnd : Reader Unit := do
  if (← peek).isSome then newline

/-- What may stand behind a header or an assignment. -/
def trailing : Reader Unit := do
  spaces
  if (← peek) = some '#' then comment
  lineEnd

/-- The blanks of one line, and its end unless something else stands behind them. -/
def blanksRound : Reader (List Unit × Bool) := do
  spaces
  match ← peek with
  | some '#' => comment; newline; return ([], true)
  | some '\n' => newline; return ([], true)
  | some '\r' => newline; return ([], true)
  | _ => return ([], false)

/-- Spaces, comments and ends of lines. -/
def blanks : Reader Unit := do
  let _ ← collect blanksRound

/-! ### Strings -/

/-- A character of a string that stands for itself, quotes and backslashes apart. -/
def isStringChar (c : Char) : Bool :=
  isCommentChar c

/-- The character with the code point that so many hexadecimal digits denote. -/
def codePoint (digits : Nat) : Reader Char := do
  let ds ← (List.replicate digits ()).mapM fun _ => char (isDigitOf 16)
  let n := ofDigits 16 ds
  if n.isValidChar then return Char.ofNat n else failure

/-- What stands for one character behind a backslash. -/
def escape : Reader Char := do
  match ← char (fun _ => true) with
  | 'b' => return '\x08'
  | 't' => return '\t'
  | 'n' => return '\n'
  | 'f' => return '\x0c'
  | 'r' => return '\r'
  | '"' => return '"'
  | '\\' => return '\\'
  | 'u' => codePoint 4
  | 'U' => codePoint 8
  | _ => failure

/-- A character between double quotes, or the quote behind the last one. -/
def basicRound : Reader (List Char × Bool) := do
  match ← char (fun c => isStringChar c) with
  | '"' => return ([], false)
  | '\\' => return ([← escape], true)
  | c => return ([c], true)

/-- A string on one line, between double quotes. -/
def basicString : Reader (List Char) := do
  text ['"']
  collect basicRound

/-- A character between single quotes, or the quote behind the last one. -/
def literalRound : Reader (List Char × Bool) := do
  match ← char (fun c => isStringChar c) with
  | '\'' => return ([], false)
  | c => return ([c], true)

/-- A string on one line, between single quotes and without escapes. -/
def literalString : Reader (List Char) := do
  text ['\'']
  collect literalRound

/-- A run of the quotes that end a long string: up to two belong to the string, and three of up to
five end it. -/
def quotes (quote : Char) : Reader (List Char × Bool) := do
  let run ← takeWhile (· = quote)
  if run.length < 3 then return (run, true)
  else if run.length ≤ 5 then return (run.drop 3, false)
  else failure

/-- The newline directly behind the opening quotes of a long string, which is not part of it. -/
def skipNewline : Reader Unit := do
  match ← peek with
  | some '\n' => newline
  | some '\r' => newline
  | _ => return

/-- A line of spaces, or the spaces in front of what goes on. -/
def blankRound : Reader (List Unit × Bool) := do
  spaces
  match ← peek with
  | some '\n' => newline; return ([], true)
  | some '\r' => newline; return ([], true)
  | _ => return ([], false)

/-- A backslash at the end of a line, and all blanks behind it. -/
def continuation : Reader Unit := do
  spaces
  newline
  let _ ← collect blankRound

/-- What stands between three double quotes up to the next character, or the end. -/
def longBasicRound : Reader (List Char × Bool) := do
  match ← peek with
  | some '"' => quotes '"'
  | some '\\' =>
    text ['\\']
    (do continuation; return ([], true)) <|> (do return ([← escape], true))
  | some '\n' => newline; return (['\n'], true)
  | some '\r' => newline; return (['\n'], true)
  | _ => return ([← char isStringChar], true)

/-- A string over several lines, between three double quotes. -/
def longBasicString : Reader (List Char) := do
  text ['"', '"', '"']
  skipNewline
  collect longBasicRound

/-- What stands between three single quotes up to the next character, or the end. -/
def longLiteralRound : Reader (List Char × Bool) := do
  match ← peek with
  | some '\'' => quotes '\''
  | some '\n' => newline; return (['\n'], true)
  | some '\r' => newline; return (['\n'], true)
  | _ => return ([← char isStringChar], true)

/-- A string over several lines, between three single quotes and without escapes. -/
def longLiteralString : Reader (List Char) := do
  text ['\'', '\'', '\'']
  skipNewline
  collect longLiteralRound

/-! ### Keys -/

/-- A character of a key that is written without quotes. -/
def isKeyChar (c : Char) : Bool :=
  isAsciiLetter c || isAsciiDigit c || c = '-' || c = '_'

/-- A key without dots. -/
def simpleKey : Reader Key := do
  let (start, name, stop) ← located do
    match ← peek with
    | some '"' => basicString
    | some '\'' => literalString
    | _ =>
      let name ← takeWhile isKeyChar
      if name.isEmpty then failure else return name
  return ⟨String.ofList name, ⟨start, stop⟩⟩

/-- The greatest depth to which keys may be dotted and values nested. -/
def depthLimit : Nat := 79

/-- A name of a key with the spaces around it, and the dot if one follows. -/
def keyRound : Reader (List Key × Bool) := do
  spaces
  let key ← simpleKey
  spaces
  if (← peek) = some '.' then
    text ['.']
    return ([key], true)
  else return ([key], false)

/-- What is made of the names of a key: a key, unless there are too many. -/
def ofKeys (keys : List Key) : Reader DottedKey :=
  match keys.getLast? with
  | none => failure
  | some last => if depthLimit < keys.length then failure else return ⟨keys.dropLast, last⟩

/-- A key with dots, with spaces around each name. -/
def dottedKey : Reader DottedKey := do
  ofKeys (← collect keyRound)

/-! ### Values -/

/-- A value that is written as a run of letters, digits and signs. A date may be followed by a space
and a time. -/
def scalar : Reader Item := do
  let (start, run, stop) ← located do
    let run ← takeWhile isScalarChar
    match (← get).rest with
    | ' ' :: c :: _ =>
      if isDate run ∧ isAsciiDigit c then
        text [' ']
        return run ++ ' ' :: (← takeWhile isScalarChar)
      else return run
    | _ => return run
  match scalar? ⟨start, stop⟩ run with
  | some item => return item
  | none => failure

/-- A string. -/
def string : Reader Item := do
  let (start, value, stop) ← located
    (longBasicString <|> basicString <|> longLiteralString <|> literalString)
  return .string ⟨start, stop⟩ (String.ofList value)

/-- An item of a list with the blanks around it and what stands behind it, or the bracket at the end
of the list. -/
def arrayRound (item : Reader Item) : Reader (List Item × Bool) := do
  blanks
  if (← peek) = some ']' then
    text [']']
    return ([], false)
  else
    let x ← item
    blanks
    match ← peek with
    | some ',' => text [',']; return ([x], true)
    | _ => text [']']; return ([x], false)

/-- A list of items between brackets, with commas between them and perhaps one at the end. -/
def array (item : Reader Item) : Reader Item := do
  let (start, items, stop) ← located do
    text ['[']
    collect (arrayRound item)
  return .array ⟨start, stop⟩ items

/-- A key and its value. -/
def assignment (item : Reader Item) : Reader Assignment := do
  let key ← dottedKey
  text ['=']
  spaces
  return ⟨key, ← item⟩

/-- An assignment between braces and what stands behind it. -/
def inlineRound (item : Reader Item) : Reader (List Assignment × Bool) := do
  let a ← assignment item
  spaces
  match ← peek with
  | some ',' => text [',']; return ([a], true)
  | _ => text ['}']; return ([a], false)

/-- The assignments between braces, on one line, with commas between them. -/
def inlineTable (item : Reader Item) : Reader Item := do
  let (start, assignments, stop) ← located do
    text ['{']
    spaces
    if (← peek) = some '}' then
      text ['}']
      return []
    else collect (inlineRound item)
  match addAll [] assignments with
  | some entries => return .table (some ⟨start, stop⟩) .inline entries
  | none => failure

/-- A value in which others are nested to the given depth at most. -/
def value : (depth : Nat) → Reader Item
  | 0 => do
    match ← peek with
    | some '"' => string
    | some '\'' => string
    | _ => scalar
  | depth + 1 => do
    match ← peek with
    | some '"' => string
    | some '\'' => string
    | some '[' => array (value depth)
    | some '{' => inlineTable (value depth)
    | _ => scalar

/-! ### Lines -/

/-- A line that says something. -/
inductive Line where
  | header (repeated : Bool) (key : DottedKey) (extent : Extent)
  | assignment (a : Assignment)

/-- A key between brackets, or between two brackets on each side. -/
def headerBody : Reader (Bool × DottedKey) := do
  text ['[']
  let repeated := (← peek) = some '['
  if repeated then text ['[']
  let key ← dottedKey
  text [']']
  if repeated then text [']']
  return (decide repeated, key)

/-- A header. -/
def header : Reader Line := do
  let (start, (repeated, key), stop) ← located headerBody
  return .header repeated key ⟨start, stop⟩

/-- What a line says, by its first character that is no space, and whether the document goes on. -/
def lineStart (x : Option Char) : Reader (List Line × Bool) :=
  match x with
  | none => return ([], false)
  | some '#' => do comment; lineEnd; return ([], true)
  | some '\n' => do newline; return ([], true)
  | some '\r' => do newline; return ([], true)
  | some '[' => do
    let h ← header
    trailing
    return ([h], true)
  | some _ => do
    let a ← assignment (value depthLimit)
    trailing
    return ([.assignment a], true)

/-- A line, or the end of the document. -/
def lineRound : Reader (List Line × Bool) := do
  spaces
  lineStart (← peek)

/-- The lines of a document up to its end. -/
def lines : Reader (List Line) :=
  collect lineRound

/-- The assignments before the first header, and the sections. -/
def sections : List Line → List Assignment × List Section
  | [] => ([], [])
  | .assignment a :: ls => (a :: (sections ls).1, (sections ls).2)
  | .header repeated key extent :: ls =>
    ([], ⟨repeated, key, extent, (sections ls).1⟩ :: (sections ls).2)

/-- The table of a document. A byte order mark in front of it is passed over. -/
def parse (source : String) : Option Entries :=
  let start := (Cursor.atStart source.toList).skipText? ['\ufeff']
  match lines (start.getD (Cursor.atStart source.toList)) with
  | none => none
  | some (ls, _) => assemble (sections ls).1 (sections ls).2

end HeaderSurvey.Toml
