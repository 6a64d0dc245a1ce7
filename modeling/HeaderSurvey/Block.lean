import HeaderSurvey.Pattern.Basic

/-!
# Blocks

A block is a match of a keyword pattern together with the braces that follow it, if any: from the
opening brace to the one that matches it. A scanner goes through a text and reports its blocks one
by one; an opening brace without a partner ends it with an error.

Braces are counted wherever they stand, in comments and strings too.
-/

namespace HeaderSurvey

/-- An opening brace that nothing closes. -/
structure UnclosedBlock where
  /-- The byte offsets of the keyword in front of the brace. -/
  keyword : Span
  /-- How many braces are open at the end of the text. -/
  depth : Nat
  /-- The file the text comes from. -/
  fileId : Nat
  deriving Repr, DecidableEq

namespace UnclosedBlock

/-- What is wrong, in one line. -/
def message (_ : UnclosedBlock) : String :=
  "unbalanced block: opening `\x7b` is never closed"

/-- How the end of the text was reached. -/
def notes (e : UnclosedBlock) : List String :=
  ["reached end of input with " ++ toString e.depth ++ " unclosed brace(s)"]

end UnclosedBlock

/-- The braces of a block. -/
structure Braces where
  /-- The cursor in front of the opening brace. -/
  opening : Cursor
  /-- The cursor behind the opening brace. -/
  inside : Cursor
  /-- The cursor in front of the closing brace. -/
  closing : Cursor
  /-- The cursor behind the closing brace. -/
  outside : Cursor
  deriving Repr, DecidableEq

/-- A keyword and the braces that follow it. -/
structure Block where
  keyword : Match
  braces : Option Braces
  deriving Repr, DecidableEq

namespace Block

/-- The cursor behind the whole block. -/
def stop (b : Block) : Cursor :=
  match b.braces with
  | some braces => braces.outside
  | none => b.keyword.stop

/-- The byte offsets of the whole block. -/
def span (b : Block) : Span :=
  b.keyword.start.span b.stop

/-- The text in front of the opening brace, or the keyword alone where there is no brace. -/
def header (b : Block) : List Char :=
  match b.braces with
  | some braces => b.keyword.start.upTo braces.opening
  | none => b.keyword.start.upTo b.keyword.stop

/-- The text between the braces. -/
def body? (b : Block) : Option (List Char) :=
  b.braces.map fun braces => braces.inside.upTo braces.closing

/-- The byte offsets of the text between the braces, counted back from the end of the block. -/
def bodySpan? (b : Block) : Option Span :=
  b.body?.map fun body =>
    let close := b.stop.offset - 1
    ⟨close - Text.byteLength body, close⟩

end Block

/-- The cursors in front of and behind the brace that closes the first of `depth + 1` open ones, or
the number of braces that are still open when the text ends. -/
def closingFrom (before : List Char) (depth : Nat) : List Char → Except Nat (Cursor × Cursor)
  | [] => .error (depth + 1)
  | c :: rest =>
    if c = '{' then closingFrom (c :: before) (depth + 1) rest
    else if c = '}' then
      match depth with
      | 0 => .ok (⟨before, c :: rest⟩, ⟨c :: before, rest⟩)
      | depth + 1 => closingFrom (c :: before) depth rest
    else closingFrom (c :: before) depth rest

/-- The braces that begin at the cursor, after blanks of ASCII at most: none if something else
begins there, and the number of open braces if they are never closed. -/
def bracesAt (c : Cursor) : Except Nat (Option Braces) :=
  let opening := c.skipWhile isAsciiBlank
  match opening.rest with
  | '{' :: rest =>
    let inside : Cursor := ⟨'{' :: opening.before, rest⟩
    match closingFrom inside.before 0 inside.rest with
    | .ok (closing, outside) => .ok (some ⟨opening, inside, closing, outside⟩)
    | .error depth => .error depth
  | _ => .ok none

/-- Where the search for the next keyword goes on. -/
inductive Resume where
  /-- Behind the keyword, so that the inside of a block is searched too. -/
  | afterKeyword
  /-- Behind the block, so that its inside is passed over. -/
  | afterBlock
  deriving Repr, DecidableEq

/-- A walk over the blocks of a text. -/
structure Scanner where
  /-- What introduces a block. -/
  pattern : Pattern
  resume : Resume
  fileId : Nat
  /-- Where the search goes on; nowhere once the walk is over. -/
  cursor : Option Cursor

namespace Scanner

/-- The walk from the beginning of a text. -/
def ofText (pattern : Pattern) (resume : Resume) (fileId : Nat) (text : List Char) : Scanner :=
  ⟨pattern, resume, fileId, some (Cursor.atStart text)⟩

/-- Where the search goes on after a block. -/
def resumeAfter (s : Scanner) (b : Block) : Cursor :=
  match s.resume with
  | .afterKeyword => b.keyword.stop
  | .afterBlock => b.stop

/-- The next block or error, and the walk that is left. Neither comes when the walk is over: when
no keyword is left, or one that holds no character, and after an error. -/
def next (s : Scanner) : Option (Except UnclosedBlock Block) × Scanner :=
  match s.cursor with
  | none => (none, s)
  | some c =>
    match s.pattern.find? c with
    | none => (none, { s with cursor := none })
    | some m =>
      if m.isEmpty then (none, { s with cursor := none })
      else
        match bracesAt m.stop with
        | .error depth => (some (.error ⟨m.span, depth, s.fileId⟩), { s with cursor := none })
        | .ok braces =>
          let b : Block := ⟨m, braces⟩
          (some (.ok b), { s with cursor := some (s.resumeAfter b) })

/-- The results of the walk, one for each character of the budget at most. -/
def resultsWithin : (budget : List Char) → Scanner → List (Except UnclosedBlock Block)
  | [], _ => []
  | _ :: budget, s =>
    match s.next with
    | (some r, s) => r :: resultsWithin budget s
    | (none, _) => []

/-- All results of the walk. Each but an error takes the search past a character, so the text that
is left bounds their number. -/
def results (s : Scanner) : List (Except UnclosedBlock Block) :=
  match s.cursor with
  | some c => s.resultsWithin c.rest
  | none => []

/-- The blocks before the first error, or that error. -/
def collect : List (Except UnclosedBlock Block) → Except UnclosedBlock (List Block)
  | [] => .ok []
  | .error e :: _ => .error e
  | .ok b :: results =>
    match collect results with
    | .ok blocks => .ok (b :: blocks)
    | .error e => .error e

/-- All blocks of the walk, or the error that ends it. -/
def blocks (s : Scanner) : Except UnclosedBlock (List Block) :=
  collect s.results

end Scanner
end HeaderSurvey
