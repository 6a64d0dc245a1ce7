import HeaderSurvey.Text.Cursor

/-!
# Patterns

A pattern describes pieces of text. `Pattern.run` tries the ways a pattern can match at a cursor in
order of preference: the first alternative before the second, a greedy repetition long before
short, a lazy one short before long. What follows the pattern is handed in as a continuation, and
the first way that lets the continuation succeed wins. `find?` takes the leftmost place with a
match, and `matches` the successive matches that do not overlap.

Repetition ends because each round is charged one of the characters still ahead, so `run` is
structural in the pattern.
-/

namespace HeaderSurvey

/-- A description of pieces of text. -/
inductive Pattern where
  /-- These characters. -/
  | literal (chars : List Char)
  /-- One character that satisfies `p`. -/
  | one (p : Char → Bool)
  /-- As many characters that satisfy `p` as possible, or fewer. -/
  | many (p : Char → Bool)
  /-- One pattern and then another. -/
  | seq (first second : Pattern)
  /-- One pattern or, failing that, another. -/
  | either (first second : Pattern)
  /-- The body as often as possible, or less often. -/
  | star (body : Pattern)
  /-- The body as rarely as possible, or more often. -/
  | lazyStar (body : Pattern)
  /-- The body, whose extent is kept under a number. -/
  | capture (index : Nat) (body : Pattern)
  /-- No character, at a place that satisfies `test`. -/
  | place (test : Cursor → Bool)

/-- The extents that captures have kept, the latest first. -/
abbrev Captures := List (Nat × Cursor × Cursor)

/-- A place where a match can end, with what was captured on the way. -/
abbrev MatchEnd := Cursor × Captures

/-- Something that can be matched at a cursor, in front of whatever has to follow it. -/
abbrev Matcher := Cursor → Captures → (Cursor → Captures → Option MatchEnd) → Option MatchEnd

/-- A match of a pattern: where it begins and ends, and what it captured. -/
structure Match where
  start : Cursor
  stop : Cursor
  captures : Captures
  deriving Repr, DecidableEq

namespace Pattern

instance : Append Pattern := ⟨seq⟩

instance : OrElse Pattern := ⟨fun p q => either p (q ())⟩

/-- The characters of a string. -/
def lit (s : String) : Pattern :=
  literal s.toList

/-- The pattern or, failing that, nothing. -/
def optional (p : Pattern) : Pattern :=
  either p (literal [])

/-- One or more characters that satisfy `p`, as many as possible. -/
def oneOrMore (p : Char → Bool) : Pattern :=
  one p ++ many p

/-- A place between a word character and something else. -/
def wordBoundary : Pattern :=
  place Cursor.isWordBoundary

/-- A place at the start of a line. -/
def lineStart : Pattern :=
  place Cursor.isLineStart

/-! ### Matching at a cursor -/

/-- Tries the continuation behind ever fewer of the characters that satisfy `p`. -/
def runMany (p : Char → Bool) (k : Cursor → Option MatchEnd) (before : List Char) :
    List Char → Option MatchEnd
  | [] => k ⟨before, []⟩
  | c :: rest =>
    if p c then
      match runMany p k (c :: before) rest with
      | some o => some o
      | none => k ⟨before, c :: rest⟩
    else k ⟨before, c :: rest⟩

/-- Tries another round of `body` before the continuation, one round for each character of the
budget at most. -/
def runStar (body : Matcher) : (budget : List Char) → Matcher
  | [], c, g, k => k c g
  | _ :: budget, c, g, k =>
    match body c g fun c g => runStar body budget c g k with
    | some o => some o
    | none => k c g

/-- Tries the continuation before another round of `body`, one round for each character of the
budget at most. -/
def runLazyStar (body : Matcher) : (budget : List Char) → Matcher
  | [], c, g, k => k c g
  | _ :: budget, c, g, k =>
    match k c g with
    | some o => some o
    | none => body c g fun c g => runLazyStar body budget c g k

/-- Tries the ways the pattern can match at a cursor, in order of preference, until the
continuation succeeds behind one of them. -/
def run : Pattern → Matcher
  | literal chars => fun c g k =>
    match c.skipText? chars with
    | some c => k c g
    | none => none
  | one p => fun c g k =>
    match c.rest with
    | x :: rest => if p x then k ⟨x :: c.before, rest⟩ g else none
    | [] => none
  | many p => fun c g k => runMany p (fun c => k c g) c.before c.rest
  | seq p q => fun c g k => p.run c g fun c g => q.run c g k
  | either p q => fun c g k =>
    match p.run c g k with
    | some o => some o
    | none => q.run c g k
  | star p => fun c g k => runStar p.run c.rest c g k
  | lazyStar p => fun c g k => runLazyStar p.run c.rest c g k
  | capture i p => fun c g k => p.run c g fun d g => k d ((i, c, d) :: g)
  | place test => fun c g k => if test c then k c g else none

section Equations

variable (c : Cursor) (g : Captures) (k : Cursor → Captures → Option MatchEnd)

theorem run_literal (chars : List Char) :
    (literal chars).run c g k =
      match c.skipText? chars with
      | some c => k c g
      | none => none :=
  rfl

theorem run_one_cons (p : Char → Bool) (before : List Char) (x : Char) (rest : List Char) :
    (one p).run ⟨before, x :: rest⟩ g k = if p x then k ⟨x :: before, rest⟩ g else none :=
  rfl

theorem run_one_nil (p : Char → Bool) (before : List Char) :
    (one p).run ⟨before, []⟩ g k = none :=
  rfl

theorem run_many (p : Char → Bool) :
    (many p).run c g k = runMany p (fun c => k c g) c.before c.rest :=
  rfl

theorem run_seq (p q : Pattern) :
    (p ++ q).run c g k = p.run c g fun c g => q.run c g k :=
  rfl

theorem run_either (p q : Pattern) :
    (p <|> q).run c g k =
      match p.run c g k with
      | some o => some o
      | none => q.run c g k :=
  rfl

theorem run_star (p : Pattern) : (star p).run c g k = runStar p.run c.rest c g k :=
  rfl

theorem run_lazyStar (p : Pattern) : (lazyStar p).run c g k = runLazyStar p.run c.rest c g k :=
  rfl

theorem run_capture (i : Nat) (p : Pattern) :
    (capture i p).run c g k = p.run c g fun d g => k d ((i, c, d) :: g) :=
  rfl

theorem run_place (test : Cursor → Bool) :
    (place test).run c g k = if test c then k c g else none :=
  rfl

end Equations

/-- The preferred match of the pattern that begins at the cursor. -/
def matchAt? (p : Pattern) (c : Cursor) : Option Match :=
  match p.run c [] fun d g => some (d, g) with
  | some (d, g) => some ⟨c, d, g⟩
  | none => none

/-! ### Searching -/

/-- The leftmost match in the text ahead, of which `before` is what precedes it. -/
def findFrom (p : Pattern) (before : List Char) : List Char → Option Match
  | [] => p.matchAt? ⟨before, []⟩
  | c :: rest =>
    match p.matchAt? ⟨before, c :: rest⟩ with
    | some m => some m
    | none => findFrom p (c :: before) rest

/-- The leftmost match that begins at or after the cursor. -/
def find? (p : Pattern) (c : Cursor) : Option Match :=
  findFrom p c.before c.rest

end Pattern

namespace Match

/-- Whether the match holds no character. -/
def isEmpty (m : Match) : Bool :=
  m.start.rest.length ≤ m.stop.rest.length

/-- The byte offsets of the match. -/
def span (m : Match) : Span :=
  m.start.span m.stop

/-- The extent kept last under the number. -/
def capture? (m : Match) (index : Nat) : Option (Cursor × Cursor) :=
  (m.captures.find? (·.1 = index)).map (·.2)

/-- The text kept last under the number. -/
def captured? (m : Match) (index : Nat) : Option (List Char) :=
  (m.capture? index).map fun (start, stop) => start.upTo stop

end Match

namespace Pattern

/-- The successive matches at and after a cursor, one for each character of the budget at most. -/
def matchesWithin (p : Pattern) : (budget : List Char) → Cursor → List Match
  | [], _ => []
  | _ :: budget, c =>
    match p.find? c with
    | none => []
    | some m => if m.isEmpty then [] else m :: matchesWithin p budget m.stop

/-- The successive leftmost matches at and after a cursor: each begins at or after the end of the
one before. An empty match ends them. -/
def matchesFrom (p : Pattern) (c : Cursor) : List Match :=
  p.matchesWithin c.rest c

/-- The text ahead of a cursor with `value` in place of each of the matches. -/
def spliceFrom (value : List Char) (c : Cursor) : List Match → List Char
  | [] => c.rest
  | m :: ms => c.upTo m.start ++ value ++ spliceFrom value m.stop ms

/-- The text with `value` in place of each successive match. -/
def replaceAll (p : Pattern) (value text : List Char) : List Char :=
  spliceFrom value (Cursor.atStart text) (p.matchesFrom (Cursor.atStart text))

end Pattern
end HeaderSurvey
