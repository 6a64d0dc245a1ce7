import HeaderSurvey.Search.Compose
import HeaderSurvey.Text.Utf8

/-!
# The size of a machine for a search expression

An expression is searched for by a machine of states that reads a text byte by byte. There is one
machine that reads forward and one that reads backward, and both have a limit of size: a pattern
whose machine would be larger is refused. A state takes `stateSize` bytes, and more where several
ways lead on from it. What is repeated is built anew for every round that has to be done or may be
done.
-/

namespace HeaderSurvey.Search

/-- The most bytes that a machine may take. -/
def sizeLimit : Nat := 10485760

/-- The bytes of a state. -/
def stateSize : Nat := 32

/-- The bytes of a way on to another state. -/
def waySize : Nat := 4

/-- The bytes of a way on that is taken for some bytes alone. -/
def byteWaySize : Nat := 8

/-- The bytes of a state with two ways on. -/
def forkSize : Nat := stateSize + 2 * waySize

/-- The way in which a machine reads a text. -/
inductive Direction where
  | forward
  | backward
  deriving Repr, DecidableEq

/-- The sum of some sizes. -/
def totalOf (sizes : List Nat) : Nat :=
  sizes.foldl (· + ·) 0

/-- The list without what comes again later in it. -/
def distinct {α : Type} [DecidableEq α] : List α → List α
  | [] => []
  | a :: as => if as.any (· = a) then distinct as else a :: distinct as

/-! ### Sets of characters -/

open Unicode (ByteRow)

/-- The rows that are not empty, in groups with the same first range. -/
def byFirst (rows : List ByteRow) : List (List ByteRow) :=
  (rows.filter (!·.isEmpty)).splitBy fun a b => a.head? = b.head?

/-- The rests of some rows of at most so many ranges, at each place where a row can go on. -/
def restsWithin : (length : Nat) → List ByteRow → List (List ByteRow)
  | 0, _ => []
  | length + 1, rows =>
    if rows.all (·.isEmpty) then []
    else rows :: (byFirst rows).flatMap fun rows => restsWithin length (rows.map List.tail)

/-- How many starts some rows of at most so many ranges have. -/
def startsWithin : (length : Nat) → List ByteRow → Nat
  | 0, _ => 0
  | length + 1, rows =>
    let groups := byFirst rows
    groups.length + totalOf (groups.map fun rows => startsWithin length (rows.map List.tail))

/-- The bytes of a machine for one character of a set. Characters of ASCII take one state. Forward,
characters share the states behind which they go on alike; backward, those up to which they begin
alike. -/
def setSize (d : Direction) (ranges : List Unicode.Range) : Nat :=
  if ranges.all (·.2 < 128) then 2 * stateSize + byteWaySize * ranges.length
  else
    let rows := Unicode.encodings ranges
    match d with
    | .forward =>
      let states := distinct (restsWithin 4 rows)
      let sizes := states.map fun rows => stateSize + byteWaySize * (byFirst rows).length
      stateSize + totalOf sizes
    | .backward =>
      2 * stateSize + waySize * rows.length + stateSize * startsWithin 4 rows

/-! ### Choices between words -/

/-- The bytes of a text that is told letter by letter. -/
def Expr.text? (e : Expr) : Option (List UInt8) :=
  match e.pieces with
  | [] => none
  | pieces => (pieces.mapM letter?).map fun letters => Utf8.encode (String.ofList letters)
where
  /-- The character of an expression for a single one. -/
  letter? : Expr → Option Char
    | .one [(first, last)] => if first = last then some (Char.ofNat first) else none
    | _ => none

/-- The words in front of, between and behind the empty ones. -/
def betweenEmpty : List (List UInt8) → List (List (List UInt8))
  | [] => [[]]
  | [] :: words => [] :: betweenEmpty words
  | word :: words =>
    match betweenEmpty words with
    | [] => [[word]]
    | run :: runs => (word :: run) :: runs

/-- The words that begin with a byte, without it. -/
def behindByte (b : UInt8) (words : List (List UInt8)) : List (List UInt8) :=
  words.filterMap fun word => if word.head? = some b then some word.tail else none

/-- The bytes of the states for some words of at most so many bytes, which share their starts. A
word that ends where others go on is a way on of its own. -/
def wordsSize : (length : Nat) → List (List UInt8) → Nat
  | 0, _ => 0
  | length + 1, words =>
    if words.all (·.isEmpty) then 0
    else
      let (endings, others) := words.span (·.isEmpty)
      let runs := betweenEmpty (endings.take 1 ++ others)
      let full := runs.filter (!·.isEmpty)
      let sizes := full.map fun run =>
        let firsts := distinct (run.filterMap List.head?)
        let rests := firsts.map fun b => wordsSize length (behindByte b run)
        let ways := if firsts.length = 1 then 0 else byteWaySize * firsts.length
        stateSize + ways + totalOf rests
      stateSize + waySize * (full.length + (runs.length - 1)) + totalOf sizes

/-- The bytes of a machine for a choice between words. -/
def choiceSize (d : Direction) (words : List (List UInt8)) : Nat :=
  let words :=
    match d with
    | .forward => words
    | .backward => words.map List.reverse
  let longest := (words.map List.length).foldl Nat.max 0
  stateSize + wordsSize (longest + 1) words

/-! ### Expressions -/

namespace Expr

/-- The bytes of a machine for an expression, with the way to it where it is one of several to
choose from. Groups are remembered forward only. -/
def size (d : Direction) (chosen : Bool) (e : Expr) : Nat :=
  let way := if chosen then waySize else 0
  match e with
  | empty => way + stateSize
  | one ranges =>
    match e.text? with
    | some bytes => way + stateSize * bytes.length
    | none => way + setSize d ranges
  | look _ => way + stateSize
  | group body => way + body.size d false + if d = .forward then 2 * stateSize else 0
  | seq first second => way + first.size d false + second.size d false
  | either first second =>
    let sizes := first.size d true + second.size d true
    if chosen then sizes
    else
      match (first.alternatives ++ second.alternatives).mapM text? with
      | some words => choiceSize d words
      | none => 2 * stateSize + sizes
  | repeated least most body =>
    let round := body.size d false
    match least, most with
    | 0, some 1 => way + round + forkSize + stateSize
    | 0, none =>
      if body.minLength.any (0 < ·) then way + round + forkSize
      else way + round + 2 * forkSize + stateSize
    | least, none => way + least * round + forkSize
    | least, some most =>
      let needed := if least = 0 then stateSize else least * round
      let further := if least = most then 0 else (most - least) * (round + forkSize) + stateSize
      way + needed + further

/-- Whether every piece begins at a place that has what is asked of it. -/
def beginsWith (l : Look) : Expr → Bool
  | look k => k = l
  | group body => body.beginsWith l
  | seq first second =>
    first.beginsWith l || (first.maxLength = some 0 && second.beginsWith l)
  | either first second => first.beginsWith l && second.beginsWith l
  | repeated least _ body => least ≠ 0 && body.beginsWith l
  | _ => false

/-- Whether every piece ends at a place that has what is asked of it. -/
def endsWith (l : Look) : Expr → Bool
  | look k => k = l
  | group body => body.endsWith l
  | seq first second =>
    second.endsWith l || (second.maxLength = some 0 && first.endsWith l)
  | either first second => first.endsWith l && second.endsWith l
  | repeated least _ body => least ≠ 0 && body.endsWith l
  | _ => false

/-- The bytes of the machine for a whole pattern. It passes over what stands in front of the first
piece, unless every piece is at the edge of the text where the machine begins. -/
def machineSize (d : Direction) (e : Expr) : Nat :=
  let atEdge :=
    match d with
    | .forward => e.beginsWith .textStart
    | .backward => e.endsWith .textEnd
  let search := if atEdge then stateSize else forkSize + 2 * stateSize + byteWaySize
  search + (if d = .forward then e.group else e).size d false + stateSize

/-- Whether the machines for a pattern are not too large. -/
def fits (e : Expr) : Bool :=
  e.machineSize .forward ≤ sizeLimit && e.machineSize .backward ≤ sizeLimit

end Expr
end HeaderSurvey.Search
