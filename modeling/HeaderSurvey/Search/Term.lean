import HeaderSurvey.Search.Expr

/-!
# Search patterns as they are written

The terms of a written pattern, each with its stretch of the pattern. What a term means depends on
the modes in force where it stands, so that it is settled apart.
-/

namespace HeaderSurvey.Search

/-- The modes that a pattern can switch on and off. -/
inductive Switch where
  /-- Letters stand for their other case as well. -/
  | ignoreCase
  /-- The anchors of the text hold at every line. -/
  | everyLine
  /-- The dot stands for the end of a line as well. -/
  | dotAll
  /-- Repetitions prefer to be short. -/
  | preferShort
  /-- Characters are those of all scripts. -/
  | allScripts
  /-- A carriage return ends a line as well. -/
  | carriageReturns
  /-- Blanks and comments in the pattern stand for nothing. -/
  | skipBlanks
  deriving Repr, DecidableEq

/-- A switch that is put on or off. -/
abbrev SwitchChange := Switch × Bool

/-- A character as it is written. -/
structure Letter where
  extent : Extent
  char : Char
  /-- Whether it is written as a byte of two digits. -/
  asByte : Bool

/-- The classes of characters that have a name. -/
inductive NamedClass where
  | digit
  | blank
  | word
  /-- The characters with a property, or with a value of a property. -/
  | property (name : List Char)
  | propertyValue (name value : List Char)

/-- A class that is given by a name, or the characters outside it. -/
structure ClassName where
  extent : Extent
  negated : Bool
  named : NamedClass

/-- The classes of ASCII characters that have a name inside brackets. -/
inductive AsciiClass where
  | alnum | alpha | ascii | blank | cntrl | digit | graph | lower | print | punct | space | upper
  | word | xdigit

/-- How two sets of characters are put together. -/
inductive SetOperation where
  | intersection
  | difference
  | symmetricDifference

/-- A set of characters, as it is written between brackets. -/
inductive CharSet where
  | empty (extent : Extent)
  | letter (l : Letter)
  | range (extent : Extent) (first last : Letter)
  | ascii (extent : Extent) (negated : Bool) (named : AsciiClass)
  | named (c : ClassName)
  | bracket (extent : Extent) (negated : Bool) (inside : CharSet)
  | union (extent : Extent) (items : List CharSet)
  | combine (extent : Extent) (operation : SetOperation) (left right : CharSet)

/-- The stretch of the pattern that a set takes. -/
def CharSet.extent : CharSet → Extent
  | empty e => e
  | letter l => l.extent
  | range e _ _ => e
  | ascii e _ _ => e
  | named c => c.extent
  | bracket e _ _ => e
  | union e _ => e
  | combine e _ _ _ => e

/-- What an anchor asks of its place. -/
inductive Anchor where
  /-- The start of the text or of a line. -/
  | start
  /-- The end of the text or of a line. -/
  | stop
  | textStart
  | textEnd
  | edge (kind : WordEdge)

/-- A written pattern or a part of one. -/
inductive Term where
  | empty (extent : Extent)
  /-- Switches for the terms that follow. -/
  | switches (extent : Extent) (changes : List SwitchChange)
  | letter (l : Letter)
  | dot (extent : Extent)
  | anchor (extent : Extent) (a : Anchor)
  | named (c : ClassName)
  | set (s : CharSet)
  | repeated (extent : Extent) (least : Nat) (most : Option Nat) (body : Term)
  /-- A term in parentheses, with switches for it alone. Some groups are numbered. -/
  | group (extent : Extent) (numbered : Bool) (changes : List SwitchChange) (body : Term)
  /-- Two or more terms in a row. -/
  | seq (extent : Extent) (terms : List Term)
  /-- Two or more terms to choose from. -/
  | choice (extent : Extent) (terms : List Term)

/-- The stretch of the pattern that a term takes. -/
def Term.extent : Term → Extent
  | empty e => e
  | switches e _ => e
  | letter l => l.extent
  | dot e => e
  | anchor e _ => e
  | named c => c.extent
  | set s => s.extent
  | repeated e _ _ _ => e
  | group e _ _ _ => e
  | seq e _ => e
  | choice e _ => e

/-! ### Nesting -/

/-- Looks into something that is nested one level deeper, if so many levels are left. Gives the
stretch that is too deep. -/
def deeper (extent : Extent) (inside : Nat → Option Extent) : (levels : Nat) → Option Extent
  | 0 => some extent
  | levels + 1 => inside levels

mutual

/-- The first stretch of a set that is nested deeper than so many levels. -/
def CharSet.tooDeep? (levels : Nat) : CharSet → Option Extent
  | .bracket e _ inside => deeper e (fun levels => inside.tooDeep? levels) levels
  | .union e items => deeper e (fun levels => CharSet.anyTooDeep? levels items) levels
  | .combine e _ left right =>
    deeper e (fun levels => left.tooDeep? levels <|> right.tooDeep? levels) levels
  | _ => none

/-- The first stretch of some sets that is nested deeper than so many levels. -/
def CharSet.anyTooDeep? (levels : Nat) : List CharSet → Option Extent
  | [] => none
  | s :: ss => s.tooDeep? levels <|> CharSet.anyTooDeep? levels ss

end

mutual

/-- The first stretch of a term that is nested deeper than so many levels. -/
def Term.tooDeep? (levels : Nat) : Term → Option Extent
  | .set s => s.tooDeep? levels
  | .repeated e _ _ body => deeper e (fun levels => body.tooDeep? levels) levels
  | .group e _ _ body => deeper e (fun levels => body.tooDeep? levels) levels
  | .seq e terms => deeper e (fun levels => Term.anyTooDeep? levels terms) levels
  | .choice e terms => deeper e (fun levels => Term.anyTooDeep? levels terms) levels
  | _ => none

/-- The first stretch of some terms that is nested deeper than so many levels. -/
def Term.anyTooDeep? (levels : Nat) : List Term → Option Extent
  | [] => none
  | t :: ts => t.tooDeep? levels <|> Term.anyTooDeep? levels ts

end

end HeaderSurvey.Search
