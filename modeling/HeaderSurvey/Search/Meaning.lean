import HeaderSurvey.Search.Parse
import HeaderSurvey.Search.Property
import HeaderSurvey.Search.Size

/-!
# The meaning of a search pattern

What a written pattern describes, under the modes that its switches put on and off. A switch holds
from where it stands to the end of its group, behind a bar too. Where the pattern is about bytes, a
character outside ASCII is only itself, and what could match a part of a character is refused.
-/

namespace HeaderSurvey.Search

open Unicode (Range)

/-- The modes in force. -/
structure Modes where
  ignoreCase : Bool
  everyLine : Bool
  dotAll : Bool
  allScripts : Bool
  carriageReturns : Bool

namespace Modes

/-- The modes at the start of a pattern. -/
def initial : Modes :=
  ⟨false, false, false, true, false⟩

/-- The modes after a switch is put on or off. -/
def change (m : Modes) : SwitchChange → Modes
  | (.ignoreCase, on) => { m with ignoreCase := on }
  | (.everyLine, on) => { m with everyLine := on }
  | (.dotAll, on) => { m with dotAll := on }
  | (.allScripts, on) => { m with allScripts := on }
  | (.carriageReturns, on) => { m with carriageReturns := on }
  | (.preferShort, _) => m
  | (.skipBlanks, _) => m

/-! ### Characters -/

/-- The characters that are one letter with one of the set, where case is ignored. -/
def anyCase (m : Modes) (ranges : List Range) : List Range :=
  if !m.ignoreCase then ranges
  else Text.inAnyCase (if m.allScripts then Text.folds else Text.asciiCapitals) ranges

/-- The characters outside a set. Outside a set of bytes are parts of characters. -/
def outside (m : Modes) (extent : Extent) (ranges : List Range) : Except Fault (List Range) :=
  if m.allScripts then .ok (Unicode.others ranges)
  else .error ⟨.splitsCharacters, extent, none⟩

/-- The characters of a set that is written with or without a sign of negation. -/
def finishSet (m : Modes) (extent : Extent) (negated : Bool) (ranges : List Range) :
    Except Fault (List Range) :=
  if negated then m.outside extent (m.anyCase ranges) else .ok (m.anyCase ranges)

/-- The character that is written. A byte outside ASCII is a part of a character. -/
def letter (m : Modes) (l : Letter) : Except Fault Char :=
  if !m.allScripts && l.asByte && 128 ≤ l.char.val then
    .error ⟨.splitsCharacters, l.extent, none⟩
  else .ok l.char

/-- The character that is written in a set. -/
def letterInSet (m : Modes) (l : Letter) : Except Fault Char := do
  let c ← m.letter l
  if !m.allScripts && 128 ≤ c.val then throw ⟨.bytesOnly, l.extent, none⟩
  return c

/-! ### Classes -/

/-- The digits of ASCII. -/
def asciiDigits : List Range := [(48, 57)]

/-- The characters that are blank in ASCII. -/
def asciiBlanks : List Range := [(9, 13), (32, 32)]

/-- The characters that words are made of in ASCII. -/
def asciiWordCharacters : List Range := [(48, 57), (65, 90), (95, 95), (97, 122)]

/-- A class with or without a sign of negation, which case makes no difference to. -/
def plainClass (m : Modes) (c : ClassName) (all ascii : List Range) : Except Fault (List Range) :=
  let ranges := if m.allScripts then all else ascii
  if c.negated then m.outside c.extent ranges else .ok ranges

/-- A class of characters with a property. -/
def propertyClass (m : Modes) (c : ClassName) (found : Except Cause (List Range)) :
    Except Fault (List Range) :=
  if !m.allScripts then .error ⟨.bytesOnly, c.extent, none⟩
  else
    match found with
    | .error cause => .error ⟨cause, c.extent, none⟩
    | .ok ranges => m.finishSet c.extent c.negated ranges

/-- The characters of a class that is given by its name. -/
def named (m : Modes) (c : ClassName) : Except Fault (List Range) :=
  match c.named with
  | .digit => m.plainClass c decimalDigits asciiDigits
  | .blank => m.plainClass c blankCharacters asciiBlanks
  | .word => m.plainClass c wordCharacters asciiWordCharacters
  | .property name => m.propertyClass c (property name)
  | .propertyValue name value => m.propertyClass c (propertyValue name value)

end Modes

/-- The characters of a class of ASCII. -/
def AsciiClass.ranges : AsciiClass → List Range
  | alnum => [(48, 57), (65, 90), (97, 122)]
  | alpha => [(65, 90), (97, 122)]
  | ascii => [(0, 127)]
  | blank => [(9, 9), (32, 32)]
  | cntrl => [(0, 31), (127, 127)]
  | digit => Modes.asciiDigits
  | graph => [(33, 126)]
  | lower => [(97, 122)]
  | print => [(32, 126)]
  | punct => [(33, 47), (58, 64), (91, 96), (123, 126)]
  | space => Modes.asciiBlanks
  | upper => [(65, 90)]
  | word => Modes.asciiWordCharacters
  | xdigit => asciiHexadecimalDigits

/-- Two sets of characters put together. -/
def SetOperation.apply (operation : SetOperation) (a b : List Range) : List Range :=
  match operation with
  | intersection => Unicode.common a b
  | difference => Unicode.exclude a b
  | symmetricDifference => Unicode.collect (Unicode.exclude a b ++ Unicode.exclude b a)

/-! ### Sets -/

mutual

/-- The characters of a set. -/
def CharSet.meaning (m : Modes) : CharSet → Except Fault (List Range)
  | .empty _ => .ok []
  | .letter l => do
    let c ← m.letterInSet l
    return [(c.toNat, c.toNat)]
  | .range _ first last => do
    let low ← m.letterInSet first
    let high ← m.letterInSet last
    return Unicode.common Unicode.everyCharacter [(low.toNat, high.toNat)]
  | .ascii extent negated kind => m.finishSet extent negated kind.ranges
  | .named c => m.named c
  | .bracket extent negated inside => do
    m.finishSet extent negated (← inside.meaning m)
  | .union _ items => CharSet.unionMeaning m items
  | .combine _ operation left right => do
    let a ← left.meaning m
    let b ← right.meaning m
    return operation.apply (m.anyCase a) (m.anyCase b)

/-- The characters of some sets. -/
def CharSet.unionMeaning (m : Modes) : List CharSet → Except Fault (List Range)
  | [] => .ok []
  | s :: ss => do
    let a ← s.meaning m
    let b ← CharSet.unionMeaning m ss
    return Unicode.collect (a ++ b)

end

/-! ### Terms -/

/-- What is asked of the place of an anchor. -/
def Anchor.look (m : Modes) : Anchor → Look
  | start =>
    if !m.everyLine then .textStart else if m.carriageReturns then .anyLineStart else .lineStart
  | stop =>
    if !m.everyLine then .textEnd else if m.carriageReturns then .anyLineEnd else .lineEnd
  | textStart => .textStart
  | textEnd => .textEnd
  | edge kind => .edge kind m.allScripts

/-- The characters that a dot stands for. -/
def Modes.dot (m : Modes) (extent : Extent) : Except Fault (List Range) :=
  m.outside extent
    (if m.dotAll then [] else if m.carriageReturns then [(10, 10), (13, 13)] else [(10, 10)])

/-- What a part of a pattern describes, given the modes in force, and the modes behind it. -/
abbrev Meaning := StateT Modes (Except Fault)

mutual

/-- What a term describes. -/
def Term.meaning : Term → Meaning Expr
  | .empty _ => return .empty
  | .switches _ changes => do
    modify fun m => changes.foldl Modes.change m
    return .empty
  | .letter l => do
    let m ← get
    let c ← m.letter l
    return .one (m.anyCase [(c.toNat, c.toNat)])
  | .dot extent => do return .one (← (← get).dot extent)
  | .anchor _ a => do return .look (a.look (← get))
  | .named c => do return .one (← (← get).named c)
  | .set s => do return .one (← s.meaning (← get))
  | .repeated _ least most body => do return .rounds least most (← body.meaning)
  | .group _ numbered changes body => do
    let outside ← get
    modify fun m => changes.foldl Modes.change m
    let e ← body.meaning
    modify fun _ => outside
    return if numbered then .group e else e
  | .seq _ terms => do return .inRow (← Term.meanings terms)
  | .choice _ terms => do return .choice (← Term.meanings terms)

/-- What some terms describe, one after the other. -/
def Term.meanings : List Term → Meaning (List Expr)
  | [] => return []
  | t :: ts => do
    let e ← t.meaning
    return e :: (← Term.meanings ts)

end

/-! ### Whole patterns -/

/-- Why a pattern stands for no expression. -/
inductive PatternError where
  | fault (f : Fault)
  | tooLarge

/-- Why the pattern stands for no expression, in words. -/
def PatternError.report (pattern : List Char) : PatternError → String
  | fault f => f.report pattern
  | tooLarge => "Compiled regex exceeds size limit of " ++ toString sizeLimit ++ " bytes."

/-- The expression that a pattern stands for. -/
def Expr.ofPattern (pattern : List Char) : Except PatternError Expr := do
  let term ← (Term.parse pattern).mapError .fault
  let e ← (term.meaning.run' Modes.initial).mapError .fault
  if e.fits then return e else throw .tooLarge

end HeaderSurvey.Search
