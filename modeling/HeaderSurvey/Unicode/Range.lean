/-!
# Sets of code points as ranges

A set of code points is the list of its ranges, which stand in increasing order and apart from one
another. Looking a code point up stops at the first range that begins above it. Sets are put
together range by range, and no code point is looked at by itself.
-/

namespace HeaderSurvey.Unicode

/-- The code points from the first component to the second, both included. -/
abbrev Range := Nat × Nat

/-- Whether `c` lies in one of the ranges, which stand in increasing order. -/
def inRanges (c : Nat) : List Range → Bool
  | [] => false
  | (first, last) :: ranges =>
    if c < first then false else if c ≤ last then true else inRanges c ranges

/-- The range and those of the list, with what overlaps or touches made one. The ranges begin in
increasing order. -/
def coalesceFrom (current : Range) : List Range → List Range
  | [] => [current]
  | (first, last) :: ranges =>
    if first ≤ current.2 + 1 then coalesceFrom (current.1, Nat.max current.2 last) ranges
    else current :: coalesceFrom (first, last) ranges

/-- The set of the code points in some ranges, whatever their order. -/
def collect (ranges : List Range) : List Range :=
  match ranges.mergeSort fun a b => a.1 ≤ b.1 with
  | [] => []
  | current :: ranges => coalesceFrom current ranges

/-- The code points of the first set that are not in the second. -/
def exclude : List Range → List Range → List Range
  | [], _ => []
  | kept, [] => kept
  | (first, last) :: kept, (low, high) :: cut =>
    if high < first then exclude ((first, last) :: kept) cut
    else if last < low then (first, last) :: exclude kept ((low, high) :: cut)
    else
      let rest :=
        if high < last then exclude ((high + 1, last) :: kept) cut
        else exclude kept ((low, high) :: cut)
      if first < low then (first, low - 1) :: rest else rest
termination_by kept cut => kept.length + cut.length

/-- The code points that two sets have in common. -/
def common (a b : List Range) : List Range :=
  exclude a (exclude a b)

/-- The code points that stand for characters: all but the surrogates. -/
def everyCharacter : List Range := [(0, 0xD7FF), (0xE000, 0x10FFFF)]

/-- The characters outside a set. -/
def others (ranges : List Range) : List Range :=
  exclude everyCharacter ranges

end HeaderSurvey.Unicode
