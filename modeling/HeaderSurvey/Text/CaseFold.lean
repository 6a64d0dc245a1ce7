import HeaderSurvey.Unicode.Lowercase
import HeaderSurvey.Unicode.Recent

/-!
# Letters in any case

Two characters are one letter if they have the same folded form: the small form of a letter, or the
common small form where a letter has several. The characters that came last into the standard are
not known to have a case.
-/

namespace HeaderSurvey.Text

open Unicode (Range inRanges)

/-- The capitals of ASCII, each with its small letter. -/
def asciiCapitals : List (Nat × Nat) :=
  (List.range 26).map fun i => (65 + i, 97 + i)

/-- The capitals of a run, each with its small letter. -/
def capitalsOfRun (r : Unicode.CaseRun) : List (Nat × Nat) :=
  (List.range ((r.last - r.first) / r.step + 1)).map fun i =>
    (r.first + i * r.step, r.lower + i * r.step)

/-- The capitals that have one small letter, each with its small letter. -/
def capitals : List (Nat × Nat) :=
  asciiCapitals ++
    (Unicode.caseRuns.flatMap capitalsOfRun).filter fun c => !inRanges c.1 Unicode.recent

/-- The forms of letters that are not folded as capitals are, each with its folded form. -/
def variantForms : List (Nat × Nat) :=
  [
    ('µ', 'μ'), ('ſ', 's'), ('\u0345', 'ι'), ('ς', 'σ'), ('ϐ', 'β'), ('ϑ', 'θ'), ('ϕ', 'φ'),
    ('ϖ', 'π'), ('ϰ', 'κ'), ('ϱ', 'ρ'), ('ϵ', 'ε'), ('\u1c80', 'в'), ('\u1c81', 'д'),
    ('\u1c82', 'о'), ('\u1c83', 'с'), ('\u1c84', 'т'), ('\u1c85', 'т'), ('\u1c86', 'ъ'),
    ('\u1c87', 'ѣ'), ('\u1c88', '\ua64b'), ('ẛ', 'ṡ'), ('\u1fbe', 'ι'), ('\u1fd3', '\u0390'),
    ('\u1fe3', '\u03b0'), ('\ufb06', '\ufb05')
  ].map fun (form, folded) => (Char.toNat form, Char.toNat folded)

/-- The characters that have another folded form, each with that form. -/
def folds : List (Nat × Nat) :=
  capitals ++ variantForms

/-- The characters that are one letter with a character of the set, which is in the set or is folded
to the same form. -/
def inAnyCase (folds : List (Nat × Nat)) (ranges : List Range) : List Range :=
  let folded := folds.filterMap fun (c, form) =>
    if inRanges c ranges || inRanges form ranges then some (form, form) else none
  let forms := Unicode.collect folded
  let unfolded := folds.filterMap fun (c, form) =>
    if inRanges form forms then some (c, c) else none
  Unicode.collect (ranges ++ folded ++ unfolded)

end HeaderSurvey.Text
