import HeaderSurvey.Proofs.Block.Scan

/-!
# Reading a text block by block

`results_moveTo` says what a walk reports from a place on: its next block and what comes behind it,
or an error.

`s.Reads f xs` says that a walk ends without an error and that `f` makes `xs` of its blocks.  The
lemmas build up such a reading from the end of a text to its start: `reads_skip` for a stretch in
which no keyword begins, `reads_block` for a keyword and the braces behind it.
-/

namespace HeaderSurvey.Scanner

variable {α : Type} {f : Block → Option α} {s : Scanner} {xs : List α} {c d : Cursor}

/-! ### The blocks before the first error -/

theorem collect_mapError (f : UnclosedBlock → UnclosedBlock)
    (results : List (Except UnclosedBlock Block)) :
    collect (results.map (Except.mapError f)) = (collect results).mapError f := by
  induction results with
  | nil => rfl
  | cons r results ih =>
    cases r with
    | error e => rfl
    | ok b =>
      have hok : (Except.ok b : Except UnclosedBlock Block).mapError f = .ok b := rfl
      rw [List.map_cons, hok, collect, collect, ih]
      cases collect results <;> rfl

theorem collect_map (g : Block → Block) (results : List (Except UnclosedBlock Block)) :
    collect (results.map (Except.map g)) = (collect results).map (List.map g) := by
  induction results with
  | nil => rfl
  | cons r results ih =>
    cases r with
    | error e => rfl
    | ok b =>
      have hok : (Except.ok b : Except UnclosedBlock Block).map g = .ok (g b) := rfl
      rw [List.map_cons, hok, collect, collect, ih]
      cases collect results <;> rfl

theorem collect_map_ok_append (bs : List Block) (rs : List (Except UnclosedBlock Block)) :
    collect (bs.map .ok ++ rs) = (collect rs).map (bs ++ ·) := by
  induction bs with
  | nil =>
    change collect rs = _
    cases collect rs <;> rfl
  | cons b bs ih =>
    rw [List.map_cons, List.cons_append, collect, ih]
    cases collect rs <;> rfl

/-! ### The walk from a place -/

/-- The walk goes on at the place. -/
def moveTo (s : Scanner) (c : Cursor) : Scanner :=
  { s with cursor := some c }

/-- The walk meets no error, and `f` makes `xs` of its blocks. -/
def Reads (s : Scanner) (f : Block → Option α) (xs : List α) : Prop :=
  ∃ bs, s.blocks = .ok bs ∧ bs.filterMap f = xs

/-- The results from a place on: those behind the next block, or the one error. -/
theorem results_moveTo (s : Scanner) (c : Cursor) :
    (s.moveTo c).results =
      match s.pattern.find? c with
      | none => []
      | some m =>
        if m.isEmpty then []
        else
          match bracesAt m.stop with
          | .error n => [.error ⟨m.span, n, s.fileId⟩]
          | .ok b => .ok ⟨m, b⟩ :: (s.moveTo (s.resumeAfter ⟨m, b⟩)).results := by
  rcases hm : s.pattern.find? c with _ | m
  · exact results_of_next_none (next_of_no_match rfl (Pattern.find?_eq_none_iff.mp hm))
  have hl := Pattern.find?_eq_some_iff.mp hm
  rcases hempty : m.isEmpty with _ | _
  · have hlt := (Match.isEmpty_eq_false_iff hl.start_le_stop).mp hempty
    rcases hb : bracesAt m.stop with n | b
    · simp only [hempty, hb, Bool.false_eq_true, ↓reduceIte]
      exact results_of_next_error (@next_of_error (s.moveTo c) c m n rfl hl hlt hb)
    · simp only [hempty, hb, Bool.false_eq_true, ↓reduceIte]
      exact results_of_next_some (@next_of_ok (s.moveTo c) c ⟨m, b⟩ rfl hl hlt hb)
  · have heq : m.start = m.stop := by
      refine Cursor.eq_of_le_of_length_rest hl.start_le_stop ?_
      exact of_decide_eq_true hempty
    simp only [hempty, ↓reduceIte]
    exact results_of_next_none (@next_of_empty (s.moveTo c) c m rfl hl heq)

theorem results_moveTo_empty {m : Match} (hm : s.pattern.find? c = some m)
    (hempty : m.isEmpty = true) : (s.moveTo c).results = [] := by
  rw [results_moveTo, hm]
  simp only [hempty, ↓reduceIte]

theorem results_moveTo_error {m : Match} {n : Nat} (hm : s.pattern.find? c = some m)
    (hempty : m.isEmpty = false) (hb : bracesAt m.stop = .error n) :
    (s.moveTo c).results = [.error ⟨m.span, n, s.fileId⟩] := by
  rw [results_moveTo, hm]
  simp only [hempty, hb, Bool.false_eq_true, ↓reduceIte]

theorem results_moveTo_ok {m : Match} {b : Option Braces} (hm : s.pattern.find? c = some m)
    (hempty : m.isEmpty = false) (hb : bracesAt m.stop = .ok b) :
    (s.moveTo c).results = .ok ⟨m, b⟩ :: (s.moveTo (s.resumeAfter ⟨m, b⟩)).results := by
  rw [results_moveTo, hm]
  simp only [hempty, hb, Bool.false_eq_true, ↓reduceIte]

/-- Where the search finds the same, the results are the same. -/
theorem results_moveTo_eq (h : s.pattern.find? c = s.pattern.find? d) :
    (s.moveTo c).results = (s.moveTo d).results := by
  rw [results_moveTo, results_moveTo, h]

/-- At the end of a text nothing is read. -/
theorem reads_end (pre : List Char) : (s.moveTo (Cursor.between pre [])).Reads f [] :=
  ⟨[], rfl, rfl⟩

/-- A stretch in which no keyword begins is passed over. -/
theorem reads_skip (hle : c ≤ d) (h : ∀ e, c ≤ e → e < d → s.pattern.matchAt? e = none)
    (hreads : (s.moveTo d).Reads f xs) : (s.moveTo c).Reads f xs := by
  obtain ⟨bs, hbs, hxs⟩ := hreads
  refine ⟨bs, ?_, hxs⟩
  rw [blocks, results_moveTo_eq (Pattern.find?_of_le hle h)]
  exact hbs

/-- A keyword and its braces are read, and then what follows. -/
theorem reads_block {b : Block} (hm : s.pattern.matchAt? c = some b.keyword)
    (hlt : b.keyword.start < b.keyword.stop) (hb : bracesAt b.keyword.stop = .ok b.braces)
    (hreads : (s.moveTo (s.resumeAfter b)).Reads f xs) :
    (s.moveTo c).Reads f ((f b).toList ++ xs) := by
  obtain ⟨bs, hbs, rfl⟩ := hreads
  obtain rfl := Pattern.start_of_matchAt? hm
  have hleft : s.pattern.IsLeftmost b.keyword.start b.keyword :=
    ⟨le_refl _, hm, fun d hle hlt => absurd hle hlt.not_ge⟩
  have hnext : (s.moveTo b.keyword.start).next = (some (.ok b), s.moveTo (s.resumeAfter b)) :=
    next_of_ok rfl hleft hlt hb
  refine ⟨b :: bs, ?_, ?_⟩
  · rw [blocks] at hbs
    rw [blocks, results_of_next_some hnext, collect, hbs]
  · rw [List.filterMap_cons]
    cases f b <;> rfl

end HeaderSurvey.Scanner
