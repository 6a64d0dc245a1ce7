import HeaderSurvey.Proofs.Block.Unclosed
import HeaderSurvey.Proofs.Declaration.Nesting
import HeaderSurvey.Proofs.Text.Bytes

/-!
# When a text does not parse

A text does not parse exactly if some type or routine of it opens a brace that nothing closes
(`SourceUnit.parse_error_exact`).  The error names the first keyword of this kind, and its depth is
the number of braces that are open from there to the end of the text.  So a text whose braces all
have partners parses.

The types are looked for first, so the routines can only fail in a text whose types do not.
-/

namespace HeaderSurvey

/-- Every opening brace of the text has a partner. -/
def AllClosed (text : List Char) : Prop :=
  ∀ pre rest, text = pre ++ '{' :: rest → HasPartner rest

/-- The opening braces are counted one by one. -/
theorem allClosed_iff {text : List Char} : AllClosed text ↔ unclosed text = 0 := by
  induction text with
  | nil => exact ⟨fun _ => rfl, fun _ _ _ htext => by simp at htext⟩
  | cons c rest ih =>
    rw [unclosed, Nat.add_eq_zero_iff, ← ih, ite_eq_right_iff]
    constructor
    · intro h
      refine ⟨?_, fun pre post htext => h (c :: pre) post (by rw [htext, List.cons_append])⟩
      rintro ⟨rfl, hnot⟩
      exact absurd (h [] rest rfl) hnot
    · rintro ⟨hfirst, hrest⟩ pre post htext
      cases pre with
      | nil =>
        obtain ⟨rfl, rfl⟩ := List.cons.inj htext
        by_contra hnot
        exact absurd (hfirst ⟨rfl, hnot⟩) one_ne_zero
      | cons x pre => exact hrest pre post (List.cons.inj htext).2

instance : DecidablePred AllClosed := fun _ =>
  decidable_of_iff' _ allClosed_iff

/-- The error is that of the match `m`, the first of the matches whose brace is never closed. -/
structure FailsAt (unit : SourceUnit) (ms : List Match) (m : Match) (e : UnclosedBlock) : Prop where
  first : ms.find? (NeverCloses ·.stop) = some m
  text_eq : m.start.text = unit.text.toList
  /-- The error marks the bytes of the match. -/
  keyword_eq : e.keyword = m.span
  slice_eq : Text.slice (Text.bytes unit.text.toList) e.keyword.start e.keyword.stop =
    Text.bytes (m.start.upTo m.stop)
  /-- Behind the match and blanks a brace opens without a partner, and the depth of the error is the
  number of such braces from there to the end of the text. -/
  opens : ∃ rest, (m.stop.skipWhile isAsciiBlank).rest = '{' :: rest ∧ ¬ HasPartner rest ∧
    e.depth = unclosed ('{' :: rest) ∧
    e.notes = ["reached end of input with " ++ toString (unclosed ('{' :: rest)) ++
      " unclosed brace(s)"]
  depth_pos : 0 < e.depth
  fileId_eq : e.fileId = unit.fileId

section FailsAt

variable {unit : SourceUnit} {ms : List Match} {m : Match} {e : UnclosedBlock}

/-- For matches in the text of the unit the first one whose brace is never closed and the search for
its brace make up the error. -/
theorem failsAt_iff
    (hms : ∀ k ∈ ms, k.start < k.stop ∧ k.start.text = unit.text.toList) :
    FailsAt unit ms m e ↔ ∃ n, ms.find? (NeverCloses ·.stop) = some m ∧
      bracesAt m.stop = .error n ∧ e = ⟨m.span, n, unit.fileId⟩ := by
  constructor
  · intro h
    obtain ⟨rest, hopen, hnot, hdepth, -⟩ := h.opens
    refine ⟨e.depth, h.first, bracesAt_eq_error_iff.mpr ⟨rest, hopen, hnot, hdepth⟩, ?_⟩
    rw [← h.keyword_eq, ← h.fileId_eq]
  · rintro ⟨n, hfirst, hb, rfl⟩
    obtain ⟨hlt, htext⟩ := hms m (List.mem_of_find?_eq_some hfirst)
    obtain ⟨rest, hopen, hnot, rfl⟩ := bracesAt_eq_error_iff.mp hb
    refine ⟨hfirst, htext, rfl, ?_, ⟨rest, hopen, hnot, rfl, rfl⟩, ?_, rfl⟩
    · rw [← htext]
      exact Text.slice_bytes hlt.le
    · rw [unclosed, if_pos ⟨rfl, hnot⟩]
      dsimp only
      omega

theorem FailsAt.mem (h : FailsAt unit ms m e) : m ∈ ms :=
  List.mem_of_find?_eq_some h.first

/-- Only the first match whose brace is never closed counts. -/
theorem failsAt_congr {ms' : List Match}
    (h : ms.find? (NeverCloses ·.stop) = ms'.find? (NeverCloses ·.stop)) :
    FailsAt unit ms m e ↔ FailsAt unit ms' m e := by
  constructor
  · intro hm
    exact { hm with first := h ▸ hm.first }
  · intro hm
    exact { hm with first := h ▸ hm.first }

/-- A text without unclosed braces has no such error. -/
theorem FailsAt.not_allClosed (h : FailsAt unit ms m e) (hle : m.start ≤ m.stop) :
    ¬ AllClosed unit.text.toList := by
  intro hall
  obtain ⟨rest, hopen, hnot, -⟩ := h.opens
  have hskip := hle.trans (Cursor.le_skipWhile isAsciiBlank m.stop)
  have htext : unit.text.toList =
      (m.stop.skipWhile isAsciiBlank).before.reverse ++ '{' :: rest := by
    rw [← h.text_eq, Cursor.text_eq_of_le hskip, Cursor.text, hopen]
  exact hnot (hall _ _ htext)

end FailsAt

/-! ### The two walks -/

/-- The walk over a unit for a pattern fails exactly at the first keyword that it meets whose brace
is never closed. -/
theorem exists_failsAt (unit : SourceUnit) (p : Pattern) (resume : Resume) :
    ∃ ms, p.Visits resume (Cursor.atStart unit.text.toList) ms ∧
      (∀ k ∈ ms, k.start < k.stop ∧ k.start.text = unit.text.toList) ∧
      ∀ e, (Scanner.ofText p resume unit.fileId unit.text.toList).blocks = .error e ↔
        ∃ m, FailsAt unit ms m e := by
  obtain ⟨ms, hms, herror⟩ :=
    Scanner.exists_visits (s := Scanner.ofText p resume unit.fileId unit.text.toList) rfl
  have hin := hms.of_mem
  refine ⟨ms, hms, hin, ?_⟩
  intro e
  rw [herror e]
  exact exists_congr fun m => (failsAt_iff hin).symm

theorem extractTypes_eq_error_iff {unit : SourceUnit} {e : UnclosedBlock} :
    extractTypes unit = .error e ↔ (typeScanner unit).blocks = .error e := by
  rw [extractTypes]
  rcases (typeScanner unit).blocks with e' | bs <;> simp

theorem extractRoutines_eq_error_iff {unit : SourceUnit} {index : ScopeIndex} {e : UnclosedBlock} :
    extractRoutines unit index = .error e ↔ (routineScanner unit).blocks = .error e := by
  rw [extractRoutines]
  rcases (routineScanner unit).blocks with e' | bs <;> simp

/-- Where the types are asked for alone, parsing fails with the error of the walk over them. -/
theorem SourceUnit.parse_types_eq_error_iff {unit : SourceUnit} {e : UnclosedBlock} :
    unit.parse .types = .error e ↔ (typeScanner unit).blocks = .error e := by
  rw [← extractTypes_eq_error_iff, parse]
  rcases extractTypes unit with e' | types <;> simp

/-- Where the types are found, the routines are searched for in the index of these types. -/
theorem SourceUnit.parse_typesAndRoutines_of_ok {unit : SourceUnit} {d : Declarations}
    (h : unit.parse .types = .ok d) :
    ∃ index, unit.parse .typesAndRoutines =
      (extractRoutines unit index).map fun routines => ⟨d.types, routines⟩ := by
  rw [parse] at h ⊢
  rcases htypes : extractTypes unit with e | types
  · simp [htypes] at h
  · rw [htypes] at h
    obtain rfl := Except.ok.inj h
    refine ⟨ScopeIndex.ofTypes types, ?_⟩
    dsimp only
    rcases extractRoutines unit (ScopeIndex.ofTypes types) with e | routines <;> rfl

/-- Where the types are found, they stay as they are, or the routines fail. -/
theorem SourceUnit.parse_routines_cases {unit : SourceUnit} {d : Declarations}
    (h : unit.parse .types = .ok d) :
    (∃ routines, unit.parse .typesAndRoutines = .ok ⟨d.types, routines⟩) ∨
      ∃ e, unit.parse .typesAndRoutines = .error e := by
  obtain ⟨index, hparse⟩ := parse_typesAndRoutines_of_ok h
  rw [hparse]
  rcases extractRoutines unit index with e | routines
  · exact Or.inr ⟨e, rfl⟩
  · exact Or.inl ⟨routines, rfl⟩

/-- Where the types are found, parsing for the routines too fails with the error of the walk over
them. -/
theorem SourceUnit.parse_routines_eq_error_iff {unit : SourceUnit} {d : Declarations}
    {e : UnclosedBlock} (h : unit.parse .types = .ok d) :
    unit.parse .typesAndRoutines = .error e ↔ (routineScanner unit).blocks = .error e := by
  obtain ⟨index, hparse⟩ := parse_typesAndRoutines_of_ok h
  rw [hparse, ← extractRoutines_eq_error_iff]
  rcases extractRoutines unit index with e' | routines <;> simp [Except.map]

theorem SourceUnit.parse_typesAndRoutines_of_error {unit : SourceUnit} {e : UnclosedBlock}
    (h : unit.parse .types = .error e) : unit.parse .typesAndRoutines = .error e := by
  rw [parse_types_eq_error_iff, ← extractTypes_eq_error_iff] at h
  rw [parse, h]

/-! ### Exact failure -/

/-- **Parsing fails exactly at a brace that is never closed.**  A text whose opening braces all have
partners parses in both modes.  The types fail exactly at the first match of their pattern whose
brace is never closed; then the routines fail with the same error.  If the types do not fail, the
routines fail exactly at the first match that their own walk meets whose brace is never closed, and
otherwise leave the types as they are. -/
theorem SourceUnit.parse_error_exact (unit : SourceUnit) :
    (AllClosed unit.text.toList →
      (∃ d, unit.parse .types = .ok d) ∧ ∃ d, unit.parse .typesAndRoutines = .ok d) ∧
    (∃ ms, typePattern.Successive (Cursor.atStart unit.text.toList) ms ∧
      ∀ e, unit.parse .types = .error e ↔ ∃ m, FailsAt unit ms m e) ∧
    (∀ e, unit.parse .types = .error e → unit.parse .typesAndRoutines = .error e) ∧
    ∃ ms, routinePattern.Visits .afterBlock (Cursor.atStart unit.text.toList) ms ∧
      ∀ d, unit.parse .types = .ok d →
        (∀ e, unit.parse .typesAndRoutines = .error e ↔ ∃ m, FailsAt unit ms m e) ∧
        ((∃ routines, unit.parse .typesAndRoutines = .ok ⟨d.types, routines⟩) ∨
          ∃ m e, FailsAt unit ms m e ∧ unit.parse .typesAndRoutines = .error e) := by
  obtain ⟨ts, hts, htsin, htypes⟩ := exists_failsAt unit typePattern .afterKeyword
  obtain ⟨rs, hrs, hrsin, hroutines⟩ := exists_failsAt unit routinePattern .afterBlock
  have htypes' : ∀ e, unit.parse .types = .error e ↔ ∃ m, FailsAt unit ts m e := by
    intro e
    rw [parse_types_eq_error_iff]
    exact htypes e
  have hroutines' : ∀ d, unit.parse .types = .ok d → ∀ e,
      unit.parse .typesAndRoutines = .error e ↔ ∃ m, FailsAt unit rs m e := by
    intro d hd e
    rw [parse_routines_eq_error_iff hd]
    exact hroutines e
  have hcases : ∀ d, unit.parse .types = .ok d →
      (∃ routines, unit.parse .typesAndRoutines = .ok ⟨d.types, routines⟩) ∨
        ∃ m e, FailsAt unit rs m e ∧ unit.parse .typesAndRoutines = .error e := by
    intro d hd
    refine (parse_routines_cases hd).imp_right ?_
    rintro ⟨e, he⟩
    obtain ⟨m, hm⟩ := (hroutines' d hd e).mp he
    exact ⟨m, e, hm, he⟩
  refine ⟨?_, ?_, fun e => parse_typesAndRoutines_of_error, rs, hrs,
    fun d hd => ⟨hroutines' d hd, hcases d hd⟩⟩
  · intro hclosed
    have hok : ∃ d, unit.parse .types = .ok d := by
      rcases hparse : unit.parse .types with e | d
      · obtain ⟨m, hm⟩ := (htypes' e).mp hparse
        exact absurd hclosed (hm.not_allClosed (htsin m hm.mem).1.le)
      · exact ⟨d, rfl⟩
    refine ⟨hok, ?_⟩
    obtain ⟨d, hd⟩ := hok
    rcases hcases d hd with ⟨routines, hroutines⟩ | ⟨m, e, hm, -⟩
    · exact ⟨_, hroutines⟩
    · exact absurd hclosed (hm.not_allClosed (hrsin m hm.mem).1.le)
  · obtain ⟨ms, hms, rfl⟩ := hts.exists_successive
    refine ⟨ms, hms, ?_⟩
    intro e
    rw [htypes' e]
    refine exists_congr fun m => ?_
    exact failsAt_congr (find?_throughFirst ms)

/-- Of three opening braces only the last is closed, and the first has no keyword. -/
example : SourceUnit.parse ⟨"a.h", "\x7b struct A \x7b \x7b \x7d", 7⟩ .types =
    .error ⟨⟨2, 10⟩, 1, 7⟩ := by
  decide +kernel

end HeaderSurvey
