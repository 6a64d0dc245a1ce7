import HeaderSurvey.Proofs.Declaration.RoutinePieces

/-!
# Which parameters a routine is read with

The parameters of a prototype are taken up to the last closing parenthesis in front of the
semicolon, not up to the one that matches the opening one.  So a routine is read with its own
parameter list exactly if the matching parenthesis stands in front of the semicolon and is the last
one there (`SourceUnit.params_of_parse`).  A `noexcept(true)` behind the list is read as a part of
it (`SourceUnit.not_params_closed`).
-/

namespace HeaderSurvey

open Pattern

/-! ### Parentheses that match -/

/-- Whether a text closes the parentheses that it opens, `depth` others, and none besides. -/
def closesParens : Nat → List Char → Bool
  | depth, [] => depth = 0
  | depth, c :: s =>
    if c = '(' then closesParens (depth + 1) s
    else if c = ')' then depth ≠ 0 && closesParens (depth - 1) s
    else closesParens depth s

theorem closesParens_cons_of_isBlank {x : Char} (hx : isBlank x = true) (depth : Nat)
    (s : List Char) : closesParens depth (x :: s) = closesParens depth s := by
  have ho : x ≠ '(' := by
    rintro rfl
    exact absurd hx (by decide)
  have hc : x ≠ ')' := by
    rintro rfl
    exact absurd hx (by decide)
  rw [closesParens, if_neg ho, if_neg hc]

theorem closesParens_blanks_append {blanks : List Char} (h : ∀ x ∈ blanks, isBlank x = true)
    (depth : Nat) (s : List Char) : closesParens depth (blanks ++ s) = closesParens depth s := by
  induction blanks with
  | nil => rfl
  | cons x blanks ih =>
    obtain ⟨hx, hblanks⟩ := List.forall_mem_cons.mp h
    rw [List.cons_append, closesParens_cons_of_isBlank hx, ih hblanks]

theorem closesParens_append_blanks {blanks : List Char} (h : ∀ x ∈ blanks, isBlank x = true)
    (depth : Nat) (s : List Char) : closesParens depth (s ++ blanks) = closesParens depth s := by
  induction s generalizing depth with
  | nil =>
    have hblanks := closesParens_blanks_append h depth []
    rw [List.append_nil] at hblanks
    exact hblanks
  | cons c s ih => simp only [List.cons_append, closesParens, ih]

/-- Blanks around a text do not matter. -/
theorem closesParens_trim (s : List Char) : closesParens 0 (Text.trim s) = closesParens 0 s := by
  obtain ⟨front, back, hs, hfront, hback⟩ := Text.exists_eq_trim s
  conv_rhs => rw [hs]
  rw [closesParens_blanks_append hfront, closesParens_append_blanks hback]

/-- `own` is what stands between an opening parenthesis, behind which `rest` stands, and the one
that matches it. -/
def IsParameterList (rest own : List Char) : Prop :=
  closesParens 0 own = true ∧ ∃ tail, rest = own ++ ')' :: tail

/-- A text with a semicolon can be cut in only one way at the last closing parenthesis in front of
it. -/
theorem eq_of_last_close {s t u v rest : List Char} (hs : ';' ∉ s) (ht : ';' ∉ t) (hu : ';' ∉ u)
    (hclose : ')' ∉ u) (hclose' : ')' ∉ v.takeWhile (· ≠ ';'))
    (h : s ++ ')' :: (u ++ ';' :: rest) = t ++ ')' :: v) : t = s := by
  have hpass : ∀ {w : List Char}, ';' ∉ w → ∀ x ∈ w, decide (x ≠ ';') = true :=
    fun hw x hx => decide_eq_true (ne_of_mem_of_not_mem hx hw)
  have hfront := congrArg (List.takeWhile (· ≠ ';')) h
  rw [List.takeWhile_append_of_pos (hpass hs), List.takeWhile_append_of_pos (hpass ht),
    List.takeWhile_cons_of_pos (by decide), List.takeWhile_cons_of_pos (by decide),
    List.takeWhile_append_of_pos (hpass hu), List.takeWhile_cons_of_neg (by simp),
    List.append_nil] at hfront
  -- seen from the end, the parenthesis is the first one
  have hback := congrArg List.reverse hfront
  simp only [List.reverse_append, List.reverse_cons, List.append_assoc, List.singleton_append]
    at hback
  have hother : ∀ {w : List Char}, ')' ∉ w → ∀ x ∈ w.reverse, decide (x ≠ ')') = true :=
    fun hw x hx => decide_eq_true (ne_of_mem_of_not_mem (List.mem_reverse.mp hx) hw)
  obtain ⟨-, -, hrest⟩ := Text.append_cons_inj_of_class (hother hclose) (hother hclose')
    (by simp) (by simp) hback
  exact (List.reverse_injective hrest).symm

namespace RoutinePieces

/-- What stands behind the opening parenthesis. -/
def behindParen (p : RoutinePieces) : List Char :=
  p.params ++ ')' :: (p.qualifiers ++ p.blanks ++ ';' :: p.after)

/-- The routine is read with its own parameter list, whose parentheses match. -/
def ReadsOwnList (p : RoutinePieces) (r : Routine) : Prop :=
  closesParens 0 r.params.toList = true ∧
    ∃ own, IsParameterList p.behindParen own ∧ r.params = String.ofList (Text.trim own)

/-- The parenthesis that matches the opening one is the last one in front of the semicolon. -/
def ClosesLast (p : RoutinePieces) : Prop :=
  ∃ own tail, closesParens 0 own = true ∧ p.behindParen = own ++ ')' :: tail ∧ ';' ∉ own ∧
    ')' ∉ tail.takeWhile (· ≠ ';')

variable {p : RoutinePieces} {r : Routine}

/-- What a match has kept behind the parameters holds none of the marks around them. -/
theorem IsOf.qualifiers_ok {m : Match} (h : p.IsOf m) (hr : p.Describes r) :
    ∀ x ∈ p.qualifiers, isQualifierChar x = true := by
  obtain ⟨start, returnType, marks, name, gap, params, qualifiers, hline, hqualifiers⟩ :=
    exists_linePieces_qualifiers h.matchAt
  -- the pieces are those of the match: each has been kept, but for the gap and the qualifiers
  obtain ⟨stop, hcapture, hreturn⟩ := hline.returnType_eq
  have hreturnType := h.returnType_eq
  rw [hcapture, Option.map_some, hreturn] at hreturnType
  obtain ⟨hfront, hreturn'⟩ := Prod.mk.inj (Option.some.inj hreturnType)
  have hmarks := Option.some.inj (h.marks_eq.symm.trans hline.marks_eq)
  have hname := Option.some.inj (h.name_eq.symm.trans hline.name_eq)
  have hparams := Option.some.inj (h.params_eq.symm.trans hline.params_eq)
  have hdeclaration : p.declaration = start.upTo m.stop := by
    have hbefore := congrArg List.reverse (Cursor.before_eq_upTo hline.le_stop)
    rw [h.stop_eq, Cursor.before_between, List.reverse_reverse, List.reverse_append,
      List.reverse_reverse, hfront] at hbefore
    rw [h.stop_eq]
    exact List.append_cancel_left hbefore
  rw [hline.upTo_eq, declaration, ← hreturn', hmarks, hname, hparams] at hdeclaration
  simp only [List.append_assoc] at hdeclaration
  have hbehind := List.append_cancel_left (List.append_cancel_left (List.append_cancel_left
    hdeclaration))
  obtain ⟨-, -, hrest⟩ := Text.append_cons_inj_of_class hr.gap_ok hline.gap_ok (by decide)
    (by decide) hbehind
  rw [(List.cons.inj (List.append_cancel_left hrest)).2]
  exact hqualifiers

/-- Between the parameters and the semicolon no other parenthesis stands. -/
theorem IsOf.notMem_close {m : Match} (h : p.IsOf m) (hr : p.Describes r) :
    ')' ∉ p.qualifiers ++ p.blanks ∧ ';' ∉ p.qualifiers ++ p.blanks := by
  have hmarks : isQualifierChar ')' = false ∧ isQualifierChar ';' = false ∧
      isBlank ')' = false ∧ isBlank ';' = false := by decide
  simp only [List.mem_append, not_or]
  refine ⟨⟨fun hx => ?_, fun hx => ?_⟩, fun hx => ?_, fun hx => ?_⟩
  · exact absurd (h.qualifiers_ok hr _ hx) (by simp [hmarks])
  · exact absurd (hr.blanks_ok _ hx) (by simp [hmarks])
  · exact absurd (h.qualifiers_ok hr _ hx) (by simp [hmarks])
  · exact absurd (hr.blanks_ok _ hx) (by simp [hmarks])

/-- **A routine is read with its own parameter list exactly if no other parenthesis is closed behind
it**, up to the semicolon. -/
theorem IsOf.readsOwnList_iff {m : Match} (h : p.IsOf m) (hr : p.Describes r) :
    p.ReadsOwnList r ↔ p.ClosesLast := by
  obtain ⟨hclose, hsemicolon⟩ := h.notMem_close hr
  have hplain : ∀ x ∈ p.qualifiers ++ p.blanks, decide (x ≠ ';') = true := by
    intro x hx
    exact decide_eq_true (ne_of_mem_of_not_mem hx hsemicolon)
  have hparams : closesParens 0 r.params.toList = closesParens 0 p.params := by
    rw [hr.params_eq, String.toList_ofList, closesParens_trim]
  constructor
  · rintro ⟨hmatch, -⟩
    refine ⟨p.params, p.qualifiers ++ p.blanks ++ ';' :: p.after, hparams ▸ hmatch, rfl, ?_, ?_⟩
    · intro hmem
      exact hr.params_ok _ hmem (by decide)
    · rw [List.takeWhile_append_of_pos hplain, List.takeWhile_cons_of_neg (by simp),
        List.append_nil]
      exact hclose
  · rintro ⟨own, tail, hmatch, hbehind, hown, htail⟩
    obtain rfl : own = p.params :=
      eq_of_last_close (fun hmem => hr.params_ok _ hmem (by decide)) hown hsemicolon hclose htail
        hbehind
    exact ⟨hparams.trans hmatch, p.params, ⟨hmatch, tail, hbehind⟩, hr.params_eq⟩

end RoutinePieces

/-- **The parameters of a routine go to the last closing parenthesis in front of the semicolon.**
Each routine of a text that parses stands there piece by piece, where the walk has found it; between
the parenthesis that ends its parameters and the semicolon no other one is closed.  So the routine
is read with its own parameter list exactly if the parenthesis that matches the opening one is the
last one in front of the semicolon. -/
theorem SourceUnit.params_of_parse {unit : SourceUnit} {d : Declarations}
    (h : unit.parse .typesAndRoutines = .ok d) :
    ∃ bs, (routineScanner unit).blocks = .ok bs ∧
      ∀ r ∈ d.routines, ∃ b ∈ bs, ∃ p : RoutinePieces,
        p.text = unit.text.toList ∧ p.IsOf b.keyword ∧ p.Describes r ∧
        ')' ∉ p.qualifiers ++ p.blanks ∧ (p.ReadsOwnList r ↔ p.ClosesLast) := by
  obtain ⟨types, -, -, hroutines⟩ := SourceUnit.parse_typesAndRoutines_eq_ok h
  obtain ⟨bs, hbs, hread⟩ := extractRoutines_eq_ok_iff.mp hroutines
  refine ⟨bs, hbs, fun r hr => ?_⟩
  rw [← hread] at hr
  obtain ⟨b, hb, hroutine⟩ := List.mem_filterMap.mp hr
  obtain ⟨hreported, hle⟩ := Scanner.isReported_of_mem_blocks hbs hb
  obtain ⟨p, htext, hof, hdescribes⟩ :=
    exists_pieces_of_routineOfBlock? hreported (Cursor.text_eq_of_le hle).symm hroutine
  exact ⟨b, hb, p, htext, hof, hdescribes, (hof.notMem_close hdescribes).1,
    hof.readsOwnList_iff hdescribes⟩

/-- One routine has a parameter that is a function, and behind the other stands a `noexcept` with a
list of its own. -/
theorem SourceUnit.params_of_parse_nested :
    let unit : SourceUnit :=
      ⟨"a.h", "int apply(int (*f)(int), int n) const;\nvoid stop() noexcept(true);\n", 0⟩
    let routines : List Routine :=
      [⟨"apply", "int", "int (*f)(int), int n", .file, 0, 1⟩,
        ⟨"stop", "void", ") noexcept(true", .file, 39, 2⟩]
    unit.parse .typesAndRoutines = .ok ⟨[], routines⟩ ∧
    ∃ bs, (routineScanner unit).blocks = .ok bs ∧
      ∀ r ∈ routines, ∃ b ∈ bs, ∃ p : RoutinePieces,
        p.text = unit.text.toList ∧ p.IsOf b.keyword ∧ p.Describes r ∧
        ')' ∉ p.qualifiers ++ p.blanks ∧ (p.ReadsOwnList r ↔ p.ClosesLast) := by
  intro unit routines
  have hparse : unit.parse .typesAndRoutines = .ok ⟨[], routines⟩ := by
    decide +kernel
  exact ⟨hparse, SourceUnit.params_of_parse hparse⟩

/-- The parentheses of the parameters that a routine is read with need not match. -/
theorem SourceUnit.not_params_closed :
    ¬ ∀ (unit : SourceUnit) (d : Declarations), unit.parse .typesAndRoutines = .ok d →
      ∀ r ∈ d.routines, closesParens 0 r.params.toList = true := by
  intro h
  have hparse : (⟨"a.h", "void f() noexcept(true);\n", 0⟩ : SourceUnit).parse .typesAndRoutines =
      .ok ⟨[], [⟨"f", "void", ") noexcept(true", .file, 0, 1⟩]⟩ := by
    decide +kernel
  exact absurd (h _ _ hparse _ (List.mem_singleton_self _)) (by decide)

end HeaderSurvey
