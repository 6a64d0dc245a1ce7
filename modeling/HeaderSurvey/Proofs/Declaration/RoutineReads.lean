import HeaderSurvey.Proofs.Block.Reads
import HeaderSurvey.Proofs.Declaration.RoutineLine

/-!
# Reading routines line by line

The walk over the routines takes a text line by line.  A line on which no routine begins is passed
over (`readsRoutines_skip_line`), a prototype is read (`readsRoutines_line`), and a definition is
passed over together with its body (`readsRoutines_skip_body`).  Whatever is read from the next line
on is read behind it.
-/

namespace HeaderSurvey

open Pattern

/-- No blanks. -/
def Blanks.none : Blanks where
  text := []
  all_blank := by simp

/-! ### Lines that are passed over -/

theorem isLineStart_append {pre u rest : List Char} (hu : u ≠ []) (hn : '\n' ∉ u) :
    (Cursor.between (pre ++ u) rest).isLineStart = false := by
  rw [Cursor.isLineStart, Cursor.before_between, List.reverse_append]
  cases hrev : u.reverse with
  | nil => exact absurd (List.reverse_eq_nil_iff.mp hrev) hu
  | cons x s =>
    have hx : x ∈ u := by
      rw [← List.mem_reverse, hrev]
      exact List.mem_cons_self ..
    have hne : x ≠ '\n' := by
      rintro rfl
      exact hn hx
    simpa using hne

variable {unit : SourceUnit} {index : ScopeIndex} {pre post : List Char} {xs : List Routine}

/-- The routines of a unit are what is made of the blocks of a walk without an error. -/
theorem extractRoutines_eq_ok_iff {routines : List Routine} :
    extractRoutines unit index = .ok routines ↔
      (routineScanner unit).Reads (routineOfBlock? index) routines := by
  rw [extractRoutines, Scanner.Reads]
  rcases (routineScanner unit).blocks with e | bs <;> simp

theorem extractRoutines_eq_map (unit : SourceUnit) (index : ScopeIndex) :
    extractRoutines unit index =
      (routineScanner unit).blocks.map (List.filterMap (routineOfBlock? index)) := by
  rw [extractRoutines]
  cases (routineScanner unit).blocks <;> rfl

/-- What a block must be to declare a routine, and what a routine has is read from its block. -/
theorem exists_of_routineOfBlock? {b : Block} {r : Routine} (h : routineOfBlock? index b = some r) :
    b.braces = none ∧ (Text.trimStart b.keyword.stop.rest).head? = some ';' ∧
      ∃ start stop marks name params, b.keyword.capture? 1 = some (start, stop) ∧
        b.keyword.captured? 2 = some marks ∧ b.keyword.captured? 3 = some name ∧
        b.keyword.captured? 4 = some params ∧ isStatement (start.upTo stop) name = false ∧
        r = {
          name := String.ofList name
          returnType := String.ofList (Text.trim (start.upTo stop) ++ Text.trim marks)
          params := String.ofList (Text.trim params)
          scope :=
            match index.ownerOf? start.offset with
            | some owner => .type owner
            | none => .file
          offset := start.offset
          line := start.line
        } := by
  simp only [routineOfBlock?, Option.bind_eq_bind, Option.bind_none,
    Option.ite_none_left_eq_some, Option.bind_eq_some_iff, Option.some.injEq] at h
  obtain ⟨hbraces, hsemicolon, ⟨start, stop⟩, hcapture, marks, hmarks, name, hname, params, hparams,
    hstatement, rfl⟩ := h
  refine ⟨by simpa using hbraces, by simpa using hsemicolon, ?_⟩
  exact ⟨start, stop, marks, name, params, hcapture, hmarks, hname, hparams,
    by simpa using hstatement, rfl⟩

/-- What the walk over the routines reads from a place on. -/
def ReadsRoutines (unit : SourceUnit) (index : ScopeIndex) (c : Cursor) (xs : List Routine) :
    Prop :=
  ((routineScanner unit).moveTo c).Reads (routineOfBlock? index) xs

/-- What is read from the start of the text on are the routines of the unit. -/
theorem extractRoutines_of_reads
    (h : ReadsRoutines unit index (Cursor.between [] unit.text.toList) xs) :
    extractRoutines unit index = .ok xs :=
  extractRoutines_eq_ok_iff.mpr h

/-- The rest of a line is passed over, if no routine begins where it begins. -/
theorem readsRoutines_skip_line {s : List Char} (hs : '\n' ∉ s)
    (hstart : routinePattern.matchAt? (Cursor.between pre (s ++ ['\n'] ++ post)) = none)
    (h : ReadsRoutines unit index (Cursor.between (pre ++ (s ++ ['\n'])) post) xs) :
    ReadsRoutines unit index (Cursor.between pre (s ++ ['\n'] ++ post)) xs := by
  refine Scanner.reads_skip (Cursor.between_le_between pre _ post) (fun e hle hlt => ?_) h
  obtain ⟨u, v, huv, hv, rfl⟩ := Cursor.exists_append_of_le_of_lt hle hlt
  by_cases hu : u = []
  · rw [hu, List.nil_append] at huv
    rw [hu, List.append_nil, ← huv]
    exact hstart
  · -- the newline is in what is left of the line
    have hn : '\n' ∉ u := by
      obtain ⟨v, x, rfl⟩ := (List.eq_nil_or_concat v).resolve_left hv
      rw [List.concat_eq_append, ← List.append_assoc] at huv
      have hsu := List.append_inj_left' huv rfl
      intro hmem
      exact hs (hsu ▸ List.mem_append_left v hmem)
    exact matchAt?_routinePattern_of_not_lineStart (isLineStart_append hu hn)

theorem isHeadChar_of_isNameChar {x : Char} (h : isNameChar x = true) : isHeadChar x = true :=
  isHeadChar_of_class (by decide) x h

theorem Blanks.isHeadChar (b : Blanks) {x : Char} (h : x ∈ b.text) : isHeadChar x = true :=
  isHeadChar_of_class (p := isSpaceOrTab) (by decide) x (b.all_blank x h)

theorem Blanks.newline_notMem (b : Blanks) : '\n' ∉ b.text := fun h =>
  absurd (b.all_blank '\n' h) (by decide)

/-! ### Lines in the form of a prototype -/

/-- The scope of a routine whose owner is known. -/
def scopeOf : Option String → Scope
  | some owner => .type owner
  | none => .file

namespace RoutineLine

/-- The routine of a prototype that stands behind the text `pre`. -/
def routine (scope : Scope) (pre : List Char) (s : RoutineLine) : Routine where
  name := String.ofList s.name.text
  returnType := String.ofList (s.returnType.text ++ Text.trim s.marks.text)
  params := String.ofList (Text.trim s.params)
  scope := scope
  offset := Text.byteLength (pre ++ s.indent.text)
  line := (pre ++ s.indent.text).count '\n' + 1

/-- The line of a prototype. -/
def prototype (s : RoutineLine) : List Char :=
  s.indent.text ++ (s.text ++ [';', '\n'])

/-- A line in the form of a prototype and a body behind it, up to the end of the last line. -/
def definition (s : RoutineLine) (blanks : Blanks) (body : List Char) : List Char :=
  s.indent.text ++ (s.text ++ (blanks.text ++ '{' :: (body ++ ['}', '\n'])))

end RoutineLine

/-- The block of a prototype is read as its routine. -/
theorem routineOfBlock?_lineMatch (s : RoutineLine) (b : Blanks) (pre post : List Char) :
    routineOfBlock? index ⟨s.lineMatch b pre (';' :: post), none⟩ =
      some (s.routine (scopeOf (index.ownerOf? (Text.byteLength (pre ++ s.indent.text)))) pre) := by
  have hreturn : Text.trim s.returnType.text = s.returnType.text :=
    Text.trim_of_forall fun x hx => isBlank_of_isNameChar (s.returnType.isNameChar_of_mem hx)
  have hhead : (Text.trimStart (s.lineMatch b pre (';' :: post)).stop.rest).head? = some ';' := by
    rw [RoutineLine.lineMatch, Cursor.rest_between, Text.trimStart, List.dropWhile_cons_of_neg]
    · rfl
    · decide
  rw [routineOfBlock?, hhead, s.capture?_returnType, s.captured?_marks, s.captured?_name,
    s.captured?_params]
  simp only [Option.bind_eq_bind, Option.bind_some, Cursor.upTo_between, Cursor.offset_between,
    Cursor.line_between, s.isStatement_eq_false, hreturn]
  rfl

/-- A prototype is read, and then what is read from the next line on. -/
theorem readsRoutines_line (s : RoutineLine) (hpre : AtLineStart pre)
    (h : ReadsRoutines unit index (Cursor.between (pre ++ s.prototype) post) xs) :
    ReadsRoutines unit index (Cursor.between pre (s.prototype ++ post))
      (s.routine (scopeOf (index.ownerOf? (Text.byteLength (pre ++ s.indent.text)))) pre :: xs) := by
  have hline : s.prototype ++ post =
      s.indent.text ++ (s.text ++ (Blanks.none.text ++ ';' :: '\n' :: post)) := by
    simp [RoutineLine.prototype, Blanks.none]
  have hmatch := @matchAt?_routineLine s Blanks.none pre ('\n' :: post) ';' (Or.inl rfl) hpre
  have hbraces : bracesAt (s.lineMatch Blanks.none pre (';' :: '\n' :: post)).stop = .ok none := by
    refine bracesAt_of_ne fun rest hrest => ?_
    rw [RoutineLine.lineMatch, Cursor.skipWhile_between_cons _ _ (by decide),
      Cursor.rest_between] at hrest
    exact absurd (List.cons.inj hrest).1 (by decide)
  -- the walk goes on in front of the semicolon
  have hreads : ReadsRoutines unit index
      (s.lineMatch Blanks.none pre (';' :: '\n' :: post)).stop xs := by
    have hnotStart : routinePattern.matchAt? (Cursor.between
        (pre ++ s.indent.text ++ s.text ++ Blanks.none.text) ([';'] ++ ['\n'] ++ post)) = none := by
      refine matchAt?_routinePattern_of_not_lineStart ?_
      rw [Cursor.isLineStart, Cursor.before_between]
      simp [Blanks.none, RoutineLine.text]
    have hpassed : pre ++ s.indent.text ++ s.text ++ Blanks.none.text ++ ([';'] ++ ['\n']) =
        pre ++ s.prototype := by
      simp [RoutineLine.prototype, Blanks.none]
    refine readsRoutines_skip_line (s := [';']) (by decide) hnotStart ?_
    rw [hpassed]
    exact h
  have hblock := Scanner.reads_block (f := routineOfBlock? index)
    (b := ⟨s.lineMatch Blanks.none pre (';' :: '\n' :: post), none⟩) hmatch (s.start_lt_stop _ _ _)
    hbraces hreads
  rw [routineOfBlock?_lineMatch] at hblock
  rw [hline]
  exact hblock

/-- A definition is passed over together with its body. -/
theorem readsRoutines_skip_body (s : RoutineLine) (blanks : Blanks) {body : List Char}
    (hbody : Balanced body) (hpre : AtLineStart pre)
    (h : ReadsRoutines unit index (Cursor.between (pre ++ s.definition blanks body) post) xs) :
    ReadsRoutines unit index (Cursor.between pre (s.definition blanks body ++ post)) xs := by
  have hline : s.definition blanks body ++ post =
      s.indent.text ++ (s.text ++ (blanks.text ++ '{' :: (body ++ '}' :: '\n' :: post))) := by
    simp [RoutineLine.definition]
  have hmatch := @matchAt?_routineLine s blanks pre (body ++ '}' :: '\n' :: post) '{'
    (Or.inr rfl) hpre
  -- the match takes the blanks, so the brace comes next
  have hopen : (s.lineMatch blanks pre ('{' :: (body ++ '}' :: '\n' :: post))).stop.skipWhile
      isAsciiBlank = Cursor.between (pre ++ s.indent.text ++ s.text ++ blanks.text)
        ('{' :: (body ++ '}' :: '\n' :: post)) :=
    Cursor.skipWhile_between_cons _ _ (by decide)
  have hbraces := bracesAt_of_balanced hopen hbody
  have hreads : ((routineScanner unit).moveTo (Cursor.between
      (pre ++ s.indent.text ++ s.text ++ blanks.text ++ ['{'] ++ body ++ ['}'])
      ('\n' :: post))).Reads (routineOfBlock? index) xs := by
    have hnotStart : routinePattern.matchAt? (Cursor.between
        (pre ++ s.indent.text ++ s.text ++ blanks.text ++ ['{'] ++ body ++ ['}'])
        ([] ++ ['\n'] ++ post)) = none := by
      refine matchAt?_routinePattern_of_not_lineStart ?_
      rw [Cursor.isLineStart, Cursor.before_between]
      simp
    have hpassed : pre ++ s.indent.text ++ s.text ++ blanks.text ++ ['{'] ++ body ++ ['}'] ++
        ([] ++ ['\n']) = pre ++ s.definition blanks body := by
      simp [RoutineLine.definition]
    refine readsRoutines_skip_line (s := []) (by decide) hnotStart ?_
    rw [hpassed]
    exact h
  have hblock := Scanner.reads_block (f := routineOfBlock? index)
    (b := ⟨s.lineMatch blanks pre ('{' :: (body ++ '}' :: '\n' :: post)), _⟩) hmatch
    (s.start_lt_stop _ _ _) hbraces hreads
  rw [hline]
  exact hblock

end HeaderSurvey
