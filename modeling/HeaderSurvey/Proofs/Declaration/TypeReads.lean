import HeaderSurvey.Proofs.Block.Reads
import HeaderSurvey.Proofs.Declaration.TypeHead

/-!
# Reading types stretch by stretch

The walk over the types passes over every stretch in which no type begins: one without word
characters, one without the words for a type, and one without blanks
(`readsTypes_skip_of_forall`, `readsTypes_skip_of_typeFree`, `readsTypes_skip_of_not_blank`).  It
meets a type that is only mentioned, but reads nothing from it (`readsTypes_skip_mention`).
-/

namespace HeaderSurvey

open Pattern

variable {unit : SourceUnit} {pre post : List Char} {xs : List TypeDecl}

/-- The types of a unit are what is made of the blocks of a walk without an error. -/
theorem extractTypes_eq_ok_iff {types : List TypeDecl} :
    extractTypes unit = .ok types ↔ (typeScanner unit).Reads (typeOfBlock? unit) types := by
  rw [extractTypes, Scanner.Reads]
  rcases (typeScanner unit).blocks with e | bs <;> simp

theorem extractTypes_eq_map (unit : SourceUnit) :
    extractTypes unit = (typeScanner unit).blocks.map (List.filterMap (typeOfBlock? unit)) := by
  rw [extractTypes]
  cases (typeScanner unit).blocks <;> rfl

/-- What a type has is read from its block. -/
theorem exists_of_typeOfBlock? {b : Block} {t : TypeDecl} (h : typeOfBlock? unit b = some t) :
    ∃ body bodySpan keyword name, b.body? = some body ∧ b.bodySpan? = some bodySpan ∧
      b.keyword.captured? 1 = some keyword ∧ b.keyword.captured? 2 = some name ∧
      t = {
        keyword := if keyword = "struct".toList then .structWord else .classWord
        name := String.ofList name
        bases := ((b.keyword.captured? 3).map parseBases).getD []
        path := unit.path
        fileId := unit.fileId
        line := b.keyword.start.line
        span := b.span
        bodySpan := bodySpan
        body := String.ofList body
      } := by
  simp only [typeOfBlock?, Option.bind_eq_bind, Option.bind_none,
    Option.ite_none_left_eq_some, Option.bind_eq_some_iff, Option.some.injEq] at h
  obtain ⟨body, hbody, bodySpan, hspan, -, keyword, hkeyword, name, hname, rfl⟩ := h
  exact ⟨body, bodySpan, keyword, name, hbody, hspan, hkeyword, hname, rfl⟩

/-- What the walk over the types reads from a place on. -/
def ReadsTypes (unit : SourceUnit) (c : Cursor) (xs : List TypeDecl) : Prop :=
  ((typeScanner unit).moveTo c).Reads (typeOfBlock? unit) xs

/-- What is read from the start of the text on are the types of the unit. -/
theorem extractTypes_of_reads (h : ReadsTypes unit (Cursor.between [] unit.text.toList) xs) :
    extractTypes unit = .ok xs :=
  extractTypes_eq_ok_iff.mpr h

theorem readsTypes_skip_of_forall {s : List Char} (hs : ∀ x ∈ s, isWordChar x = false)
    (h : ReadsTypes unit (Cursor.between (pre ++ s) post) xs) :
    ReadsTypes unit (Cursor.between pre (s ++ post)) xs := by
  refine Scanner.reads_skip (Cursor.between_le_between pre s post) (fun e hle hlt => ?_) h
  obtain ⟨u, v, rfl, hv, rfl⟩ := Cursor.exists_append_of_le_of_lt hle hlt
  obtain ⟨x, v, rfl⟩ := List.exists_cons_of_ne_nil hv
  exact matchAt?_typePattern_of_not_word rfl (hs x (by simp))

theorem readsTypes_skip_of_typeFree {s : List Char} {x : Char} (hs : TypeFree s)
    (hx : isWordChar x = false)
    (h : ReadsTypes unit (Cursor.between (pre ++ (s ++ [x])) post) xs) :
    ReadsTypes unit (Cursor.between pre (s ++ [x] ++ post)) xs := by
  have hx' : ∀ y ∈ [x], isWordChar y = false := by simpa using hx
  rw [← List.append_assoc] at h
  rw [List.append_assoc]
  refine Scanner.reads_skip (Cursor.between_le_between pre s ([x] ++ post)) (fun e hle hlt => ?_)
    (readsTypes_skip_of_forall hx' h)
  exact matchAt?_typePattern_of_typeFree hs hx hle hlt

/-- A stretch without blanks that something else than a word ends, and what follows it up to the
next word. -/
theorem readsTypes_skip_of_not_blank {w s : List Char} {x : Char} (hw : ∀ z ∈ w, isBlank z = false)
    (hx : isBlank x = false) (hs : ∀ z ∈ x :: s, isWordChar z = false)
    (h : ReadsTypes unit (Cursor.between (pre ++ w ++ x :: s) post) xs) :
    ReadsTypes unit (Cursor.between pre (w ++ (x :: s ++ post))) xs := by
  have hword : isWordChar x = false := hs x (List.mem_cons_self ..)
  refine Scanner.reads_skip (Cursor.between_le_between pre w (x :: s ++ post)) (fun e hle hlt => ?_)
    (readsTypes_skip_of_forall hs h)
  exact matchAt?_typePattern_of_not_blank hw hx hword hle hlt

/-- A type that is mentioned in front of a semicolon is no declaration. -/
theorem readsTypes_skip_mention (t : TypeHead) (hpre : Cursor.headIsWord pre.reverse = false)
    (h : ReadsTypes unit (Cursor.between (pre ++ t.keyword.text.toList ++ [' '] ++ t.name.text)
      ([';'] ++ post)) xs) :
    ReadsTypes unit (Cursor.between pre
      (t.keyword.text.toList ++ ([' '] ++ (t.name.text ++ ([';'] ++ post))))) xs := by
  obtain ⟨m, hmatch, hstart, hstop⟩ := exists_matchAt?_mention t post hpre
  have hne : t.keyword.text.toList ++ ' ' :: t.name.text ≠ [] := by simp
  have hlt : m.start < m.stop := by
    have hbetween := Cursor.between_lt_between pre (';' :: post) hne
    rw [hstart, hstop]
    simpa using hbetween
  have hbraces : bracesAt m.stop = .ok none := by
    refine bracesAt_of_ne fun rest hrest => ?_
    rw [hstop, Cursor.skipWhile_between_cons _ _ (by decide), Cursor.rest_between] at hrest
    exact absurd (List.cons.inj hrest).1 (by decide)
  have hreads : ReadsTypes unit m.stop xs := by
    rw [hstop]
    exact h
  exact Scanner.reads_block (f := typeOfBlock? unit) (b := ⟨m, none⟩) hmatch hlt hbraces hreads

end HeaderSurvey
