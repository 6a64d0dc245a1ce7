import HeaderSurvey.Proofs.Declaration.CommentedList
import HeaderSurvey.Proofs.Declaration.TypePieces

/-!
# Lists of bases with comments and template arguments

`WrittenBases` is a list of bases as it can be written: names with template arguments and parentheses
of any kind, access words in front of them, and blanks and comments between all of these.  The names
are read back from it, in order and complete, whatever the comments hold
(`WrittenBases.parseBases_text`).
-/

namespace HeaderSurvey

open Pattern

/-! ### Between the words -/

/-- A blank or a comment. -/
inductive Filler where
  | blank (c : Char) (blank_ok : isBlank c = true)
  /-- A comment up to the end of its line. -/
  | line (inside : List Char) (inside_ok : '\n' ∉ inside)
  /-- A comment up to its closing mark. -/
  | block (inside : List Char) (inside_ok : EndsFirst ['*', '/'] inside)

namespace Filler

def text : Filler → List Char
  | blank c _ => [c]
  | line inside _ => '/' :: '/' :: inside ++ ['\n']
  | block inside _ => '/' :: '*' :: (inside ++ ['*', '/'])

/-- What is left of it when a comment counts as a blank. -/
def plain : Filler → List Char
  | blank c _ => [c]
  | line _ _ => [' ', '\n']
  | block _ _ => [' ']

theorem plain_ne_nil (f : Filler) : f.plain ≠ [] := by
  cases f <;> simp [plain]

theorem isBlank_of_mem_plain {f : Filler} {x : Char} (hx : x ∈ f.plain) : isBlank x = true := by
  cases f with
  | blank c hc =>
    rw [List.mem_singleton.mp hx]
    exact hc
  | line inside _ =>
    rcases List.mem_pair.mp hx with rfl | rfl <;> decide
  | block inside _ =>
    rw [List.mem_singleton.mp hx]
    decide

/-- It begins with a blank or with the slash of a comment. -/
theorem exists_text_eq (f : Filler) :
    ∃ x s, f.text = x :: s ∧ (isBlank x = true ∨ x = '/') := by
  cases f with
  | blank c hc => exact ⟨c, [], rfl, Or.inl hc⟩
  | line inside _ => exact ⟨'/', '/' :: inside ++ ['\n'], rfl, Or.inr rfl⟩
  | block inside _ => exact ⟨'/', _, rfl, Or.inr rfl⟩

end Filler

/-- The text of blanks and comments. -/
def fillText (fs : List Filler) : List Char :=
  fs.flatMap Filler.text

/-- The blanks that are left of blanks and comments. -/
def fillPlain (fs : List Filler) : List Char :=
  fs.flatMap Filler.plain

theorem isBlank_of_mem_fillPlain {fs : List Filler} {x : Char} (hx : x ∈ fillPlain fs) :
    isBlank x = true := by
  obtain ⟨f, -, hx⟩ := List.mem_flatMap.mp hx
  exact f.isBlank_of_mem_plain hx

theorem fillPlain_ne_nil {fs : List Filler} (h : fs ≠ []) : fillPlain fs ≠ [] := by
  obtain ⟨f, fs, rfl⟩ := List.exists_cons_of_ne_nil h
  rw [fillPlain, List.flatMap_cons]
  exact List.append_ne_nil_of_left_ne_nil f.plain_ne_nil _

/-! ### What may stand in a list -/

theorem isListChar_of_isBlank {x : Char} (hx : isBlank x = true) :
    (!"\x7b\x7d;/".toList.contains x) = true :=
  not_contains_of_class (by decide) hx

/-- A character that is no slash, brace or semicolon may stand in a list of bases. -/
theorem isListChar_of_notMem {x : Char} (hx : x ∉ ['{', '}', ';', '/']) :
    (!"\x7b\x7d;/".toList.contains x) = true := by
  rw [Bool.not_eq_true', ← Bool.not_eq_true, List.contains_iff_mem]
  exact hx

theorem closed_fillPlain (fs : List Filler) : Closed (fillPlain fs) :=
  closed_of_isListMark fun _ hx => isListMark_of_isBlank (isBlank_of_mem_fillPlain hx)

theorem Filler.commented (f : Filler) : Commented f.text f.plain := by
  cases f with
  | blank c hc => exact .of_forall (List.forall_mem_singleton.mpr (isListChar_of_isBlank hc))
  | line inside hinside =>
    -- the newline ends the comment and is left as a blank of its own
    refine .comment (fun post => .line hinside ?_) (.of_forall (List.forall_mem_singleton.mpr rfl))
    exact fun x rest heq => (List.cons.inj heq).1.symm
  | block inside hinside =>
    -- nothing that follows can make this comment longer
    have hcomment := Commented.comment (fun post => @IsComment.block inside ([] ++ post) hinside) .nil
    rw [List.append_nil] at hcomment
    exact hcomment

theorem Commented.flatMap {α : Type} {f g : α → List Char} {l : List α}
    (h : ∀ a ∈ l, Commented (f a) (g a)) : Commented (l.flatMap f) (l.flatMap g) := by
  induction l with
  | nil => exact .nil
  | cons a l ih =>
    obtain ⟨ha, hl⟩ := List.forall_mem_cons.mp h
    rw [List.flatMap_cons, List.flatMap_cons]
    exact ha.append (ih hl)

theorem commented_fillText (fs : List Filler) : Commented (fillText fs) (fillPlain fs) :=
  .flatMap fun f _ => f.commented

/-! ### A base -/

/-- The name of a base: any text without blanks, braces, semicolons and slashes that is no access
word, whose brackets match and whose commas all stand inside brackets. -/
structure BaseName where
  text : String
  isBaseName : IsBaseName text
  not_access : text.toList ∉ accessWords
  closed : Closed text.toList

/-- An access word, and what separates it from the next word. -/
structure AccessWord where
  word : List Char
  behind : List Filler
  word_ok : word ∈ accessWords
  behind_ok : behind ≠ []

namespace AccessWord

def text (a : AccessWord) : List Char :=
  a.word ++ fillText a.behind

/-- Its text without the comments. -/
def plain (a : AccessWord) : List Char :=
  a.word ++ fillPlain a.behind

theorem commented (a : AccessWord) : Commented a.text a.plain := by
  refine Commented.append (.of_forall fun x hx => ?_) (commented_fillText a.behind)
  exact isListChar_of_isNameChar (isNameChar_of_mem_access a.word_ok hx)

theorem closed (a : AccessWord) : Closed a.plain := by
  refine Closed.append (closed_of_isListMark fun x hx => ?_) (closed_fillPlain a.behind)
  exact isListMark_of_isNameChar (isNameChar_of_mem_access a.word_ok hx)

theorem words_plain_append (a : AccessWord) (s : List Char) :
    Text.words (a.plain ++ s) = a.word :: Text.words s := by
  have hne : ∀ w ∈ accessWords, w ≠ [] := by decide
  rw [plain, List.append_assoc]
  refine Text.words_append_blanks (hne a.word a.word_ok) (fun x hx => ?_)
    (fillPlain_ne_nil a.behind_ok) (fun _ => isBlank_of_mem_fillPlain) s
  exact isBlank_of_isNameChar (isNameChar_of_mem_access a.word_ok hx)

end AccessWord

/-- A base as it is written, with what stands around it up to the commas. -/
structure WrittenBase where
  lead : List Filler
  access : List AccessWord
  name : BaseName
  trail : List Filler

namespace WrittenBase

variable (b : WrittenBase)

def text : List Char :=
  fillText b.lead ++ (b.access.flatMap AccessWord.text ++ (b.name.text.toList ++ fillText b.trail))

/-- Its text without the comments. -/
def plain : List Char :=
  fillPlain b.lead ++
    (b.access.flatMap AccessWord.plain ++ (b.name.text.toList ++ fillPlain b.trail))

theorem commented : Commented b.text b.plain := by
  have hname : Commented b.name.text.toList b.name.text.toList :=
    .of_forall fun x hx => isListChar_of_notMem (b.name.isBaseName.2 x hx).2
  have haccess : Commented (b.access.flatMap AccessWord.text) (b.access.flatMap AccessWord.plain) :=
    .flatMap fun a _ => a.commented
  exact (commented_fillText b.lead).append
    (haccess.append (hname.append (commented_fillText b.trail)))

theorem closed_plain : Closed b.plain := by
  have haccess : ∀ access : List AccessWord, Closed (access.flatMap AccessWord.plain) := by
    intro access
    induction access with
    | nil => exact closed_of_forall fun _ hx => absurd hx List.not_mem_nil
    | cons a access ih =>
      rw [List.flatMap_cons]
      exact a.closed.append ih
  exact (closed_fillPlain b.lead).append
    ((haccess b.access).append (b.name.closed.append (closed_fillPlain b.trail)))

theorem words_plain : Text.words b.plain = b.access.map AccessWord.word ++ [b.name.text.toList] := by
  have hname : Text.words (b.name.text.toList ++ fillPlain b.trail) = [b.name.text.toList] := by
    obtain ⟨hne, hchars⟩ := b.name.isBaseName
    have hblank : ∀ x ∈ b.name.text.toList, isBlank x = false := fun x hx => (hchars x hx).1
    by_cases htrail : b.trail = []
    · rw [htrail, fillPlain, List.flatMap_nil, List.append_nil]
      exact Text.words_of_forall hne hblank
    · have hwords := Text.words_append_blanks hne hblank (fillPlain_ne_nil htrail)
        (fun _ => isBlank_of_mem_fillPlain) []
      rwa [List.append_nil, Text.words_nil] at hwords
  rw [plain, Text.words_blanks_append fun _ => isBlank_of_mem_fillPlain]
  -- the access words come off one by one, until the name is left
  induction b.access with
  | nil => exact hname
  | cons a access ih =>
    rw [List.flatMap_cons, List.append_assoc, a.words_plain_append, ih, List.map_cons,
      List.cons_append]

/-- The access words are no part of the name. -/
theorem baseName_plain : baseName b.plain = b.name.text.toList := by
  have haccess : (b.access.map AccessWord.word).filter (!accessWords.contains ·) = [] := by
    rw [List.filter_eq_nil_iff]
    intro w hw
    obtain ⟨a, -, rfl⟩ := List.mem_map.mp hw
    simp [a.word_ok]
  rw [baseName, words_plain, List.filter_append, haccess]
  simp [b.name.not_access]

end WrittenBase

/-! ### A list -/

/-- A list of bases as it is written.  In front of the first one there is a blank or a comment. -/
structure WrittenBases where
  first : WrittenBase
  others : List WrittenBase
  lead_ok : first.lead ≠ []

namespace WrittenBases

variable (bs : WrittenBases)

def text : List Char :=
  bs.first.text ++ bs.others.flatMap fun b => ',' :: b.text

/-- The text without the comments. -/
def plain : List Char :=
  bs.first.plain ++ bs.others.flatMap fun b => ',' :: b.plain

def names : List String :=
  (bs.first :: bs.others).map (·.name.text)

theorem commented : Commented bs.text bs.plain :=
  bs.first.commented.append (.flatMap fun b _ => .plain (by decide) b.commented)

theorem exists_text_eq : ∃ x s, bs.text = x :: s ∧ (isBlank x = true ∨ x = '/') := by
  obtain ⟨f, fs, hlead⟩ := List.exists_cons_of_ne_nil bs.lead_ok
  obtain ⟨x, s, htext, hx⟩ := f.exists_text_eq
  obtain ⟨rest, hrest⟩ : ∃ rest, bs.text = f.text ++ rest := by
    rw [text, WrittenBase.text, hlead, fillText, List.flatMap_cons, List.append_assoc,
      List.append_assoc]
    exact ⟨_, rfl⟩
  exact ⟨x, s ++ rest, by rw [hrest, htext, List.cons_append], hx⟩

/-- The list is split between its bases and nowhere else. -/
theorem splitBases_plain :
    splitBases 0 bs.plain = (bs.first :: bs.others).map WrittenBase.plain := by
  rw [plain]
  -- every base ends at a comma outside its brackets, so the induction needs any first base
  generalize bs.first = b
  induction bs.others generalizing b with
  | nil =>
    rw [List.flatMap_nil, List.append_nil]
    exact b.closed_plain.splitBases_eq
  | cons b' others ih =>
    rw [List.flatMap_cons, List.cons_append, b.closed_plain.splitBases_append_comma, ih b']
    rfl

end WrittenBases

/-- Blanks in front of a list are no part of its names. -/
theorem map_baseName_splitBases_append {blanks : List Char} (h : ∀ x ∈ blanks, isBlank x = true)
    (s : List Char) :
    (splitBases 0 (blanks ++ s)).map baseName = (splitBases 0 s).map baseName := by
  obtain ⟨piece, pieces, hpieces⟩ := List.exists_cons_of_ne_nil (splitBases_ne_nil 0 s)
  have hclosed : Closed blanks := closed_of_isListMark fun x hx => isListMark_of_isBlank (h x hx)
  have hname : baseName (blanks ++ piece) = baseName piece := by
    rw [baseName, Text.words_blanks_append h, ← baseName]
  rw [hclosed.splitBases_append_of_eq hpieces, hpieces, List.map_cons, List.map_cons, hname]

/-- **The names of a list are read back**, in order and complete, whatever its comments hold and
however many of the blanks in front of it the pattern leaves out. -/
theorem WrittenBases.parseBases_text (bs : WrittenBases) {front list : List Char}
    (htext : bs.text = front ++ list) (hfront : ∀ x ∈ front, isBlank x = true) :
    parseBases list = bs.names := by
  -- without its comments the list is what is left of the whole text behind the blanks in front
  have hcommented := bs.commented
  rw [htext] at hcommented
  obtain ⟨plain, hplain, hlist⟩ :=
    hcommented.exists_of_append fun hmem => absurd (hfront _ hmem) (by decide)
  have hnames : (splitBases 0 plain).map baseName =
      (bs.first :: bs.others).map (·.name.text.toList) := by
    rw [← map_baseName_splitBases_append hfront, ← hplain, bs.splitBases_plain, List.map_map]
    exact List.map_congr_left fun b _ => b.baseName_plain
  -- no name is empty, so none is left out
  have hkept : ((bs.first :: bs.others).map (·.name.text.toList)).filter (!·.isEmpty) =
      (bs.first :: bs.others).map (·.name.text.toList) := by
    rw [List.filter_eq_self]
    intro name hname
    obtain ⟨b, -, rfl⟩ := List.mem_map.mp hname
    simp [List.isEmpty_eq_false_iff.mpr b.name.isBaseName.1]
  rw [hlist.uncommented.parseBases_eq, parseBases_of_uncommented hlist.uncommented, hnames, hkept,
    List.map_map, names]
  exact List.map_congr_left fun b _ => String.ofList_toList

end HeaderSurvey
