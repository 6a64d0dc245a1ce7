import HeaderSurvey.Proofs.Declaration.ForestText
import HeaderSurvey.Proofs.Pattern.Found
import HeaderSurvey.Proofs.Pattern.Stretches
import HeaderSurvey.Proofs.Text.Words
import HeaderSurvey.TestCase.Harvest

/-!
# The text of a test method

`MethodPieces` are the stretches that the text of a method falls into, and `IsTest` says that they
are those of a test method.  The pattern of the test methods matches at a place exactly if such a
text stands there and no word goes on into it (`way_testMethod_iff`).

Where such a text stands, the marks in it determine its stretches
(`MethodPieces.IsTest.of_append`).  So what the match keeps is the name, in whatever order the
pattern tries its parts (`exists_matchAt?_testMethod`).
-/

namespace HeaderSurvey

open Pattern

/-! ### The pieces -/

/-- The words that may stand behind the parameters of a test method, in this order. -/
def qualifierWords : List (List Char) :=
  ["const".toList, "noexcept".toList, "override".toList, "final".toList]

/-- What stands between the parentheses if there are no parameters. -/
def IsVoidList (s : List Char) : Prop :=
  ∃ front word back, s = front ++ (word ++ back) ∧ (∀ x ∈ front, isBlank x = true) ∧
    (word = [] ∨ word = "void".toList) ∧ ∀ x ∈ back, isBlank x = true

/-- Some of the words, in their order, each of them with blanks behind it or with none. -/
def IsSelection : List (List Char) → List Char → Prop
  | [], s => s = []
  | w :: ws, s =>
    IsSelection ws s ∨
      ∃ blanks rest, s = w ++ (blanks ++ rest) ∧ (∀ x ∈ blanks, isBlank x = true) ∧
        IsSelection ws rest

/-- What may stand between the parameters of a test method and the semicolon. -/
def AreQualifiers (s : List Char) : Prop :=
  ∃ blanks words, s = blanks ++ words ∧ (∀ x ∈ blanks, isBlank x = true) ∧
    IsSelection qualifierWords words

/-- The stretches that the text of a method falls into. -/
structure MethodPieces where
  /-- What stands between the return type and the name. -/
  blanks : List Char
  name : List Char
  /-- What stands between the name and the parenthesis. -/
  gap : List Char
  params : List Char
  /-- What stands behind the parameters, up to the semicolon. -/
  qualifiers : List Char

namespace MethodPieces

/-- What stands behind the name. -/
def tail (p : MethodPieces) : List Char :=
  p.gap ++ '(' :: (p.params ++ ')' :: (p.qualifiers ++ [';']))

/-- The whole text. -/
def text (p : MethodPieces) : List Char :=
  "void".toList ++ (p.blanks ++ (p.name ++ p.tail))

/-- The pieces are those of a test method whose name begins with `start`. -/
structure IsTest (start : List Char) (p : MethodPieces) : Prop where
  blanks_ne_nil : p.blanks ≠ []
  blanks_ok : ∀ x ∈ p.blanks, isBlank x = true
  name_ok : ∃ rest, p.name = start ++ rest ∧ ∀ x ∈ rest, isWordChar x = true
  gap_ok : ∀ x ∈ p.gap, isBlank x = true
  params_ok : IsVoidList p.params
  qualifiers_ok : AreQualifiers p.qualifiers

end MethodPieces

/-! ### The pattern, part by part -/

/-- The pattern of some of the words, in their order, in front of another pattern. -/
def selectionPattern (p : Pattern) : List (List Char) → Pattern
  | [] => p
  | w :: ws => optional (literal w ++ many isBlank) ++ selectionPattern p ws

/-- The pattern of what stands behind the name of a test method. -/
def methodTailPattern : Pattern :=
  many isBlank ++ (literal ['('] ++ (many isBlank ++ (optional (lit "void") ++ (many isBlank ++
    (literal [')'] ++ (many isBlank ++ selectionPattern (lit ";") qualifierWords))))))

theorem takes_selectionPattern {p : Pattern} {ws : List (List Char)} {s : List Char} :
    (selectionPattern p ws).Takes s ↔
      ∃ words rest, s = words ++ rest ∧ IsSelection ws words ∧ p.Takes rest := by
  induction ws generalizing s with
  | nil =>
    constructor
    · exact fun h => ⟨[], s, rfl, rfl, h⟩
    · rintro ⟨_, rest, rfl, rfl, h⟩
      exact h
  | cons w ws ih =>
    constructor
    · rintro ⟨_, t, rfl, hword | rfl, ht⟩
      · obtain ⟨words, rest, rfl, hwords, hrest⟩ := ih.mp ht
        obtain ⟨blanks, rfl, hblanks⟩ := takes_literal_seq.mp hword
        exact ⟨w ++ (blanks ++ words), rest, by simp only [List.append_assoc],
          Or.inr ⟨blanks, words, rfl, hblanks, hwords⟩, hrest⟩
      · obtain ⟨words, rest, rfl, hwords, hrest⟩ := ih.mp ht
        exact ⟨words, rest, rfl, Or.inl hwords, hrest⟩
    · rintro ⟨words, rest, rfl, hwords | ⟨blanks, words, rfl, hblanks, hwords⟩, hrest⟩
      · exact ⟨[], words ++ rest, rfl, Or.inr rfl, ih.mpr ⟨words, rest, rfl, hwords, hrest⟩⟩
      · refine ⟨w ++ blanks, words ++ rest, by simp only [List.append_assoc], Or.inl ?_,
          ih.mpr ⟨words, rest, rfl, hwords, hrest⟩⟩
        exact takes_literal_seq.mpr ⟨blanks, rfl, hblanks⟩

theorem takes_methodTailPattern {s : List Char} :
    methodTailPattern.Takes s ↔
      ∃ gap params qualifiers, s = gap ++ '(' :: (params ++ ')' :: (qualifiers ++ [';'])) ∧
        (∀ x ∈ gap, isBlank x = true) ∧ IsVoidList params ∧ AreQualifiers qualifiers := by
  constructor
  · rintro ⟨gap, t, rfl, hgap, ht⟩
    obtain ⟨_, rfl, front, _, rfl, hfront, word, _, rfl, hword, back, u, rfl, hback, hu⟩ :=
      takes_literal_seq.mp ht
    obtain ⟨_, rfl, blanks, v, rfl, hblanks, hv⟩ := takes_literal_seq.mp hu
    obtain ⟨words, _, rfl, hwords, rfl⟩ := takes_selectionPattern.mp hv
    exact ⟨gap, front ++ (word ++ back), blanks ++ words, by simp, hgap,
      ⟨front, word, back, rfl, hfront, hword.symm, hback⟩, blanks, words, rfl, hblanks, hwords⟩
  · rintro ⟨gap, _, _, rfl, hgap, ⟨front, word, back, rfl, hfront, hword, hback⟩, blanks, words,
      rfl, hblanks, hwords⟩
    have hqualifiers : (many isBlank ++ selectionPattern (lit ";") qualifierWords).Takes
        (blanks ++ (words ++ [';'])) :=
      ⟨blanks, _, rfl, hblanks, takes_selectionPattern.mpr ⟨words, [';'], rfl, hwords, rfl⟩⟩
    refine ⟨gap, _, rfl, hgap, takes_literal_seq.mpr ⟨_, rfl, front, _, ?_, hfront, word, _, rfl,
      hword.symm, back, _, rfl, hback, takes_literal_seq.mpr ⟨_, rfl, hqualifiers⟩⟩⟩
    simp

/-- The pattern of the test methods, with its sequences bracketed to the right. -/
theorem way_testMethodPattern {start : List Char} {c d : Cursor} {g f : Captures} :
    (testMethodPattern start).Way c g d f ↔
      (wordBoundary ++ (lit "void" ++ (oneOrMore isBlank ++
        (capture 1 (literal start ++ many isWordChar) ++ methodTailPattern)))).Way c g d f := by
  unfold testMethodPattern
  simp only [way_seq_assoc]
  exact Iff.rfl

/-! ### Where the pattern matches -/

/-- **The pattern of the test methods takes the texts of test methods**, at places where no word
goes on, and keeps the name. -/
theorem way_testMethod_iff {start : List Char} {c d : Cursor} {f : Captures} :
    (testMethodPattern start).Way c [] d f ↔
      c.isWordBoundary = true ∧ ∃ p : MethodPieces, p.IsTest start ∧
        ∃ a b, c.Leads ("void".toList ++ p.blanks) a ∧ a.Leads p.name b ∧ b.Leads p.tail d ∧
          f = [(1, a, b)] := by
  rw [way_testMethodPattern]
  constructor
  · rintro ⟨_, _, ⟨hplace, rfl, rfl⟩, e, _, hwayVoid, a, _, hwayBlanks, b, _, ⟨_, hwayName, rfl⟩,
      hwayTail⟩
    obtain ⟨_, hvoid, rfl, rfl⟩ := (way_iff_takes rfl).mp hwayVoid
    obtain ⟨blanks, hblanks, htakes, rfl⟩ := (way_iff_takes rfl).mp hwayBlanks
    obtain ⟨hne, hall⟩ := takes_oneOrMore.mp htakes
    obtain ⟨_, hname, htakes, rfl⟩ := (way_iff_takes rfl).mp hwayName
    obtain ⟨rest, rfl, hrest⟩ := takes_literal_seq.mp htakes
    obtain ⟨_, htail, htakes, rfl⟩ := (way_iff_takes rfl).mp hwayTail
    obtain ⟨gap, params, qualifiers, rfl, hgap, hparams, hqualifiers⟩ :=
      takes_methodTailPattern.mp htakes
    exact ⟨hplace, ⟨blanks, start ++ rest, gap, params, qualifiers⟩,
      ⟨hne, hall, ⟨rest, rfl, hrest⟩, hgap, hparams, hqualifiers⟩, a, b,
      Cursor.leads_append.mpr ⟨e, hvoid, hblanks⟩, hname, htail, rfl⟩
  · rintro ⟨hplace, p, hp, a, b, hfront, hname, htail, rfl⟩
    obtain ⟨e, hvoid, hblanks⟩ := Cursor.leads_append.mp hfront
    have hblanksTakes := takes_oneOrMore.mpr ⟨hp.blanks_ne_nil, hp.blanks_ok⟩
    have hnameTakes : (literal start ++ many isWordChar).Takes p.name :=
      takes_literal_seq.mpr hp.name_ok
    have htailTakes := takes_methodTailPattern.mpr
      ⟨p.gap, p.params, p.qualifiers, rfl, hp.gap_ok, hp.params_ok, hp.qualifiers_ok⟩
    exact ⟨c, [], ⟨hplace, rfl, rfl⟩, e, [], (way_iff_takes rfl).mpr ⟨_, hvoid, rfl, rfl⟩,
      a, [], (way_iff_takes rfl).mpr ⟨_, hblanks, hblanksTakes, rfl⟩,
      b, _, ⟨[], (way_iff_takes rfl).mpr ⟨_, hname, hnameTakes, rfl⟩, rfl⟩,
      (way_iff_takes rfl).mpr ⟨_, htail, htailTakes, rfl⟩⟩

/-- A match of the pattern of the test methods is the text of a test method. -/
theorem exists_pieces_of_matchAt? {start : List Char} {c : Cursor} {m : Match}
    (h : (testMethodPattern start).matchAt? c = some m) :
    c.isWordBoundary = true ∧ ∃ p : MethodPieces, p.IsTest start ∧ c.Leads p.text m.stop ∧
      m.captured? 1 = some p.name := by
  obtain ⟨hplace, p, hp, a, b, hfront, hname, htail, hcaptures⟩ :=
    way_testMethod_iff.mp (way_of_matchAt? h)
  refine ⟨hplace, p, hp, ?_, ?_⟩
  · rw [MethodPieces.text, ← List.append_assoc]
    exact Cursor.leads_append.mpr ⟨a, hfront, Cursor.leads_append.mpr ⟨b, hname, htail⟩⟩
  · rw [Match.captured?, Match.capture?, hcaptures]
    exact congrArg some hname.2

/-! ### A place determines the pieces -/

/-- The characters that stand between the parentheses and the semicolon of a method, and around
them. -/
def isInner (x : Char) : Bool :=
  x ∉ ['(', ')', ';']

theorem isInner_of_isWordChar {x : Char} (hx : isWordChar x = true) : isInner x = true :=
  decide_eq_true (Text.notMem_of_class (by decide) hx)

theorem isInner_of_isBlank {x : Char} (hx : isBlank x = true) : isInner x = true :=
  decide_eq_true (Text.notMem_of_class (by decide) hx)

/-- Without the blanks around it, such a text is empty or `void`. -/
theorem IsVoidList.trim_eq {s : List Char} (h : IsVoidList s) :
    Text.trim s = [] ∨ Text.trim s = "void".toList := by
  obtain ⟨front, word, back, rfl, hfront, hword, hback⟩ := h
  have hplain : ∀ x ∈ word, isBlank x = false := by
    rcases hword with rfl | rfl
    · simp
    · decide
  rw [Text.trim_of_blanks hfront hplain hback]
  exact hword

theorem IsVoidList.isInner_of_mem {s : List Char} (h : IsVoidList s) {x : Char} (hx : x ∈ s) :
    isInner x = true := by
  obtain ⟨front, word, back, rfl, hfront, hword, hback⟩ := h
  rcases List.mem_append.mp hx with hx | hx
  · exact isInner_of_isBlank (hfront x hx)
  · rcases List.mem_append.mp hx with hx | hx
    · rcases hword with rfl | rfl
      · exact absurd hx List.not_mem_nil
      · exact (show ∀ x ∈ "void".toList, isInner x = true by decide) x hx
    · exact isInner_of_isBlank (hback x hx)

/-- Such a text is made of blanks and of characters of the words. -/
theorem IsSelection.isBlank_or_mem {ws : List (List Char)} {s : List Char} (h : IsSelection ws s)
    {x : Char} (hx : x ∈ s) : isBlank x = true ∨ ∃ w ∈ ws, x ∈ w := by
  induction ws generalizing s with
  | nil =>
    rw [show s = [] from h] at hx
    exact absurd hx List.not_mem_nil
  | cons w ws ih =>
    have hlater : ∀ {t}, IsSelection ws t → x ∈ t → isBlank x = true ∨ ∃ v ∈ w :: ws, x ∈ v := by
      intro t ht hmem
      exact (ih ht hmem).imp_right fun ⟨v, hv, hxv⟩ => ⟨v, List.mem_cons_of_mem w hv, hxv⟩
    rcases h with h | ⟨blanks, rest, rfl, hblanks, h⟩
    · exact hlater h hx
    · rcases List.mem_append.mp hx with hx | hx
      · exact Or.inr ⟨w, List.mem_cons_self .., hx⟩
      · rcases List.mem_append.mp hx with hx | hx
        · exact Or.inl (hblanks x hx)
        · exact hlater h hx

theorem IsSelection.isInner_of_mem {ws : List (List Char)}
    (hws : ∀ w ∈ ws, ∀ x ∈ w, isInner x = true) {s : List Char} (h : IsSelection ws s) {x : Char}
    (hx : x ∈ s) : isInner x = true := by
  rcases h.isBlank_or_mem hx with hblank | ⟨w, hw, hxw⟩
  · exact isInner_of_isBlank hblank
  · exact hws w hw x hxw

theorem AreQualifiers.isInner_of_mem {s : List Char} (h : AreQualifiers s) {x : Char}
    (hx : x ∈ s) : isInner x = true := by
  obtain ⟨blanks, words, rfl, hblanks, hwords⟩ := h
  rcases List.mem_append.mp hx with hx | hx
  · exact isInner_of_isBlank (hblanks x hx)
  · exact hwords.isInner_of_mem (by decide) hx

namespace MethodPieces

variable {start : List Char} {p p' : MethodPieces}

/-- What stands in front of the opening parenthesis. -/
def head (p : MethodPieces) : List Char :=
  "void".toList ++ (p.blanks ++ (p.name ++ p.gap))

theorem text_eq (p : MethodPieces) :
    p.text = p.head ++ '(' :: (p.params ++ ')' :: (p.qualifiers ++ [';'])) := by
  simp only [text, tail, head, List.append_assoc]

theorem IsTest.isWordChar_of_mem_name (hp : p.IsTest start)
    (hstart : ∀ x ∈ start, isWordChar x = true) {x : Char} (hx : x ∈ p.name) :
    isWordChar x = true := by
  obtain ⟨rest, hname, hrest⟩ := hp.name_ok
  rw [hname] at hx
  exact (List.mem_append.mp hx).elim (hstart x) (hrest x)

theorem IsTest.isInner_of_mem_head (hp : p.IsTest start)
    (hstart : ∀ x ∈ start, isWordChar x = true) : ∀ x ∈ p.head, isInner x = true := by
  intro x hx
  rcases List.mem_append.mp hx with hx | hx
  · exact (show ∀ x ∈ "void".toList, isInner x = true by decide) x hx
  · rcases List.mem_append.mp hx with hx | hx
    · exact isInner_of_isBlank (hp.blanks_ok x hx)
    · rcases List.mem_append.mp hx with hx | hx
      · exact isInner_of_isWordChar (hp.isWordChar_of_mem_name hstart hx)
      · exact isInner_of_isBlank (hp.gap_ok x hx)

/-- The semicolon is the last character of the text and no other. -/
theorem IsTest.notMem_semicolon (hp : p.IsTest start) (hstart : ∀ x ∈ start, isWordChar x = true) :
    ';' ∉ p.head ++ '(' :: (p.params ++ ')' :: p.qualifiers) := by
  have hmark : isInner ';' = false := by decide
  simp only [List.mem_append, List.mem_cons, not_or]
  refine ⟨fun h => ?_, by decide, fun h => ?_, by decide, fun h => ?_⟩
  · exact absurd (hp.isInner_of_mem_head hstart _ h) (by simp [hmark])
  · exact absurd (hp.params_ok.isInner_of_mem h) (by simp [hmark])
  · exact absurd (hp.qualifiers_ok.isInner_of_mem h) (by simp [hmark])

/-- The text stands at the edge of a word exactly if no word goes on into it. -/
theorem isWordBoundary_between_text (p : MethodPieces) (pre post : List Char) :
    (Cursor.between pre (p.text ++ post)).isWordBoundary = !Cursor.headIsWord pre.reverse := by
  have hv : Cursor.headIsWord (p.text ++ post) = true := rfl
  rw [Cursor.isWordBoundary, Cursor.before_between, Cursor.rest_between, hv]
  cases Cursor.headIsWord pre.reverse with
  | false => rfl
  | true => rfl

/-- The name is the word between the return type and the parenthesis. -/
theorem IsTest.name_eq (hp : p.IsTest start) (hstart : ∀ x ∈ start, isWordChar x = true)
    {s : List Char} (h : p.head = "void".toList ++ s) : Text.trim s = p.name := by
  rw [← List.append_cancel_left h]
  refine Text.trim_of_blanks hp.blanks_ok (fun x hx => ?_) hp.gap_ok
  rw [← Bool.not_eq_true]
  intro hblank
  have hword := hp.isWordChar_of_mem_name hstart hx
  rw [isWordChar_of_isBlank hblank] at hword
  exact nomatch hword

/-- Where the text of a test method stands, its stretches are those between the marks. -/
theorem IsTest.of_append (hp : p.IsTest start) (hstart : ∀ x ∈ start, isWordChar x = true)
    {u v w rest post : List Char} (hu : ∀ x ∈ u, isInner x = true)
    (hv : ∀ x ∈ v, isInner x = true) (hw : ∀ x ∈ w, isInner x = true)
    (h : p.text ++ rest = u ++ '(' :: (v ++ ')' :: (w ++ ';' :: post))) :
    p.head = u ∧ p.params = v ∧ p.qualifiers = w ∧ rest = post := by
  rw [text_eq] at h
  simp only [List.append_assoc, List.cons_append, List.nil_append] at h
  obtain ⟨hhead, -, h⟩ := Text.append_cons_inj_of_class (hp.isInner_of_mem_head hstart) hu
    (by decide) (by decide) h
  obtain ⟨hparams, -, h⟩ := Text.append_cons_inj_of_class
    (fun x hx => hp.params_ok.isInner_of_mem hx) hv (by decide) (by decide) h
  obtain ⟨hqualifiers, -, hrest⟩ := Text.append_cons_inj_of_class
    (fun x hx => hp.qualifiers_ok.isInner_of_mem hx) hw (by decide) (by decide) h
  exact ⟨hhead, hparams, hqualifiers, hrest⟩

end MethodPieces

/-- Where the text of a test method stands and no word goes on into it, the pattern matches. -/
theorem MethodPieces.IsTest.exists_matchAt? {start : List Char} {p : MethodPieces}
    (hp : p.IsTest start) {pre : List Char} (hpre : Cursor.headIsWord pre.reverse = false)
    (post : List Char) :
    ∃ m, (testMethodPattern start).matchAt? (Cursor.between pre (p.text ++ post)) = some m := by
  have hadvance : (testMethodPattern start).roundsAdvance = true := rfl
  have hplace : (Cursor.between pre (p.text ++ post)).isWordBoundary = true := by
    rw [p.isWordBoundary_between_text, hpre]
    rfl
  have hleads := Cursor.leads_between pre p.text post
  nth_rewrite 2 [MethodPieces.text] at hleads
  rw [← List.append_assoc] at hleads
  obtain ⟨a, hfront, hrest⟩ := Cursor.leads_append.mp hleads
  obtain ⟨b, hname, htail⟩ := Cursor.leads_append.mp hrest
  exact (exists_matchAt?_iff hadvance).mpr
    ⟨_, _, way_testMethod_iff.mpr ⟨hplace, p, hp, a, b, hfront, hname, htail, rfl⟩⟩

/-- **Where the text of a test method stands** and no word goes on into it, the pattern matches this
text and keeps the name. -/
theorem exists_matchAt?_testMethod {start : List Char}
    (hstart : ∀ x ∈ start, isWordChar x = true) {p : MethodPieces} (hp : p.IsTest start)
    {pre : List Char} (hpre : Cursor.headIsWord pre.reverse = false) (post : List Char) :
    ∃ m, (testMethodPattern start).matchAt? (Cursor.between pre (p.text ++ post)) = some m ∧
      m.stop = Cursor.between (pre ++ p.text) post ∧ m.captured? 1 = some p.name := by
  obtain ⟨m, hm⟩ := hp.exists_matchAt? hpre post
  -- the match is found, whatever it is, and its pieces can be no others
  obtain ⟨-, p', hp', hleads, hcaptured⟩ := exists_pieces_of_matchAt? hm
  obtain ⟨post', hrest, hstop⟩ := hleads.eq_between
  have hsame := hrest.symm
  rw [p.text_eq] at hsame
  simp only [List.append_assoc, List.cons_append, List.nil_append] at hsame
  obtain ⟨hhead, hparams, hqualifiers, rfl⟩ := hp'.of_append hstart (hp.isInner_of_mem_head hstart)
    (fun x hx => hp.params_ok.isInner_of_mem hx) (fun x hx => hp.qualifiers_ok.isInner_of_mem hx)
    hsame
  have htext : p'.text = p.text := by
    rw [p'.text_eq, p.text_eq, hhead, hparams, hqualifiers]
  have hname : p'.name = p.name := by
    rw [← hp'.name_eq hstart (hhead.trans rfl), hp.name_eq hstart rfl]
  exact ⟨m, hm, by rw [hstop, htext], by rw [hcaptured, hname]⟩

end HeaderSurvey
