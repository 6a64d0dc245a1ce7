import HeaderSurvey.Proofs.Declaration.Brackets
import HeaderSurvey.Proofs.Declaration.ForestText
import HeaderSurvey.Proofs.Pattern.Preferred
import HeaderSurvey.Proofs.Pattern.Search

/-!
# Lists of bases

The list of bases of a type is read back.  `run_baseListPattern` says that the pattern takes the
whole list, up to the brace, and `parseBases_baseListText` that what is made of it are the names of
the bases without their access words.
-/

namespace HeaderSurvey

open Pattern

/-! ### Comments -/

theorem not_way_commentPattern {c d : Cursor} {g f : Captures}
    (h : ∀ rest, c.rest ≠ '/' :: rest) : ¬ commentPattern.Way c g d f := by
  rintro (⟨e, f', hlit, -⟩ | ⟨e, f', ⟨e', f'', hlit, -⟩, -⟩)
  · exact h _ (rest_of_way_literal hlit)
  · exact h _ (rest_of_way_literal hlit)

/-- Where nothing matches, nothing is replaced. -/
theorem replaceAll_eq_self {p : Pattern} {text : List Char} (value : List Char)
    (h : ∀ d, Cursor.atStart text ≤ d → p.matchAt? d = none) : p.replaceAll value text = text := by
  have hmatches : p.matchesFrom (Cursor.atStart text) = [] :=
    (successive_matchesFrom p _).unique (.done h)
  rw [replaceAll, hmatches]
  rfl

/-- A text without slashes holds no comment. -/
theorem replaceAll_commentPattern {text : List Char} (h : '/' ∉ text) :
    commentPattern.replaceAll [' '] text = text := by
  refine replaceAll_eq_self [' '] fun d hd => matchAt?_eq_none_of_way fun e f => ?_
  refine not_way_commentPattern fun rest hrest => h ?_
  have htext := Cursor.rest_eq_upTo hd
  rw [hrest] at htext
  change text = _ at htext
  rw [htext]
  simp

/-! ### Pieces -/

/-- The characters that mean something between the bases of a list. -/
def isListMark (c : Char) : Bool :=
  c = ',' || c = '<' || c = '>' || c = '(' || c = ')'

/-- A text without commas and brackets is closed. -/
theorem closed_of_isListMark {s : List Char} (h : ∀ x ∈ s, isListMark x = false) : Closed s := by
  refine closed_of_forall fun x hx => ?_
  have hmark := h x hx
  simp only [isListMark, Bool.or_eq_false_iff, decide_eq_false_iff_not] at hmark
  obtain ⟨⟨⟨⟨hcomma, hopen⟩, hclose⟩, hopen'⟩, hclose'⟩ := hmark
  refine ⟨?_, hcomma⟩
  rw [bracketStep, if_neg (not_or.mpr ⟨hopen, hopen'⟩), if_neg (not_or.mpr ⟨hclose, hclose'⟩)]

/-- A class that holds none of the marks. -/
theorem isListMark_of_class {p : Char → Bool}
    (hp : [',', '<', '>', '(', ')'].all (!p ·) = true) {x : Char} (hx : p x = true) :
    isListMark x = false := by
  by_contra hmark
  rw [Bool.not_eq_false] at hmark
  have hmem : x ∈ [',', '<', '>', '(', ')'] := by
    simpa [isListMark, or_assoc] using hmark
  have hno := List.all_eq_true.mp hp x hmem
  rw [hx] at hno
  exact nomatch hno

theorem isListMark_of_isNameChar {x : Char} (hx : isNameChar x = true) : isListMark x = false :=
  isListMark_of_class (by decide) hx

theorem isListMark_of_isBlank {x : Char} (hx : isBlank x = true) : isListMark x = false :=
  isListMark_of_class (by decide) hx

/-! ### The name in a piece -/

namespace Base

variable (b : Base)

theorem path_ne_nil : b.path ≠ [] := by
  simp [path, PlainName.text]

theorem isBlank_of_mem_path {x : Char} (h : x ∈ b.path) : isBlank x = false := by
  rcases b.mem_path h with h | rfl
  · exact isBlank_of_isNameChar h
  · decide

theorem isListMark_of_mem_text {x : Char} (h : x ∈ b.text) : isListMark x = false := by
  rcases b.mem_text h with h | rfl | rfl
  · exact isListMark_of_isNameChar h
  · decide
  · decide

/-- The name of a base is not taken for an access word: it is qualified, or it is no barred word. -/
theorem path_not_access : b.path ∉ accessWords := by
  intro h
  -- access words hold no colon, so the path would be the name alone
  have hno : ∀ x ∈ b.path, x ≠ ':' := fun x hx =>
    ne_of_isNameChar (isNameChar_of_mem_access h hx) (by decide)
  have hrooted : b.rooted = false := by
    by_contra hr
    exact hno ':' (by simp [path, hr]) rfl
  have hqualifiers : b.qualifiers = [] := by
    cases hq : b.qualifiers with
    | nil => rfl
    | cons n ns => exact absurd rfl (hno ':' (by simp [path, hq]))
  have hpath : b.path = b.name.text := by simp [path, hrooted, hqualifiers]
  have hall : ∀ w ∈ accessWords, ∃ s ∈ barredWords, s.toList = w := by decide
  obtain ⟨s, hs, hw⟩ := hall _ h
  exact b.name.text_ne hs (hpath.symm.trans hw.symm)

theorem words_text : Text.words b.text =
    (match b.access with | some w => [w.val] | none => []) ++ [b.path] := by
  have hpath := Text.words_of_forall b.path_ne_nil fun x hx => b.isBlank_of_mem_path hx
  rw [text]
  rcases b.access with _ | w
  · exact hpath
  · have hne : ∀ w ∈ accessWords, w ≠ [] := by decide
    have hword := Text.words_of_forall (hne w.val w.property) fun x hx =>
      isBlank_of_isNameChar (isNameChar_of_mem_access w.property hx)
    dsimp only
    rw [Text.words_append_cons (by decide), hword, hpath]

/-- The name in a piece of a list is the name of its base, with blanks around it or without. -/
theorem baseName_text {front back : List Char} (hfront : front = [] ∨ front = [' '])
    (hback : back = [] ∨ back = [' ']) : baseName (front ++ b.text ++ back) = b.path := by
  have hwords : Text.words (front ++ b.text ++ back) = Text.words b.text := by
    have hlead : ∀ s, Text.words (front ++ s) = Text.words s := by
      intro s
      rcases hfront with rfl | rfl
      · rfl
      · exact Text.words_append_cons (by decide) [] s
    rw [List.append_assoc, hlead]
    rcases hback with rfl | rfl
    · rw [List.append_nil]
    · rw [Text.words_append_cons (by decide), Text.words_nil, List.append_nil]
  rw [baseName, hwords, words_text]
  rcases b.access with _ | w
  · simp [b.path_not_access]
  · simp [b.path_not_access, w.property]

end Base

/-! ### The whole list -/

theorem baseListText_singleton (b : Base) : baseListText [b] = b.text ++ [' '] :=
  rfl

theorem baseListText_cons (b b' : Base) (bs : List Base) :
    baseListText (b :: b' :: bs) = b.text ++ ',' :: ' ' :: baseListText (b' :: bs) := by
  simp [baseListText, Text.join]

/-- The pieces of a list of bases hold the names of the bases, in order. -/
theorem map_baseName_splitBases {bases : List Base} (hne : bases ≠ []) {front : List Char}
    (hfront : front = [] ∨ front = [' ']) :
    (splitBases 0 (front ++ baseListText bases)).map baseName = bases.map Base.path := by
  have hblank : ∀ x ∈ front, isListMark x = false := by
    intro x hx
    rcases hfront with rfl | rfl
    · simp at hx
    · obtain rfl : x = ' ' := by simpa using hx
      decide
  induction bases generalizing front with
  | nil => exact absurd rfl hne
  | cons b bs ih =>
    have hpiece : Closed (front ++ b.text) :=
      (closed_of_isListMark hblank).append (closed_of_isListMark fun _ => b.isListMark_of_mem_text)
    cases bs with
    | nil =>
      have hlast : Closed (front ++ b.text ++ [' ']) :=
        hpiece.append (closed_of_isListMark (List.forall_mem_singleton.mpr rfl))
      rw [baseListText_singleton, ← List.append_assoc, hlast.splitBases_eq, List.map_singleton,
        b.baseName_text hfront (Or.inr rfl), List.map_singleton]
    | cons b' bs =>
      have hrest := @ih (by simp) [' '] (Or.inr rfl) (List.forall_mem_singleton.mpr rfl)
      have hname := @Base.baseName_text b front [] hfront (Or.inl rfl)
      rw [List.append_nil] at hname
      rw [List.singleton_append] at hrest
      rw [baseListText_cons, ← List.append_assoc, hpiece.splitBases_append_comma, List.map_cons,
        hname, hrest]
      rfl

/-- **The names of a list of bases are read back.** -/
theorem parseBases_baseListText {bases : List Base} (hne : bases ≠ []) :
    parseBases (baseListText bases) = bases.map fun b => String.ofList b.path := by
  have hslash : '/' ∉ baseListText bases := by
    intro h
    rcases mem_baseListText h with h | h | h | h
    · exact ne_of_isNameChar h (by decide) rfl
    all_goals exact absurd h (by decide)
  have hnames := map_baseName_splitBases hne (Or.inl rfl)
  rw [List.nil_append] at hnames
  have hfilter : (bases.map Base.path).filter (!·.isEmpty) = bases.map Base.path := by
    rw [List.filter_eq_self]
    intro s hs
    obtain ⟨b, -, rfl⟩ := List.mem_map.mp hs
    simpa using b.path_ne_nil
  rw [parseBases, replaceAll_commentPattern hslash, hnames, hfilter, List.map_map]
  rfl

/-! ### The pattern -/

/-- A base begins with a character of a name, perhaps behind two colons. -/
theorem Base.exists_text_eq (b : Base) : ∃ colons x s, b.text = colons ++ x :: s ∧
    (colons = [] ∨ colons = [':', ':']) ∧ isNameChar x = true := by
  have hnamed : ∃ x s, (b.qualifiers.flatMap fun n => n.text ++ [':', ':']) ++ b.name.text = x :: s ∧
      isNameChar x = true := by
    cases b.qualifiers with
    | nil => exact ⟨_, _, rfl, isNameChar_of_isNameStart b.name.first_ok⟩
    | cons n ns => exact ⟨_, _, rfl, isNameChar_of_isNameStart n.first_ok⟩
  rw [text]
  rcases b.access with _ | w
  · obtain ⟨x, s, hs, hx⟩ := hnamed
    dsimp only
    rw [path, List.append_assoc, hs]
    cases b.rooted with
    | false => exact ⟨[], x, s, rfl, Or.inl rfl, hx⟩
    | true => exact ⟨[':', ':'], x, s, rfl, Or.inr rfl, hx⟩
  · have hne : ∀ w ∈ accessWords, w ≠ [] := by decide
    obtain ⟨x, s, hs⟩ := List.exists_cons_of_ne_nil (hne w.val w.property)
    refine ⟨[], x, s ++ ' ' :: b.path, ?_, Or.inl rfl, ?_⟩
    · dsimp only
      rw [hs]
      rfl
    · exact isNameChar_of_mem_access w.property (by rw [hs]; exact List.mem_cons_self ..)

theorem exists_baseListText_eq {bases : List Base} (hne : bases ≠ []) :
    ∃ colons x s, baseListText bases = colons ++ x :: s ∧
      (colons = [] ∨ colons = [':', ':']) ∧ isNameChar x = true := by
  cases bases with
  | nil => exact absurd rfl hne
  | cons b bs =>
    obtain ⟨colons, x, s, htext, hcolons, hx⟩ := b.exists_text_eq
    cases bs with
    | nil =>
      refine ⟨colons, x, s ++ [' '], ?_, hcolons, hx⟩
      rw [baseListText_singleton, htext, List.append_assoc, List.cons_append]
    | cons b' bs =>
      refine ⟨colons, x, s ++ ',' :: ' ' :: baseListText (b' :: bs), ?_, hcolons, hx⟩
      rw [baseListText_cons, htext, List.append_assoc, List.cons_append]

/-- A class that holds none of the marks. -/
theorem not_contains_of_class {marks : List Char} {p : Char → Bool}
    (hp : marks.all (!p ·) = true) {x : Char} (hx : p x = true) : (!marks.contains x) = true := by
  rw [Bool.not_eq_true', ← Bool.not_eq_true, List.contains_iff_mem]
  intro hmem
  have hno := List.all_eq_true.mp hp x hmem
  rw [hx] at hno
  exact nomatch hno

theorem isListChar_of_isNameChar {x : Char} (hx : isNameChar x = true) :
    (!"\x7b\x7d;/".toList.contains x) = true :=
  not_contains_of_class (by decide) hx

theorem isFirstListChar_of_isNameChar {x : Char} (hx : isNameChar x = true) :
    (!":\x7b\x7d;/".toList.contains x) = true :=
  not_contains_of_class (by decide) hx

/-- The characters of a list of bases end no list and begin no comment. -/
theorem isListChar_of_mem {bases : List Base} {x : Char} (hx : x ∈ baseListText bases) :
    (!"\x7b\x7d;/".toList.contains x) = true := by
  rcases mem_baseListText hx with h | rfl | rfl | rfl
  · exact isListChar_of_isNameChar h
  · decide
  · decide
  · decide

section Run

variable {pre post : List Char} {g : Captures} {k : Cursor → Captures → Option MatchEnd}
  {o : MatchEnd}

/-- Behind the colons one character and then the rest up to the brace is taken. -/
theorem run_baseListTail {x : Char} {s : List Char} (hx : isNameChar x = true)
    (hs : ∀ y ∈ s, (!"\x7b\x7d;/".toList.contains y) = true)
    (hk : k (Cursor.between (pre ++ x :: s) ('{' :: post)) g = some o) :
    ((one (!":\x7b\x7d;/".toList.contains ·) <|> commentPattern) ++
      star (one (!"\x7b\x7d;/".toList.contains ·) <|> commentPattern)).run
        (Cursor.between pre (x :: (s ++ '{' :: post))) g k = some o := by
  rw [run_seq]
  apply run_either_of_some
  rw [run_one_between (isFirstListChar_of_isNameChar hx)]
  apply run_star_of_some
  · intro pre' y post' g' k' o' hy hk'
    apply run_either_of_some
    rw [run_one_between (hs y hy)]
    exact hk'
  · intro k'
    rw [run_either_of_none (run_one_of_ne (by decide))]
    exact run_eq_none_of_way fun d f => not_way_commentPattern (by simp)
  · rw [List.append_assoc, List.singleton_append]
    exact hk

/-- The pattern takes a list of bases up to the opening brace. -/
theorem run_baseListPattern {bases : List Base} (hne : bases ≠ [])
    (hk : k (Cursor.between (pre ++ baseListText bases) ('{' :: post)) g = some o) :
    baseListPattern.run (Cursor.between pre (baseListText bases ++ '{' :: post)) g k = some o := by
  obtain ⟨colons, x, s, htext, hcolons, hx⟩ := exists_baseListText_eq hne
  have hs : ∀ y ∈ s, (!"\x7b\x7d;/".toList.contains y) = true := by
    intro y hy
    refine @isListChar_of_mem bases y ?_
    rw [htext]
    simp [hy]
  rw [htext] at hk ⊢
  have hrun : ((optional (lit "::") ++
      (one (!":\x7b\x7d;/".toList.contains ·) <|> commentPattern)) ++
        star (one (!"\x7b\x7d;/".toList.contains ·) <|> commentPattern)).run
          (Cursor.between pre (colons ++ x :: s ++ '{' :: post)) g k = some o := by
    rw [run_seq, run_seq, List.append_assoc, List.cons_append]
    -- the optional colons are taken exactly if they are there
    rcases hcolons with rfl | rfl
    · have hnone : ∀ d f, ¬ (lit "::").Way (Cursor.between pre (x :: (s ++ '{' :: post))) g d f :=
        fun d f => not_way_literal (ne_of_isNameChar hx (by decide))
      rw [List.nil_append, run_optional_of_none (run_eq_none_of_way hnone)]
      exact run_baseListTail hx hs hk
    · apply run_optional_of_some
      have hlit : lit "::" = literal [':', ':'] := rfl
      rw [hlit, run_literal_between]
      rw [← List.append_assoc] at hk
      exact run_baseListTail hx hs hk
  exact hrun

end Run
end HeaderSurvey
