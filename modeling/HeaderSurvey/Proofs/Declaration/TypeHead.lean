import HeaderSurvey.Proofs.Declaration.BaseList

/-!
# The head of a type

Where `typePattern` matches and where it does not.  A match begins with one of the two keywords as
a word of its own (`exists_keyword_of_matchAt?`), so it begins nowhere in a text without these words
(`matchAt?_typePattern_of_typeFree`).  In front of the head of a type it takes the keyword, the name
and the list of bases (`exists_matchAt?_typeHead`).
-/

namespace HeaderSurvey

open Pattern

/-! ### Where no type begins -/

theorem headIsWord_keyword (kw : TypeKeyword) (rest : List Char) :
    Cursor.headIsWord (kw.text.toList ++ rest) = true := by
  cases kw <;> rfl

theorem isWordChar_of_mem_keyword {kw : TypeKeyword} {x : Char} (h : x ∈ kw.text.toList) :
    isWordChar x = true :=
  isWordChar_of_isNameChar (isNameChar_of_mem_keyword h)

/-- A match begins with a keyword, with no word character in front of it and a blank behind it. -/
theorem exists_keyword_of_matchAt? {c : Cursor} {m : Match} (h : typePattern.matchAt? c = some m) :
    Cursor.headIsWord c.before = false ∧
      ∃ (kw : TypeKeyword) (x : Char) (rest : List Char),
        c.rest = kw.text.toList ++ x :: rest ∧ isBlank x = true := by
  obtain ⟨_, _, ⟨_, _, ⟨_, _, ⟨e, _, ⟨e', _, ⟨hplace, he', _⟩, ⟨_, hkeyword, _⟩⟩,
    ⟨e'', _, ⟨x, hx, hrest, _⟩, _⟩⟩, _⟩, _⟩, _⟩ := way_of_matchAt? h
  obtain ⟨kw, hkw⟩ : ∃ kw : TypeKeyword, c.rest = kw.text.toList ++ e.rest := by
    rw [← he']
    rcases hkeyword with hlit | hlit
    · exact ⟨.classWord, rest_of_way_literal hlit⟩
    · exact ⟨.structWord, rest_of_way_literal hlit⟩
  refine ⟨?_, kw, x, e''.rest, by rw [hkw, hrest], hx⟩
  change Cursor.isWordBoundary c = true at hplace
  rw [Cursor.isWordBoundary, hkw, headIsWord_keyword] at hplace
  simpa using hplace

/-- No type begins in front of a character that belongs to no word. -/
theorem matchAt?_typePattern_of_not_word {c : Cursor} {x : Char} {rest : List Char}
    (hrest : c.rest = x :: rest) (hx : isWordChar x = false) : typePattern.matchAt? c = none := by
  rcases hm : typePattern.matchAt? c with _ | m
  · rfl
  · obtain ⟨-, kw, y, rest', hkw, -⟩ := exists_keyword_of_matchAt? hm
    have hword := headIsWord_keyword kw (y :: rest')
    rw [← hkw, hrest] at hword
    simp [Cursor.headIsWord, hx] at hword

/-- No type begins in a text without the words for it that ends in front of another character. -/
theorem matchAt?_typePattern_of_typeFree {pre s post : List Char} {x : Char} (hs : TypeFree s)
    (hx : isWordChar x = false) {e : Cursor} (hle : Cursor.between pre (s ++ x :: post) ≤ e)
    (hlt : e < Cursor.between (pre ++ s) (x :: post)) : typePattern.matchAt? e = none := by
  rcases hm : typePattern.matchAt? e with _ | m
  · rfl
  · obtain ⟨hbefore, kw, y, rest, hkw, hy⟩ := exists_keyword_of_matchAt? hm
    obtain ⟨u, v, rfl, hv, rfl⟩ := Cursor.exists_append_of_le_of_lt hle hlt
    rw [Cursor.before_between, List.reverse_append] at hbefore
    have hu : Cursor.headIsWord u.reverse = false := by
      cases hrev : u.reverse with
      | nil => rfl
      | cons z u' =>
        rw [hrev] at hbefore
        exact hbefore
    rw [Cursor.rest_between] at hkw
    exact absurd (Text.mem_runs_of_start hu (fun z hz => isWordChar_of_mem_keyword hz) hx
      (isWordChar_of_isBlank hy) hkw) (hs kw)

/-- No type begins in a stretch without blanks, if what follows is neither a blank nor a part of a
word. -/
theorem matchAt?_typePattern_of_not_blank {pre s post : List Char} {x : Char}
    (hs : ∀ z ∈ s, isBlank z = false) (hx : isBlank x = false) (hword : isWordChar x = false)
    {e : Cursor} (hle : Cursor.between pre (s ++ x :: post) ≤ e)
    (hlt : e < Cursor.between (pre ++ s) (x :: post)) : typePattern.matchAt? e = none := by
  rcases hm : typePattern.matchAt? e with _ | m
  · rfl
  · obtain ⟨-, kw, y, rest, hkw, hy⟩ := exists_keyword_of_matchAt? hm
    obtain ⟨u, v, rfl, -, rfl⟩ := Cursor.exists_append_of_le_of_lt hle hlt
    rw [Cursor.rest_between] at hkw
    -- the blank behind the keyword would come before the end of the stretch, or the keyword after
    rcases List.append_eq_append_iff.mp hkw with ⟨w, hv, hrest⟩ | ⟨w, hv, hrest⟩
    · cases w with
      | nil =>
        obtain ⟨rfl, -⟩ := List.cons.inj hrest
        simp [hx] at hy
      | cons z w =>
        obtain ⟨rfl, -⟩ := List.cons.inj hrest
        have hz : isWordChar x = true := @isWordChar_of_mem_keyword kw x (by simp [hv])
        simp [hword] at hz
    · cases w with
      | nil =>
        obtain ⟨rfl, -⟩ := List.cons.inj hrest
        simp [hx] at hy
      | cons z w =>
        obtain ⟨rfl, -⟩ := List.cons.inj hrest
        have hz := hs y (by simp [hv])
        simp [hz] at hy

/-! ### In front of the head of a type -/

section Run

variable {pre post : List Char} {g : Captures} {k : Cursor → Captures → Option MatchEnd}
  {o : MatchEnd}

theorem run_namePattern (n : PlainName) (hpost : ∀ x rest, post = x :: rest → isWordChar x = false)
    (hk : k (Cursor.between (pre ++ n.text) post) g = some o) :
    namePattern.run (Cursor.between pre (n.text ++ post)) g k = some o :=
  run_one_many_of_some n.first_ok (fun x hx => isWordChar_of_isNameChar (n.others_ok x hx)) hpost hk

theorem run_keyword (kw : TypeKeyword)
    (hk : k (Cursor.between (pre ++ kw.text.toList) post) g = some o) :
    (lit "class" <|> lit "struct").run (Cursor.between pre (kw.text.toList ++ post)) g k =
      some o := by
  cases kw with
  | classWord =>
    apply run_either_of_some
    have hlit : lit "class" = literal TypeKeyword.classWord.text.toList := rfl
    rw [hlit, run_literal_between]
    exact hk
  | structWord =>
    have hnone : ∀ d f, ¬ (lit "class").Way
        (Cursor.between pre (TypeKeyword.structWord.text.toList ++ post)) g d f :=
      fun d f => @not_way_literal g pre ("truct".toList ++ post) "lass".toList 'c' 's' (by decide) d f
    have hlit : lit "struct" = literal TypeKeyword.structWord.text.toList := rfl
    rw [run_either_of_none (run_eq_none_of_way hnone), hlit, run_literal_between]
    exact hk

/-- No word `final` stands behind the name. -/
theorem run_optional_final {x : Char} (hx : isBlank x = false) (hne : x ≠ 'f') :
    (optional (oneOrMore isBlank ++ lit "final")).run (Cursor.between pre (' ' :: x :: post)) g k =
      k (Cursor.between pre (' ' :: x :: post)) g := by
  refine run_optional_of_none (run_eq_none_of_way fun d f => ?_)
  exact @not_way_over_literal g isBlank (oneOrMore isBlank) ⟨fun _ h => h, fun _ h => h⟩ pre [' ']
    post "inal".toList 'f' x (List.forall_mem_singleton.mpr rfl) (by decide) hx hne d f

/-- No list of bases stands in front of the brace. -/
theorem run_optional_bases_none :
    (optional (many isBlank ++ lit ":" ++ many isBlank ++ capture 3 baseListPattern)).run
        (Cursor.between pre (' ' :: '{' :: post)) g k =
      k (Cursor.between pre (' ' :: '{' :: post)) g := by
  refine run_optional_of_none (run_eq_none_of_way fun d f => ?_)
  refine not_way_seq fun d f => not_way_seq fun d f => ?_
  exact @not_way_over_literal g isBlank (many isBlank) (fun _ h => h) pre [' '] post [] ':' '{'
    (List.forall_mem_singleton.mpr rfl) (by decide) (by decide) (by decide) d f

/-- A list of bases is taken up to the brace. -/
theorem run_optional_bases {bases : List Base} (hne : bases ≠ [])
    (hk : k (Cursor.between (pre ++ [' '] ++ [':'] ++ [' '] ++ baseListText bases) ('{' :: post))
      ((3, Cursor.between (pre ++ [' '] ++ [':'] ++ [' ']) (baseListText bases ++ '{' :: post),
        Cursor.between (pre ++ [' '] ++ [':'] ++ [' '] ++ baseListText bases) ('{' :: post)) :: g) =
          some o) :
    (optional (many isBlank ++ lit ":" ++ many isBlank ++ capture 3 baseListPattern)).run
        (Cursor.between pre (' ' :: ':' :: ' ' :: (baseListText bases ++ '{' :: post))) g k =
      some o := by
  apply run_optional_of_some
  rw [run_seq, run_seq, run_seq]
  obtain ⟨colons, x, s, htext, hcolons, hx⟩ := exists_baseListText_eq hne
  have hfirst : ∀ y rest, baseListText bases ++ '{' :: post = y :: rest → isBlank y = false := by
    rw [htext]
    rcases hcolons with rfl | rfl
    · exact Text.forall_head (isBlank_of_isNameChar hx)
    · exact Text.forall_head (by decide)
  have hlit : lit ":" = literal [':'] := rfl
  refine @run_many_of_some g _ o isBlank pre [' '] _ (List.forall_mem_singleton.mpr rfl)
    (Text.forall_head (by decide)) ?_
  rw [hlit]
  refine (@run_literal_between g _ (pre ++ [' ']) [':'] _).trans ?_
  refine @run_many_of_some g _ o isBlank (pre ++ [' '] ++ [':']) [' '] _
    (List.forall_mem_singleton.mpr rfl) hfirst ?_
  rw [run_capture]
  exact run_baseListPattern hne hk

/-- What a keyword and a name behind it capture behind the text `pre`. -/
def headCaptures (kw : TypeKeyword) (name pre post : List Char) : Captures :=
  [(2, Cursor.between (pre ++ kw.text.toList ++ [' ']) (name ++ post),
      Cursor.between (pre ++ kw.text.toList ++ [' '] ++ name) post),
    (1, Cursor.between pre (kw.text.toList ++ ' ' :: (name ++ post)),
      Cursor.between (pre ++ kw.text.toList) (' ' :: (name ++ post)))]

/-- The keyword, the blank behind it and a name are taken first. -/
theorem run_typePattern_name (kw : TypeKeyword) {x : Char} {s : List Char}
    (hx : isNameStart x = true) (hs : ∀ y ∈ s, isWordChar y = true)
    (hpre : Cursor.headIsWord pre.reverse = false)
    (hpost : ∀ x rest, post = x :: rest → isWordChar x = false)
    (hk : (optional (oneOrMore isBlank ++ lit "final")).run
        (Cursor.between (pre ++ kw.text.toList ++ [' '] ++ x :: s) post)
        (headCaptures kw (x :: s) pre post)
        (fun c g =>
          (optional (many isBlank ++ lit ":" ++ many isBlank ++ capture 3 baseListPattern)).run c g
            k) = some o) :
    typePattern.run (Cursor.between pre (kw.text.toList ++ ' ' :: (x :: s ++ post))) [] k =
      some o := by
  have hplace : Cursor.isWordBoundary
      (Cursor.between pre (kw.text.toList ++ ' ' :: (x :: s ++ post))) = true := by
    rw [Cursor.isWordBoundary, Cursor.before_between, Cursor.rest_between, hpre, headIsWord_keyword]
    rfl
  have hname : ∀ y rest, x :: s ++ post = y :: rest → isBlank y = false :=
    Text.forall_head (isBlank_of_isNameChar (isNameChar_of_isNameStart hx))
  rw [typePattern, run_seq, run_seq, run_seq, run_seq, run_seq, wordBoundary, run_place,
    if_pos hplace, run_capture]
  apply run_keyword
  apply run_oneOrMore_of_some (by decide) hname
  rw [run_capture]
  exact run_one_many_of_some hx hs hpost hk

/-- What the keyword and the name capture behind the text `pre`. -/
def TypeHead.nameCaptures (t : TypeHead) (pre post : List Char) : Captures :=
  [(2, Cursor.between (pre ++ t.keyword.text.toList ++ [' ']) (t.name.text ++ post),
      Cursor.between (pre ++ t.keyword.text.toList ++ [' '] ++ t.name.text) post),
    (1, Cursor.between pre (t.keyword.text.toList ++ ' ' :: (t.name.text ++ post)),
      Cursor.between (pre ++ t.keyword.text.toList) (' ' :: (t.name.text ++ post)))]

theorem run_typePattern (t : TypeHead) (hpre : Cursor.headIsWord pre.reverse = false)
    (hpost : ∀ x rest, post = x :: rest → isWordChar x = false)
    (hk : (optional (oneOrMore isBlank ++ lit "final")).run
        (Cursor.between (pre ++ t.keyword.text.toList ++ [' '] ++ t.name.text) post)
        (t.nameCaptures pre post)
        (fun c g =>
          (optional (many isBlank ++ lit ":" ++ many isBlank ++ capture 3 baseListPattern)).run c g
            k) = some o) :
    typePattern.run (Cursor.between pre (t.keyword.text.toList ++ ' ' :: (t.name.text ++ post))) [] k =
      some o :=
  run_typePattern_name t.keyword t.name.first_ok
    (fun x hx => isWordChar_of_isNameChar (t.name.others_ok x hx)) hpre hpost hk

end Run

/-- **The pattern takes a mention of a type**, a keyword and a name in front of a semicolon. -/
theorem exists_matchAt?_mention (t : TypeHead) {pre : List Char} (post : List Char)
    (hpre : Cursor.headIsWord pre.reverse = false) :
    ∃ m, typePattern.matchAt?
        (Cursor.between pre (t.keyword.text.toList ++ ' ' :: (t.name.text ++ ';' :: post))) = some m ∧
      m.start = Cursor.between pre (t.keyword.text.toList ++ ' ' :: (t.name.text ++ ';' :: post)) ∧
      m.stop = Cursor.between (pre ++ t.keyword.text.toList ++ [' '] ++ t.name.text) (';' :: post) := by
  have hfinal : ∀ (pre : List Char) (g : Captures) (k : Cursor → Captures → Option MatchEnd),
      (oneOrMore isBlank ++ lit "final").run (Cursor.between pre (';' :: post)) g k = none := by
    intro pre g k
    rw [run_seq, oneOrMore, run_seq]
    exact run_one_of_ne (by decide)
  have hbases : ∀ (pre : List Char) (g : Captures) (k : Cursor → Captures → Option MatchEnd),
      (many isBlank ++ lit ":" ++ many isBlank ++ capture 3 baseListPattern).run
        (Cursor.between pre (';' :: post)) g k = none := by
    intro pre g k
    refine run_eq_none_of_way fun d f => not_way_seq fun d f => not_way_seq fun d f => ?_
    exact @not_way_over_literal g isBlank (many isBlank) (fun _ h => h) pre [] post [] ':' ';'
      (by simp) (by decide) (by decide) (by decide) d f
  have hrun : typePattern.run
      (Cursor.between pre (t.keyword.text.toList ++ ' ' :: (t.name.text ++ ';' :: post))) []
      (fun d g => some (d, g)) =
        some (Cursor.between (pre ++ t.keyword.text.toList ++ [' '] ++ t.name.text) (';' :: post),
          t.nameCaptures pre (';' :: post)) := by
    refine run_typePattern t hpre (Text.forall_head (by decide)) ?_
    rw [run_optional_of_none (hfinal _ _ _), run_optional_of_none (hbases _ _ _)]
  exact ⟨_, matchAt?_of_run hrun, rfl, rfl⟩

/-- The match that the head of a type has behind the text `pre`: what it captures, and that it ends
at the brace or in front of a blank before it. -/
structure TypeHead.IsMatch (t : TypeHead) (pre post : List Char) (m : Match) : Prop where
  start_eq : m.start = Cursor.between pre (t.text ++ '{' :: post)
  keyword_eq : m.captured? 1 = some t.keyword.text.toList
  name_eq : m.captured? 2 = some t.name.text
  bases_eq : ((m.captured? 3).map parseBases).getD [] = t.bases.map fun b => String.ofList b.path
  stop_eq : ∃ s back, t.text = s ++ back ∧ s ≠ [] ∧ (∀ x ∈ back, x = ' ') ∧
    m.stop = Cursor.between (pre ++ s) (back ++ '{' :: post)

theorem TypeHead.text_of_nil {t : TypeHead} (h : t.bases = []) :
    t.text = t.keyword.text.toList ++ ' ' :: (t.name.text ++ [' ']) := by
  simp [text, h]

theorem TypeHead.text_of_ne_nil {t : TypeHead} (h : t.bases ≠ []) :
    t.text = t.keyword.text.toList ++ ' ' :: (t.name.text ++
      ' ' :: ':' :: ' ' :: baseListText t.bases) := by
  simp [text, h]

/-- **The pattern takes the head of a type**: the keyword, the name and the bases. -/
theorem exists_matchAt?_typeHead (t : TypeHead) {pre : List Char} (post : List Char)
    (hpre : Cursor.headIsWord pre.reverse = false) :
    ∃ m, typePattern.matchAt? (Cursor.between pre (t.text ++ '{' :: post)) = some m ∧
      t.IsMatch pre post m := by
  -- without bases the match ends behind the name, and with bases at the brace
  by_cases hbases : t.bases = []
  · have hsplit : t.text ++ '{' :: post =
        t.keyword.text.toList ++ ' ' :: (t.name.text ++ ' ' :: '{' :: post) := by
      simp [t.text_of_nil hbases]
    have hrun : typePattern.run (Cursor.between pre (t.text ++ '{' :: post)) []
        (fun d g => some (d, g)) =
          some (Cursor.between (pre ++ t.keyword.text.toList ++ [' '] ++ t.name.text)
            (' ' :: '{' :: post), t.nameCaptures pre (' ' :: '{' :: post)) := by
      rw [hsplit]
      apply run_typePattern t hpre (Text.forall_head (by decide))
      rw [run_optional_final (by decide) (by decide), run_optional_bases_none]
    refine ⟨_, matchAt?_of_run hrun, ⟨rfl, ?_, ?_, ?_, ?_⟩⟩
    · exact congrArg some (Cursor.upTo_between _ _ _)
    · exact congrArg some (Cursor.upTo_between _ _ _)
    · rw [hbases]
      rfl
    · refine ⟨t.keyword.text.toList ++ ' ' :: t.name.text, [' '], ?_, by simp, by simp, ?_⟩
      · simp [t.text_of_nil hbases]
      · simp
  · have hsplit : t.text ++ '{' :: post = t.keyword.text.toList ++
        ' ' :: (t.name.text ++ ' ' :: ':' :: ' ' :: (baseListText t.bases ++ '{' :: post)) := by
      simp [t.text_of_ne_nil hbases]
    have hstop : pre ++ t.keyword.text.toList ++ [' '] ++ t.name.text ++ [' '] ++ [':'] ++ [' '] ++
        baseListText t.bases = pre ++ t.text := by
      simp [t.text_of_ne_nil hbases]
    have hrun : typePattern.run (Cursor.between pre (t.text ++ '{' :: post)) []
        (fun d g => some (d, g)) =
          some (Cursor.between (pre ++ t.text) ('{' :: post),
            (3, Cursor.between (pre ++ t.keyword.text.toList ++ [' '] ++ t.name.text ++ [' '] ++
                [':'] ++ [' ']) (baseListText t.bases ++ '{' :: post),
              Cursor.between (pre ++ t.keyword.text.toList ++ [' '] ++ t.name.text ++ [' '] ++
                [':'] ++ [' '] ++ baseListText t.bases) ('{' :: post)) ::
              t.nameCaptures pre (' ' :: ':' :: ' ' :: (baseListText t.bases ++ '{' :: post))) := by
      rw [hsplit]
      apply run_typePattern t hpre (Text.forall_head (by decide))
      rw [run_optional_final (by decide) (by decide)]
      refine run_optional_bases hbases ?_
      rw [hstop]
    refine ⟨_, matchAt?_of_run hrun, ⟨rfl, ?_, ?_, ?_, ?_⟩⟩
    · exact congrArg some (Cursor.upTo_between _ _ _)
    · exact congrArg some (Cursor.upTo_between _ _ _)
    · rw [captured?_cons, Option.map_some, Option.getD_some, parseBases_baseListText hbases]
    · exact ⟨t.text, [], by simp, by simp [t.text_of_ne_nil hbases], by simp, rfl⟩

namespace TypeHead.IsMatch

variable {t : TypeHead} {pre post : List Char} {m : Match}

theorem start_lt_stop (hm : t.IsMatch pre post m) : m.start < m.stop := by
  obtain ⟨s, back, htext, hs, -, hstop⟩ := hm.stop_eq
  rw [hm.start_eq, hstop, htext, List.append_assoc]
  exact Cursor.between_lt_between _ _ hs

/-- The brace behind the head comes next after the match, but for a blank. -/
theorem skipWhile_stop (hm : t.IsMatch pre post m) :
    m.stop.skipWhile isAsciiBlank = Cursor.between (pre ++ t.text) ('{' :: post) := by
  obtain ⟨s, back, htext, -, hback, hstop⟩ := hm.stop_eq
  have hblank : ∀ x ∈ back, isAsciiBlank x = true := by
    intro x hx
    rw [hback x hx]
    decide
  rw [hstop, Cursor.skipWhile_between _ _ hblank (Text.forall_head (by decide)), htext,
    List.append_assoc _ s back]

end TypeHead.IsMatch
end HeaderSurvey
