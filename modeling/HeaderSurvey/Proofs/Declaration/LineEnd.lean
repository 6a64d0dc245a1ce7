import HeaderSurvey.Proofs.Declaration.RoutinePieces
import HeaderSurvey.Proofs.Pattern.Found
import HeaderSurvey.Proofs.Pattern.Stretches

/-!
# Where the line of a prototype ends

The pattern of the routines takes parameters as long as it can, and behind them what it can of the
qualifiers.  So a match ends where the last closing parenthesis says in front of the next semicolon
or brace (`EndsAt`), wherever the match has begun: two matches that begin in front of the same such
stretch end at the same place (`EndsAt.stop_eq_stop`).

A match may go over several lines.  A line on which it goes on begins in the template head
(`InTemplateHead`), or behind it, and then no semicolon and no brace stands between the start of
this line and the end of the parameters (`exists_endsAt`).
-/

namespace HeaderSurvey

open Pattern

/-! ### The pattern up to the parameters -/

/-- What may stand between the parentheses of a prototype. -/
def isParamChar (x : Char) : Bool :=
  !";\x7b\x7d".toList.contains x

/-- The place stands in the head of a template that has not been closed yet. -/
def InTemplateHead (c : Cursor) : Prop :=
  ∃ front blanks inside, c.before.reverse =
      front ++ ("template".toList ++ (blanks ++ '<' :: inside)) ∧
    (∀ x ∈ blanks, isSpaceOrTab x = true) ∧ '>' ∉ inside

/-- Where every angle bracket has been closed, no template head is open. -/
theorem not_inTemplateHead {c : Cursor} (h : '<' ∉ c.before.takeWhile (· ≠ '>')) :
    ¬ InTemplateHead c := by
  rintro ⟨front, blanks, inside, hbefore, -, hinside⟩
  have hreverse := congrArg List.reverse hbefore
  simp only [List.reverse_reverse, List.reverse_append, List.reverse_cons, List.append_assoc,
    List.singleton_append] at hreverse
  have hpass : ∀ x ∈ inside.reverse, decide (x ≠ '>') = true := fun x hx =>
    decide_eq_true (ne_of_mem_of_not_mem (List.mem_reverse.mp hx) hinside)
  refine h ?_
  rw [hreverse, List.takeWhile_append_of_pos hpass, List.cons_append,
    List.takeWhile_cons_of_pos (by decide)]
  simp

/-- From the specifiers to the opening parenthesis. -/
def routineNamePattern : Pattern :=
  specifierWordsPattern ++ (capture 1 returnTypePattern ++
    (capture 2 (oneOrMore fun c => isSpaceOrTab c || c = '*' || c = '&') ++
      (capture 3 namePattern ++ (gap ++ lit "("))))

theorem isParamChar_of_class {p : Char → Bool} (hp : ∀ y ∈ ";\x7b\x7d".toList, p y = false)
    {x : Char} (hx : p x = true) : isParamChar x = true := by
  rw [isParamChar, Bool.not_eq_true', ← Bool.not_eq_true, List.contains_iff_mem]
  exact Text.notMem_of_class hp hx

theorem isParamChar_of_isHeadChar {x : Char} (h : isHeadChar x = true) : isParamChar x = true := by
  simp only [isHeadChar, Bool.and_eq_true, decide_eq_true_eq] at h
  simp [isParamChar, h]

theorem over_routineNamePattern : routineNamePattern.Over (isParamChar · = true) := by
  have hhead : ∀ {p : Pattern}, p.Over (isHeadChar · = true) → p.Over (isParamChar · = true) :=
    fun hp => hp.mono fun x hx => isParamChar_of_isHeadChar hx
  have hmark : ∀ x, (isSpaceOrTab x || decide (x = '*') || decide (x = '&')) = true →
      isHeadChar x = true := isHeadChar_of_class (by decide)
  exact ⟨hhead over_specifierWordsPattern, hhead over_returnTypePattern, hhead ⟨hmark, hmark⟩,
    hhead over_namePattern, hhead over_gap, List.all_eq_true.mp (by decide)⟩

/-! ### The template head -/

theorem over_gap_line : gap.Over fun x => isHeadChar x = true ∧ x ≠ '\n' := by
  refine fun x hx => ⟨over_gap x hx, ?_⟩
  rintro rfl
  exact absurd hx (by decide)

theorem over_accessPattern : accessPattern.Over fun x => isHeadChar x = true ∧ x ≠ '\n' :=
  ⟨⟨⟨⟨over_lit (by decide), over_lit (by decide), over_lit (by decide)⟩, over_gap_line⟩,
    over_lit (by decide)⟩, over_gap_line⟩

theorem newline_ne_of_over :
    (gap ++ (optional accessPattern ++ (lit "template" ++ gap ++ lit "<"))).Over (· ≠ '\n') := by
  have hgap : gap.Over (· ≠ '\n') := over_gap_line.mono fun x hx => hx.2
  have haccess : accessPattern.Over (· ≠ '\n') := over_accessPattern.mono fun x hx => hx.2
  exact ⟨hgap, haccess.optional, ⟨over_lit (by decide), hgap⟩, over_lit (by decide)⟩

/-- A line that begins in front of the end of a template head begins inside of its brackets, or in
the blanks behind them. -/
theorem exists_of_way_template {c d : Cursor} {g f : Captures}
    (h : (gap ++ (optional accessPattern ++ templatePattern)).Way c g d f) :
    ∃ b, c ≤ b ∧ b ≤ d ∧ (∀ x ∈ b.upTo d, isBlank x = true) ∧
      ∀ e, c < e → e ≤ b → e.isLineStart = true → InTemplateHead e := by
  obtain ⟨t₀, g₀, hgap, t₁, g₁, haccess, b, g₂, ⟨v₁, g₃, ⟨v₀, g₄, hopen, hinside⟩, hclose⟩,
    hblanks⟩ := h
  have hfront : (gap ++ (optional accessPattern ++ (lit "template" ++ gap ++ lit "<"))).Way
      c g v₀ g₄ := ⟨t₀, g₀, hgap, t₁, g₁, haccess, hopen⟩
  obtain ⟨_, htemplate, ⟨_, _, rfl, ⟨_, blanks, rfl, rfl, hgap'⟩, rfl⟩, -⟩ :=
    (way_iff_takes rfl).mp hopen
  have hvb := hclose.le
  refine ⟨b, hfront.le.trans (hinside.le.trans hvb), hblanks.le, hblanks.2.1, ?_⟩
  intro e hlt hle he
  have hnewline := Cursor.newline_mem_upTo hlt he
  have htext : e.text = v₀.text := by
    rw [← Cursor.text_eq_of_le hlt.le, Cursor.text_eq_of_le hfront.le]
  rcases Cursor.lt_or_le_of_text_eq htext.symm with hv₀e | hev₀
  · have hev₁ : e ≤ v₁ := by
      have htext₁ := (Cursor.text_eq_of_le hinside.le).symm.trans htext.symm
      refine (Cursor.lt_or_le_of_text_eq htext₁).resolve_left fun hv₁e => ?_
      have hmem := Cursor.upTo_subset_left hv₁e.le hle (Cursor.newline_mem_upTo hv₁e he)
      have hbracket : (lit ">").Over (· ≠ '\n') := over_lit (by decide)
      exact absurd rfl (hclose.of_mem_upTo hbracket _ hmem)
    refine ⟨t₁.before.reverse, blanks, v₀.upTo e, ?_, hgap', fun hmem => ?_⟩
    · rw [Cursor.before_eq_upTo hv₀e.le, Cursor.before_eq_upTo htemplate.1, htemplate.2]
      simp
    · exact absurd (hinside.2.1 _ (Cursor.upTo_subset_left hv₀e.le hev₁ hmem)) (by decide)
  · -- no newline stands in front of the bracket
    have hmem := Cursor.upTo_subset_left hlt.le hev₀ hnewline
    exact absurd rfl (hfront.of_mem_upTo newline_ne_of_over _ hmem)

/-- Up to the opening parenthesis neither semicolons nor braces are passed over, but in a template
head. -/
theorem exists_of_way_front {c d : Cursor} {f : Captures} (h : routineFrontPattern.Way c [] d f) :
    ∃ b, c ≤ b ∧ b ≤ d ∧ (∀ x ∈ b.upTo d, isParamChar x = true) ∧
      ∀ e, c < e → e ≤ b → e.isLineStart = true → InTemplateHead e := by
  unfold routineFrontPattern at h
  simp only [way_seq_assoc] at h
  obtain ⟨_, _, ⟨-, hc, hg⟩, t₀, g₀, hgap, t₃, g₃, ⟨t₂, g₂, ⟨t₁, g₁, haccess, htemplate⟩, hwords⟩,
    hrest⟩ := h
  rw [hc, hg] at hgap
  have hname : routineNamePattern.Way t₂ g₂ d f := ⟨t₃, g₃, hwords, hrest⟩
  rcases htemplate with htemplate | hnone
  · obtain ⟨b, hcb, hbt, hblanks, hlines⟩ :=
      exists_of_way_template ⟨t₀, g₀, hgap, t₁, g₁, haccess, htemplate⟩
    refine ⟨b, hcb, hbt.trans hname.le, fun x hx => ?_, hlines⟩
    rw [← Cursor.upTo_append hbt hname.le, List.mem_append] at hx
    rcases hx with hx | hx
    · exact isParamChar_of_class (by decide) (hblanks x hx)
    · exact hname.of_mem_upTo over_routineNamePattern x hx
  · -- without a template head the whole stretch is one line
    obtain ⟨hnil, rfl⟩ := way_literal_iff.mp hnone
    obtain rfl := Cursor.leads_nil.mp hnil
    have hway : (gap ++ (optional accessPattern ++ routineNamePattern)).Way c [] d f :=
      ⟨t₀, g₀, hgap, _, _, haccess, hname⟩
    have hover : (gap ++ (optional accessPattern ++ routineNamePattern)).Over
        (isParamChar · = true) := by
      have haccess : accessPattern.Over (isParamChar · = true) :=
        over_accessPattern.mono fun x hx => isParamChar_of_isHeadChar hx.1
      have hgap : gap.Over (isParamChar · = true) :=
        over_gap.mono fun x hx => isParamChar_of_isHeadChar hx
      exact ⟨hgap, haccess.optional, over_routineNamePattern⟩
    exact ⟨c, le_refl c, hway.le, hway.of_mem_upTo hover, fun e hlt hle => absurd hle hlt.not_ge⟩

/-! ### The last parenthesis -/

/-- The place behind the parameters of a match: behind a closing parenthesis, which is the last one
in front of the next semicolon or brace, and what the qualifiers take from there on ends the
match. -/
structure EndsAt (m : Match) (e : Cursor) : Prop where
  le_stop : e ≤ m.stop
  close : ∃ before, e.before = ')' :: before
  last : ∀ f, e < f → (∀ x ∈ e.upTo f, isParamChar x = true) → ∀ before, f.before ≠ ')' :: before
  qualifiers : ∃ g, SameStop (qualifierPattern.run e g fun d g => some (d, g))
    (some (m.stop, m.captures))

/-- No newline and no mark of a list or a block is passed over behind the last parenthesis. -/
theorem EndsAt.isQualifierChar_of_mem {m : Match} {e : Cursor} (h : EndsAt m e) :
    ∀ x ∈ e.upTo m.stop, isQualifierChar x = true := by
  obtain ⟨g, hrun⟩ := h.qualifiers
  rcases hq : qualifierPattern.run e g fun d g => some (d, g) with _ | o
  · rw [hq] at hrun
    exact nomatch hrun
  · obtain ⟨d, f, hway, heq⟩ := exists_way_of_run hq
    obtain rfl := Option.some.inj heq
    rw [hq] at hrun
    have hstop : d = m.stop := Option.some.inj hrun
    exact hstop ▸ hway.of_mem_upTo over_qualifierPattern

/-- The qualifiers can always be left out. -/
theorem exists_run_qualifierPattern (e : Cursor) (g : Captures) :
    ∃ o, qualifierPattern.run e g (fun d g => some (d, g)) = some o := by
  have hgap : gap.Way e g e g := ⟨le_refl e, by simp [Cursor.upTo_self], rfl⟩
  have hnone : ∀ p : Pattern, (optional p).Way e g e g := fun p => Or.inr ⟨rfl, rfl⟩
  have hway : qualifierPattern.Way e g e g :=
    ⟨e, g, ⟨e, g, ⟨e, g, ⟨e, g, ⟨e, g, hgap, hnone _⟩, hnone _⟩, hnone _⟩, hnone _⟩, hnone _⟩
  exact exists_run_of_way rfl hway (k := fun d g => some (d, g)) rfl

/-- **A match of the pattern of the routines ends where its last parenthesis says.**  Only the head
of a template may hold semicolons and braces in front of it, and only there, or behind it, another
line begins. -/
theorem exists_endsAt {c : Cursor} {m : Match} (h : routinePattern.matchAt? c = some m) :
    ∃ b e, c ≤ b ∧ b < e ∧ (∀ x ∈ b.upTo e, isParamChar x = true) ∧ EndsAt m e ∧
      ∀ d, c < d → d ≤ b → d.isLineStart = true → InTemplateHead d := by
  obtain ⟨-, hrun⟩ := matchAt?_eq_some_iff.mp h
  have hfront : routineFrontPattern.run c [] (fun c₇ g₇ => runMany isParamChar
      (fun d => (lit ")").run d ((4, c₇, d) :: g₇) fun e g =>
        qualifierPattern.run e g fun d g => some (d, g)) c₇.before c₇.rest) =
      some (m.stop, m.captures) := hrun
  obtain ⟨c₇, g₇, hway, hmany⟩ := exists_way_of_run hfront
  obtain ⟨b, hcb, hb₇, hplain, hlines⟩ := exists_of_way_front hway
  obtain ⟨d, h₇d, hall, hk, hlongest⟩ := exists_longest_of_runMany hmany
  obtain ⟨e, g₉, hclose, hrun⟩ := exists_way_of_run hk
  obtain ⟨hleads, -⟩ := way_literal_iff.mp hclose
  obtain ⟨hrest, hbefore⟩ := Cursor.leads_singleton.mp hleads
  have hde : d < e := (Cursor.lt_iff_of_le hleads.1).mpr (by rw [hrest]; simp)
  refine ⟨b, e, hcb, (hb₇.trans h₇d).trans_lt hde, fun x hx => ?_,
    ⟨?_, ⟨d.before, hbefore⟩, ?_, g₉, congrArg (Option.map Prod.fst) hrun⟩, hlines⟩
  · rw [← Cursor.upTo_append (hb₇.trans h₇d) hleads.1, ← Cursor.upTo_append hb₇ h₇d, hleads.2,
      List.mem_append, List.mem_append] at hx
    rcases hx with (hx | hx) | hx
    · exact hplain x hx
    · exact hall x hx
    · exact List.all_eq_true.mp (show ")".toList.all isParamChar = true by decide) x hx
  · obtain ⟨_, _, hqualifiers, heq⟩ := exists_way_of_run hrun
    rw [(Prod.mk.inj (Option.some.inj heq)).1] at hqualifiers
    exact hqualifiers.le
  · -- a later parenthesis would have been taken for the last one
    rintro ⟨_, rest⟩ hlt hf before rfl
    have hed := Cursor.le_of_lt_next hlt
    have hlater : (lit ")").run ⟨before, ')' :: rest⟩ ((4, c₇, ⟨before, ')' :: rest⟩) :: g₇)
        (fun e g => qualifierPattern.run e g fun d g => some (d, g)) = none := by
      refine hlongest _ (hde.trans_le hed) fun x hx => ?_
      rw [← Cursor.upTo_append hleads.1 hed, hleads.2, List.mem_append] at hx
      rcases hx with hx | hx
      · exact List.all_eq_true.mp (show ")".toList.all isParamChar = true by decide) x hx
      · exact hf x (Cursor.upTo_subset_left hed (Cursor.le_next before ')' rest) hx)
    obtain ⟨o, ho⟩ := exists_run_qualifierPattern ⟨')' :: before, rest⟩
      ((4, c₇, ⟨before, ')' :: rest⟩) :: g₇)
    rw [show qualifierPattern.run ⟨')' :: before, rest⟩ ((4, c₇, ⟨before, ')' :: rest⟩) :: g₇)
      (fun d g => some (d, g)) = none from hlater] at ho
    exact nomatch ho

/-- **Two matches end at the same place**, if from some place on neither passes over a semicolon or
a brace in front of its last parenthesis. -/
theorem EndsAt.stop_eq_stop {m m' : Match} {c e e' : Cursor} (h : EndsAt m e) (h' : EndsAt m' e')
    (hle : c ≤ e) (hle' : c ≤ e') (hplain : ∀ x ∈ c.upTo e, isParamChar x = true)
    (hplain' : ∀ x ∈ c.upTo e', isParamChar x = true) : m.stop = m'.stop := by
  have htext : e.text = e'.text :=
    (Cursor.text_eq_of_le hle).symm.trans (Cursor.text_eq_of_le hle')
  obtain ⟨before, hbefore⟩ := h.close
  obtain ⟨before', hbefore'⟩ := h'.close
  have hnot : ¬ e < e' := fun hlt =>
    h.last e' hlt (fun x hx => hplain' x (Cursor.upTo_subset_right hle hlt.le hx)) before' hbefore'
  have hnot' : ¬ e' < e := fun hlt =>
    h'.last e hlt (fun x hx => hplain x (Cursor.upTo_subset_right hle' hlt.le hx)) before hbefore
  have hsame : e = e' := by
    rcases Cursor.lt_or_le_of_text_eq htext with hlt | hge
    · exact absurd hlt hnot
    · exact ((eq_or_lt_of_le hge).resolve_right hnot').symm
  subst hsame
  obtain ⟨g, hrun⟩ := h.qualifiers
  obtain ⟨g', hrun'⟩ := h'.qualifiers
  have hplain : qualifierPattern.isPlain = true := rfl
  have hsame : SameStop (qualifierPattern.run e g fun d g => some (d, g))
      (qualifierPattern.run e g' fun d g => some (d, g)) :=
    sameStop_run hplain fun d => rfl
  have hstop : SameStop (some (m.stop, m.captures)) (some (m'.stop, m'.captures)) :=
    hrun.symm.trans (hsame.trans hrun')
  exact Option.some.inj hstop

end HeaderSurvey
