import HeaderSurvey.Proofs.Declaration.RoutineLine
import HeaderSurvey.Proofs.Pattern.Seam

/-!
# The patterns of declarations are local

Neither `typePattern` nor `routinePattern` takes a semicolon, except in a comment or in a template
head, and what they ask of their neighbours is decided by one character.  So in front of more text a
`SelfContained` text hides the seam from both, and behind one they see the start of a line
(`isLocal_typePattern`, `isLocal_routinePattern`).
-/

namespace HeaderSurvey

open Pattern

/-! ### Patterns over characters that may be passed over -/

namespace Frame

variable {F : Frame} {p q : Pattern}

theorem Suits.seq (hp : F.Suits p) (hq : F.Suits q) : F.Suits (p ++ q) :=
  ⟨hp, Or.inl hq⟩

/-- Behind a part without a way anything may follow. -/
theorem Suits.seq_of_avoids (hp : F.Suits p) (hnot : F.Avoids p) (q : Pattern) :
    F.Suits (p ++ q) :=
  ⟨hp, Or.inr hnot⟩

theorem Suits.either (hp : F.Suits p) (hq : F.Suits q) : F.Suits (p <|> q) :=
  ⟨hp, hq⟩

theorem Suits.optional (hp : F.Suits p) : F.Suits (Pattern.optional p) :=
  ⟨hp, fun _ hx => absurd hx List.not_mem_nil⟩

theorem Avoids.seq (hp : F.Avoids p) (q : Pattern) : F.Avoids (p ++ q) :=
  fun c g _ _ hc => not_way_seq fun d f => hp c g d f hc

/-- Every character but the semicolon may be passed over. -/
def PassesOthers (F : Frame) : Prop :=
  ∀ x, x ≠ ';' → F.Passes x

namespace PassesOthers

variable (h : F.PassesOthers)
include h

theorem suits_lit {s : String} (hs : s.toList.contains ';' = false) : F.Suits (lit s) := by
  intro x hx
  refine h x ?_
  rintro rfl
  rw [List.contains_iff_mem.mpr hx] at hs
  exact absurd hs (by decide)

theorem suits_one {p : Char → Bool} (hp : p ';' = false) : F.Suits (one p) := by
  intro x hx
  refine h x ?_
  rintro rfl
  rw [hp] at hx
  exact absurd hx (by decide)

theorem suits_many {p : Char → Bool} (hp : p ';' = false) : F.Suits (many p) :=
  suits_one h hp

theorem suits_oneOrMore {p : Char → Bool} (hp : p ';' = false) : F.Suits (oneOrMore p) :=
  Suits.seq (suits_one h hp) (suits_many h hp)

theorem suits_gap : F.Suits gap :=
  h.suits_many (by decide)

theorem suits_namePattern : F.Suits namePattern :=
  (h.suits_one (by decide)).seq (h.suits_many (by decide))

/-! ### The two patterns -/

theorem suits_baseListPattern (hcomment : F.Suits commentPattern) : F.Suits baseListPattern := by
  have hcolons : F.Suits (Pattern.optional (lit "::")) := (h.suits_lit (by decide)).optional
  have hfirst : F.Suits (one (!":\x7b\x7d;/".toList.contains ·) <|> commentPattern) :=
    (h.suits_one (by decide)).either hcomment
  have hnext : F.Suits (one (!"\x7b\x7d;/".toList.contains ·) <|> commentPattern) :=
    (h.suits_one (by decide)).either hcomment
  exact (hcolons.seq hfirst).seq ⟨hnext, rfl⟩

theorem suits_typePattern (hcomment : F.Suits commentPattern) (hboundary : F.Suits wordBoundary) :
    F.Suits typePattern := by
  have hkeyword : F.Suits (capture 1 (lit "class" <|> lit "struct")) :=
    (h.suits_lit (by decide)).either (h.suits_lit (by decide))
  have hblanks : F.Suits (oneOrMore isBlank) := h.suits_oneOrMore (by decide)
  have hname : F.Suits (capture 2 namePattern) := h.suits_namePattern
  have hfinal : F.Suits (Pattern.optional (oneOrMore isBlank ++ lit "final")) :=
    (hblanks.seq (h.suits_lit (by decide))).optional
  have hgap : F.Suits (many isBlank) := h.suits_many (by decide)
  have hcolon : F.Suits (lit ":") := h.suits_lit (by decide)
  have hlist : F.Suits (capture 3 baseListPattern) := h.suits_baseListPattern hcomment
  exact ((((hboundary.seq hkeyword).seq hblanks).seq hname).seq hfinal).seq
    (((hgap.seq hcolon).seq hgap).seq hlist).optional

theorem suits_specifierPattern (htemplate : F.Suits templatePattern) :
    F.Suits specifierPattern := by
  have hword : ∀ {s : String}, s.toList.contains ';' = false → F.Suits (lit s) := h.suits_lit
  have haccess : F.Suits accessPattern :=
    ((((hword (by decide)).either ((hword (by decide)).either (hword (by decide)))).seq
      h.suits_gap).seq (hword (by decide))).seq h.suits_gap
  have hwords : F.Suits (lit "inline" <|> lit "constexpr" <|> lit "static" <|> lit "virtual" <|>
      lit "explicit" <|> lit "extern" <|> lit "friend") :=
    (hword (by decide)).either <| (hword (by decide)).either <| (hword (by decide)).either <|
      (hword (by decide)).either <| (hword (by decide)).either <|
        (hword (by decide)).either (hword (by decide))
  have hstar : F.Suits specifierWordsPattern :=
    ⟨hwords.seq (h.suits_oneOrMore (by decide)), rfl⟩
  rw [specifierPattern_eq]
  exact (haccess.optional.seq htemplate.optional).seq hstar

theorem suits_returnTypePattern : F.Suits returnTypePattern := by
  have hmore : F.Suits (lazyStar (oneOrMore isSpaceOrTab ++
      oneOrMore (fun c => isWordChar c || ":<>,*&".toList.contains c))) :=
    ⟨(h.suits_oneOrMore (by decide)).seq (h.suits_oneOrMore (by decide)), rfl⟩
  exact ((h.suits_one (by decide)).seq (h.suits_many (by decide))).seq hmore

theorem suits_qualifierPattern : F.Suits qualifierPattern := by
  have hword : ∀ {s : String}, s.toList.contains ';' = false →
      F.Suits (Pattern.optional (lit s ++ gap)) :=
    fun hs => ((h.suits_lit hs).seq h.suits_gap).optional
  have hvalue : F.Suits (lit "0" <|> lit "default" <|> lit "delete") :=
    (h.suits_lit (by decide)).either ((h.suits_lit (by decide)).either (h.suits_lit (by decide)))
  have hequals : F.Suits (Pattern.optional
      (lit "=" ++ gap ++ (lit "0" <|> lit "default" <|> lit "delete") ++ gap)) :=
    ((((h.suits_lit (by decide)).seq h.suits_gap).seq hvalue).seq h.suits_gap).optional
  exact ((((h.suits_gap.seq (hword (by decide))).seq (hword (by decide))).seq
    (hword (by decide))).seq (hword (by decide))).seq hequals

theorem suits_routinePattern (htemplate : F.Suits templatePattern) (hline : F.Suits lineStart) :
    F.Suits routinePattern := by
  have hreturn : F.Suits (capture 1 returnTypePattern) := h.suits_returnTypePattern
  have hmarks : F.Suits (capture 2 (oneOrMore fun c => isSpaceOrTab c || c = '*' || c = '&')) :=
    h.suits_oneOrMore (by decide)
  have hname : F.Suits (capture 3 namePattern) := h.suits_namePattern
  have hopen : F.Suits (lit "(") := h.suits_lit (by decide)
  have hparams : F.Suits (capture 4 (many (!";\x7b\x7d".toList.contains ·))) :=
    h.suits_many (by decide)
  have hclose : F.Suits (lit ")") := h.suits_lit (by decide)
  exact (((((((((hline.seq h.suits_gap).seq (h.suits_specifierPattern htemplate)).seq
    hreturn).seq hmarks).seq hname).seq h.suits_gap).seq hopen).seq hparams).seq hclose).seq
      h.suits_qualifierPattern

end PassesOthers

/-! ### Behind a text that ends a line -/

theorem passesOthers_behind (pre : List Char) : (behind pre).PassesOthers :=
  fun _ _ => trivial

variable {pre : List Char}

theorem suits_lineStart_behind (hpre : SelfContained pre) : (behind pre).Suits lineStart := by
  obtain ⟨front, hfront⟩ := hpre.exists_reverse_eq
  rintro ⟨before, rest⟩ -
  rw [place_behind, hfront]
  cases before <;> rfl

theorem suits_wordBoundary_behind (hpre : SelfContained pre) :
    (behind pre).Suits wordBoundary := by
  obtain ⟨front, hfront⟩ := hpre.exists_reverse_eq
  rintro ⟨before, rest⟩ -
  rw [place_behind, hfront]
  cases before <;> rfl

theorem suits_commentPattern_behind (pre : List Char) : (behind pre).Suits commentPattern := by
  have hlit : ∀ s, (behind pre).Suits (lit s) := fun _ _ _ => trivial
  have hline : (behind pre).Suits (lit "//" ++ many (· ≠ '\n')) :=
    (hlit "//").seq fun _ _ => trivial
  have hblock : (behind pre).Suits (lit "/*" ++ lazyStar (one fun _ => true)) :=
    (hlit "/*").seq ⟨fun _ _ => trivial, rfl⟩
  exact hline.either (hblock.seq (hlit "*/"))

theorem suits_templatePattern_behind (pre : List Char) :
    (behind pre).Suits templatePattern := by
  have hlit : ∀ s, (behind pre).Suits (lit s) := fun _ _ _ => trivial
  have hclass : ∀ p, (behind pre).Suits (many p) := fun _ _ _ => trivial
  exact (((((hlit "template").seq (hclass _)).seq (hlit "<")).seq (hclass _)).seq (hlit ">")).seq
    (hclass _)

/-! ### In front of a text -/

theorem passesOthers_inFront (post : List Char) : (inFront post).PassesOthers :=
  fun _ hx => hx

theorem suits_lineStart_inFront (post : List Char) : (inFront post).Suits lineStart := by
  intro c _
  rw [place_inFront]
  rfl

theorem suits_wordBoundary_inFront (post : List Char) : (inFront post).Suits wordBoundary := by
  rintro ⟨before, rest⟩ hc
  rw [place_inFront]
  cases rest with
  | nil => exact absurd hc SelfContained.not_nil
  | cons x rest => rfl

/-- Without a slash no comment begins. -/
theorem suits_commentPattern_inFront (post : List Char) :
    (inFront post).Suits commentPattern := by
  have hnot : ∀ {s : String}, '/' ∈ s.toList → (inFront post).Avoids (lit s) := by
    intro s hs c g d f hc hw
    refine SelfContained.no_slash hc ?_
    rw [rest_of_way_literal hw]
    exact List.mem_append_left _ hs
  have h := passesOthers_inFront post
  have hline : (inFront post).Suits (lit "//" ++ many (· ≠ '\n')) :=
    (h.suits_lit (by decide)).seq_of_avoids (hnot (by decide)) _
  have hblock : (inFront post).Suits (lit "/*" ++ lazyStar (one fun _ => true)) :=
    (h.suits_lit (by decide)).seq_of_avoids (hnot (by decide)) _
  exact hline.either (hblock.seq (h.suits_lit (by decide)))

/-- Without the word for it no template head begins. -/
theorem suits_templatePattern_inFront (post : List Char) :
    (inFront post).Suits templatePattern := by
  have hnot : (inFront post).Avoids (lit "template") := by
    intro c g d f hc hw
    refine SelfContained.no_template hc ⟨[], d.rest, ?_⟩
    exact (rest_of_way_literal hw).symm
  have h := passesOthers_inFront post
  have hhead : (inFront post).Suits (lit "template" ++ gap ++ lit "<") :=
    ((h.suits_lit (by decide)).seq h.suits_gap).seq (h.suits_lit (by decide))
  have hparams : (inFront post).Suits (lit "template" ++ gap ++ lit "<" ++ many (· ≠ '>')) :=
    hhead.seq_of_avoids ((hnot.seq gap).seq (lit "<")) _
  exact (hparams.seq (h.suits_lit (by decide))).seq (h.suits_many (by decide))

end Frame

/-! ### Both patterns are local -/

open HeaderSurvey.Frame

/-- **The pattern of the types is local.** -/
theorem isLocal_typePattern : typePattern.IsLocal where
  advances := rfl
  behind hpre := (passesOthers_behind _).suits_typePattern (suits_commentPattern_behind _)
    (suits_wordBoundary_behind hpre)
  inFront post := (passesOthers_inFront post).suits_typePattern (suits_commentPattern_inFront post)
    (suits_wordBoundary_inFront post)
  newline _ _ := matchAt?_typePattern_of_not_word rfl (by decide)

/-- **The pattern of the routines is local.** -/
theorem isLocal_routinePattern : routinePattern.IsLocal where
  advances := rfl
  behind hpre := (passesOthers_behind _).suits_routinePattern (suits_templatePattern_behind _)
    (suits_lineStart_behind hpre)
  inFront post := (passesOthers_inFront post).suits_routinePattern
    (suits_templatePattern_inFront post) (suits_lineStart_inFront post)
  newline _ _ := matchAt?_routinePattern_of_not_lineStart rfl

end HeaderSurvey
