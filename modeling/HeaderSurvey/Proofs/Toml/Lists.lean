import HeaderSurvey.Proofs.Toml.Strings
import Mathlib.Data.List.Forall2

/-!
# How lists of strings are written

A list stands between brackets and may go over several lines, with comments at their ends and a
comma behind the last string.  What is written so is read as a list of just these strings
(`reads_strings`).
-/

namespace HeaderSurvey.Toml

open Reader

variable {post : List Char}

/-! ### Blanks with comments -/

/-- A comment without the end of its line, or nothing. -/
inductive IsComment : List Char → Prop
  | none : IsComment []
  | comment {cs : List Char} : (∀ c ∈ cs, isCommentChar c = true) → IsComment ('#' :: cs)

/-- A line that says nothing: spaces, and perhaps a comment. -/
def IsEmptyLine (l : List Char) : Prop :=
  ∃ g w n, IsGap g ∧ IsComment w ∧ IsNewline n ∧ l = g ++ (w ++ n)

theorem IsEmptyLine.ne_nil {l : List Char} (h : IsEmptyLine l) : l ≠ [] := by
  obtain ⟨g, w, n, -, -, hn, rfl⟩ := h
  exact List.append_ne_nil_of_right_ne_nil g (List.append_ne_nil_of_right_ne_nil w hn.ne_nil)

theorem IsNewline.stops_comment {n s : List Char} (h : IsNewline n) :
    Stops isCommentChar (n ++ s) :=
  h.stops_of (by decide) (by decide)

theorem IsComment.stops_of {p : Char → Bool} {w s : List Char} (h : IsComment w)
    (hhash : p '#' = false) (hs : Stops p s) : Stops p (w ++ s) := by
  cases h with
  | none => exact hs
  | comment _ => exact stops_cons hhash

/-- A class that stops at all that a line without content can begin with stops at such a line. -/
theorem IsEmptyLine.stops_of {p : Char → Bool} {l s : List Char} (h : IsEmptyLine l)
    (hp : ∀ x ∈ [' ', '\t', '#', '\n', '\r'], p x = false) : Stops p (l ++ s) := by
  obtain ⟨g, w, n, hg, hw, hn, rfl⟩ := h
  have hend : Stops p (n ++ s) := hn.stops_of (hp _ (by decide)) (hp _ (by decide))
  rw [List.append_assoc, List.append_assoc]
  exact hg.stops_of (hp _ (by decide)) (hp _ (by decide)) (hw.stops_of (hp _ (by decide)) hend)

theorem reads_comment {cs : List Char} (h : ∀ c ∈ cs, isCommentChar c = true)
    (hpost : Stops isCommentChar post) : Reads comment ('#' :: cs) post fun _ => True :=
  Reads.bind (w := ['#']) reads_text fun _ _ =>
    (reads_takeWhile h hpost).bind_pure fun _ _ => trivial

/-- Behind the spaces of a line there is a comment, or the line ends. -/
theorem IsComment.stops {w n s : List Char} (hw : IsComment w) (hn : IsNewline n) :
    Stops isSpace (w ++ n ++ s) := by
  rw [List.append_assoc]
  exact hw.stops_of (by decide) hn.stops

theorem IsEmptyLine.reads_blanksRound {l : List Char} (h : IsEmptyLine l) :
    Reads blanksRound l post fun t => t.2 = true := by
  obtain ⟨g, w, n, hg, hw, hn, rfl⟩ := h
  refine Reads.bind (hg.reads (hw.stops hn)) fun _ _ => Reads.peek_bind ?_
  have hend : Reads (do newline; return ([], true) : Reader (List Unit × Bool)) n post
      fun t => t.2 = true := hn.reads.bind_pure fun _ _ => rfl
  cases hw with
  | none =>
    rcases hn with rfl | rfl
    · exact hend
    · exact hend
  | comment hcs =>
    exact Reads.bind (f := fun _ => (do newline; return ([], true) : Reader (List Unit × Bool)))
      (reads_comment hcs hn.stops_comment) fun _ _ => hend

/-- A character behind which a line can still say nothing. -/
def isBlankStart (c : Char) : Bool :=
  isBlank c || c = '#'

theorem IsGap.reads_blanksRound {g : List Char} (h : IsGap g) (hpost : Stops isBlankStart post) :
    Reads blanksRound g post fun t => t.2 = false := by
  obtain ⟨hblank, hhash⟩ := Stops.of_or hpost
  obtain ⟨hspace, hbreak⟩ := Stops.of_or hblank
  rw [← List.append_nil g]
  refine Reads.bind (h.reads hspace) fun _ _ => Reads.peek_bind ?_
  cases post with
  | nil => exact reads_pure rfl
  | cons x rest =>
    have hx : x ≠ '\n' ∧ x ≠ '\r' := by simpa [isLineBreak] using hbreak x rest rfl
    have hx' : x ≠ '#' := of_decide_eq_false (hhash x rest rfl)
    rw [List.nil_append, List.head?_cons]
    split <;> rename_i heq
    · exact absurd (Option.some.inj heq) hx'
    · exact absurd (Option.some.inj heq) hx.1
    · exact absurd (Option.some.inj heq) hx.2
    · exact reads_pure rfl

theorem IsBlanks.reads {b : List Char} (h : IsBlanks IsEmptyLine b)
    (hpost : Stops isBlankStart post) : Reads blanks b post fun _ => True := by
  have hrounds := h.readsRounds (fun _ h => h.ne_nil) (fun _ _ h => h.reads_blanksRound)
    fun _ h => h.reads_blanksRound hpost
  exact (Reads.collect hrounds).bind_pure fun _ _ => trivial

/-! ### Lists -/

/-- What stands behind the opening bracket of a list of strings. -/
inductive IsStrings : List Char → List (List Char) → Prop
  | nil {b : List Char} : IsBlanks IsEmptyLine b → IsStrings (b ++ [']']) []
  | last {b w b' s : List Char} : IsBlanks IsEmptyLine b → IsString w s → IsBlanks IsEmptyLine b' →
      IsStrings (b ++ (w ++ (b' ++ [']']))) [s]
  | cons {b w b' v s : List Char} {ss : List (List Char)} : IsBlanks IsEmptyLine b → IsString w s →
      IsBlanks IsEmptyLine b' → IsStrings v ss → IsStrings (b ++ (w ++ (b' ++ ',' :: v))) (s :: ss)

/-- Every list of strings can be written. -/
theorem exists_isStrings (ss : List (List Char)) : ∃ v, IsStrings v ss := by
  induction ss with
  | nil => exact ⟨_, .nil (.gap isGap_nil)⟩
  | cons s ss ih =>
    obtain ⟨v, hv⟩ := ih
    obtain ⟨w, hw⟩ := exists_isString s
    exact ⟨_, .cons (.gap isGap_nil) hw (.gap isGap_nil) hv⟩

/-- The item is the string. -/
def IsText (s : List Char) (item : Item) : Prop :=
  ∃ e, item = .string e (String.ofList s)

theorem IsString.exists_cons {w s : List Char} (h : IsString w s) :
    ∃ x rest, w = x :: rest ∧ (x = '"' ∨ x = '\'') := by
  cases h with
  | basic _ => exact ⟨_, _, rfl, Or.inl rfl⟩
  | literal _ => exact ⟨_, _, rfl, Or.inr rfl⟩
  | longBasic _ _ _ => exact ⟨_, _, rfl, Or.inl rfl⟩
  | longLiteral _ _ _ => exact ⟨_, _, rfl, Or.inr rfl⟩

/-- A string is a value, however deep. -/
theorem IsString.reads_value {w s : List Char} (h : IsString w s) (depth : Nat)
    (hpost : Stops isQuote post) : Reads (value depth) w post (IsText s) := by
  have hreads := h.reads hpost
  obtain ⟨x, rest, rfl, hx⟩ := h.exists_cons
  cases depth with
  | zero =>
    refine Reads.peek_bind ?_
    rcases hx with rfl | rfl
    · exact hreads
    · exact hreads
  | succ depth =>
    refine Reads.peek_bind ?_
    rcases hx with rfl | rfl
    · exact hreads
    · exact hreads

theorem IsString.stops_isBlankStart {w s tail : List Char} (h : IsString w s) :
    Stops isBlankStart (w ++ tail) := by
  obtain ⟨x, rest, rfl, rfl | rfl⟩ := h.exists_cons
  · exact stops_cons (by decide)
  · exact stops_cons (by decide)

/-- Blanks hold no quote. -/
theorem IsBlanks.stops_isQuote {b tail : List Char} (h : IsBlanks IsEmptyLine b)
    (htail : Stops isQuote tail) : Stops isQuote (b ++ tail) := by
  cases h with
  | gap hg => exact hg.stops_of (by decide) (by decide) htail
  | line hl _ =>
    rw [List.append_assoc]
    exact hl.stops_of (by decide)

/-- A string of a list, with the blanks around it and what stands behind them. -/
theorem IsString.reads_arrayRound {b w b' s tail : List Char} {x : Char} (depth : Nat)
    (hb : IsBlanks IsEmptyLine b) (hw : IsString w s) (hb' : IsBlanks IsEmptyLine b')
    (hx : x = ',' ∨ x = ']') :
    Reads (arrayRound (value depth)) (b ++ (w ++ (b' ++ [x]))) tail
      fun t => t.2 = decide (x = ',') ∧ List.Forall₂ IsText [s] t.1 := by
  have hafter : Stops isBlankStart (x :: tail) ∧ Stops isQuote (x :: tail) := by
    rcases hx with rfl | rfl
    · exact ⟨stops_cons (by decide), stops_cons (by decide)⟩
    · exact ⟨stops_cons (by decide), stops_cons (by decide)⟩
  have hbefore : Stops isBlankStart (w ++ (b' ++ [x]) ++ tail) := by
    rw [List.append_assoc]
    exact hw.stops_isBlankStart
  refine Reads.bind (hb.reads hbefore) fun _ _ => Reads.peek_bind ?_
  have hbracket : (w ++ (b' ++ [x]) ++ tail).head? ≠ some ']' := by
    obtain ⟨y, rest, rfl, rfl | rfl⟩ := hw.exists_cons
    · exact fun h => absurd (Option.some.inj h) (by decide)
    · exact fun h => absurd (Option.some.inj h) (by decide)
  rw [if_neg hbracket]
  have hquote : Stops isQuote (b' ++ [x] ++ tail) := by
    rw [List.append_assoc]
    exact hb'.stops_isQuote hafter.2
  refine Reads.bind (hw.reads_value depth hquote) fun item hitem => ?_
  refine Reads.bind (w := b') (hb'.reads hafter.1) fun _ _ => Reads.peek_bind ?_
  rcases hx with rfl | rfl
  · exact reads_text.bind_pure fun _ _ => ⟨rfl, .cons hitem .nil⟩
  · exact reads_text.bind_pure fun _ _ => ⟨rfl, .cons hitem .nil⟩

theorem IsStrings.readsRounds {v : List Char} {ss : List (List Char)} (h : IsStrings v ss)
    (depth : Nat) :
    ReadsRounds (arrayRound (value depth)) v post (List.Forall₂ IsText ss) := by
  induction h with
  | @nil b hb =>
    refine ReadsRounds.last (Reads.bind (hb.reads (stops_cons (by decide))) fun _ _ =>
      Reads.peek_bind ?_)
    rw [show ([']'] ++ post).head? = some ']' from rfl, if_pos rfl]
    exact reads_text.bind_pure fun _ _ => ⟨rfl, .nil⟩
  | @last b w b' s hb hw hb' =>
    exact ReadsRounds.last (hw.reads_arrayRound depth hb hb' (Or.inr rfl))
  | @cons b w b' v s ss hb hw hb' _ ih =>
    have htext : b ++ (w ++ (b' ++ ',' :: v)) = b ++ (w ++ (b' ++ [','])) ++ v := by simp
    rw [htext]
    refine ReadsRounds.more (A := List.Forall₂ IsText [s])
      (hw.reads_arrayRound depth hb hb' (Or.inl rfl)) (by simp) ih ?_
    intro xs ys hxs hys
    cases hxs with
    | cons hx hnil =>
      cases hnil
      exact .cons hx hys

/-- **A list of strings is read as just these strings.** -/
theorem reads_strings {v : List Char} {ss : List (List Char)} (h : IsStrings v ss) (depth : Nat) :
    Reads (value (depth + 1)) ('[' :: v) post
      fun item => ∃ e items, item = .array e items ∧ List.Forall₂ IsText ss items := by
  have hitems : Reads (do text ['[']; collect (arrayRound (value depth)) : Reader (List Item))
      ('[' :: v) post (List.Forall₂ IsText ss) :=
    Reads.bind (w := ['[']) reads_text fun _ _ => Reads.collect (h.readsRounds depth)
  refine Reads.peek_bind ?_
  refine hitems.located.bind_pure ?_
  rintro ⟨start, items, stop⟩ hmatch
  exact ⟨_, items, rfl, hmatch⟩

end HeaderSurvey.Toml
