import HeaderSurvey.Block
import HeaderSurvey.Proofs.Text.Cursor
import Mathlib.Data.List.Infix

/-!
# Matching braces

`Within depth s` says that no beginning of `s` closes more braces than it opens and `depth` others.
The search for a closing brace ends exactly behind such a stretch (`closingFrom_eq_ok_iff`), or
fails exactly if the whole text is one (`closingFrom_eq_error_iff`).

`bracesAt` looks past blanks for an opening brace.  Its three answers are described by
`bracesAt_eq_none_iff`, `bracesAt_eq_some` and `exists_bracesAt_error_iff`.
-/

namespace HeaderSurvey

/-! ### Stretches that close no foreign brace -/

/-- No beginning of the text closes more braces than it opens and `depth` others. -/
def Within (depth : Nat) (s : List Char) : Prop :=
  ∀ p, p <+: s → p.count '}' ≤ depth + p.count '{'

/-- The braces of the text match each other. -/
def Balanced (s : List Char) : Prop :=
  Within 0 s ∧ s.count '}' = s.count '{'

instance (depth : Nat) (s : List Char) : Decidable (Within depth s) :=
  decidable_of_iff (∀ p ∈ s.inits, p.count '}' ≤ depth + p.count '{')
    (forall_congr' fun p => imp_congr_left (List.mem_inits p s))

instance (s : List Char) : Decidable (Balanced s) :=
  inferInstanceAs (Decidable (_ ∧ _))

theorem count_open (s : List Char) :
    ('{' :: s).count '{' = s.count '{' + 1 ∧ ('{' :: s).count '}' = s.count '}' :=
  ⟨List.count_cons_self, List.count_cons_of_ne (by decide)⟩

theorem count_close (s : List Char) :
    ('}' :: s).count '{' = s.count '{' ∧ ('}' :: s).count '}' = s.count '}' + 1 :=
  ⟨List.count_cons_of_ne (by decide), List.count_cons_self⟩

theorem within_nil (depth : Nat) : Within depth [] := by
  intro p hp
  rw [List.prefix_nil.mp hp]
  simp

/-- A character in front can only change the depth at which the text begins. -/
theorem within_cons_iff {depth depth' : Nat} {c : Char} {s : List Char}
    (h : ∀ p : List Char, (c :: p).count '}' ≤ depth + (c :: p).count '{' ↔
      p.count '}' ≤ depth' + p.count '{') :
    Within depth (c :: s) ↔ Within depth' s := by
  constructor
  · intro hw p hp
    exact (h p).mp (hw (c :: p) (List.cons_prefix_cons.mpr ⟨rfl, hp⟩))
  · intro hw p hp
    rcases List.prefix_cons_iff.mp hp with rfl | ⟨t, rfl, ht⟩
    · simp
    · exact (h t).mpr (hw t ht)

theorem within_open {depth : Nat} {s : List Char} :
    Within depth ('{' :: s) ↔ Within (depth + 1) s := by
  refine within_cons_iff fun p => ?_
  rw [(count_open p).1, (count_open p).2]
  omega

theorem within_close {depth : Nat} {s : List Char} :
    Within (depth + 1) ('}' :: s) ↔ Within depth s := by
  refine within_cons_iff fun p => ?_
  rw [(count_close p).1, (count_close p).2]
  omega

theorem not_within_close {s : List Char} : ¬ Within 0 ('}' :: s) := by
  intro h
  have hle := h ['}'] (List.cons_prefix_cons.mpr ⟨rfl, List.nil_prefix⟩)
  simp at hle

theorem within_cons_of_ne {depth : Nat} {c : Char} {s : List Char} (ho : c ≠ '{') (hc : c ≠ '}') :
    Within depth (c :: s) ↔ Within depth s := by
  refine within_cons_iff fun p => ?_
  rw [List.count_cons_of_ne hc, List.count_cons_of_ne ho]

/-! ### Balanced texts -/

theorem balanced_nil : Balanced [] :=
  ⟨within_nil 0, rfl⟩

theorem within_append {depth : Nat} {s t : List Char} (hs : Balanced s) (ht : Within depth t) :
    Within depth (s ++ t) := by
  rintro p ⟨r, hr⟩
  rcases List.append_eq_append_iff.mp hr with ⟨q, rfl, -⟩ | ⟨q, rfl, rfl⟩
  · have := hs.1 p (List.prefix_append p q)
    omega
  · have := ht q (List.prefix_append q r)
    rw [List.count_append, List.count_append, hs.2]
    omega

theorem balanced_append {s t : List Char} (hs : Balanced s) (ht : Balanced t) :
    Balanced (s ++ t) := by
  refine ⟨within_append hs ht.1, ?_⟩
  rw [List.count_append, List.count_append, hs.2, ht.2]

theorem balanced_cons {x : Char} {s : List Char} (ho : x ≠ '{') (hc : x ≠ '}') (hs : Balanced s) :
    Balanced (x :: s) := by
  refine ⟨(within_cons_of_ne ho hc).mpr hs.1, ?_⟩
  rw [List.count_cons_of_ne hc, List.count_cons_of_ne ho, hs.2]

theorem balanced_of_forall {s : List Char} (h : ∀ x ∈ s, x ≠ '{' ∧ x ≠ '}') : Balanced s := by
  induction s with
  | nil => exact balanced_nil
  | cons x s ih =>
    obtain ⟨hx, hs⟩ := List.forall_mem_cons.mp h
    exact balanced_cons hx.1 hx.2 (ih hs)

theorem balanced_block {s t : List Char} (hs : Balanced s) (ht : Balanced t) :
    Balanced ('{' :: (s ++ '}' :: t)) := by
  refine ⟨within_open.mpr (within_append hs (within_close.mpr ht.1)), ?_⟩
  rw [(count_open _).1, (count_open _).2, List.count_append, List.count_append, (count_close t).1,
    (count_close t).2, hs.2, ht.2]
  omega

/-! ### The closing brace -/

/-- The search for a closing brace, one character further. -/
theorem closingFrom_cons_of_ne {before : List Char} {depth : Nat} {c : Char} {rest : List Char}
    (ho : c ≠ '{') (hc : c ≠ '}') :
    closingFrom before depth (c :: rest) = closingFrom (c :: before) depth rest := by
  rw [closingFrom.eq_def]
  simp only [ho, hc, ↓reduceIte]

theorem closingFrom_open (before : List Char) (depth : Nat) (rest : List Char) :
    closingFrom before depth ('{' :: rest) = closingFrom ('{' :: before) (depth + 1) rest := by
  rw [closingFrom.eq_def]
  exact if_pos rfl

theorem closingFrom_close_zero (before rest : List Char) :
    closingFrom before 0 ('}' :: rest) = .ok (⟨before, '}' :: rest⟩, ⟨'}' :: before, rest⟩) :=
  rfl

theorem closingFrom_close_succ (before : List Char) (depth : Nat) (rest : List Char) :
    closingFrom before (depth + 1) ('}' :: rest) = closingFrom ('}' :: before) depth rest := by
  rw [closingFrom, if_neg (by decide), if_pos rfl]

/-- A stretch that closes no foreign brace is passed over; what it leaves open is added. -/
theorem closingFrom_append {s : List Char} :
    ∀ {before : List Char} {depth left : Nat} (rest : List Char), Within depth s →
      left + s.count '}' = depth + s.count '{' →
      closingFrom before depth (s ++ rest) = closingFrom (s.reverse ++ before) left rest := by
  induction s with
  | nil =>
    intro before depth left rest _ hleft
    obtain rfl : left = depth := by simpa using hleft
    rfl
  | cons c s ih =>
    intro before depth left rest hw hleft
    rw [List.cons_append, List.reverse_cons, List.append_assoc, List.singleton_append]
    -- an opening brace allows what follows one more closing brace, a closing one takes it away
    by_cases ho : c = '{'
    · subst ho
      rw [(count_open s).1, (count_open s).2] at hleft
      rw [closingFrom_open]
      exact ih rest (within_open.mp hw) (by omega)
    by_cases hc : c = '}'
    · subst hc
      rw [(count_close s).1, (count_close s).2] at hleft
      cases depth with
      | zero => exact absurd hw not_within_close
      | succ depth =>
        rw [closingFrom_close_succ]
        exact ih rest (within_close.mp hw) (by omega)
    · rw [List.count_cons_of_ne hc, List.count_cons_of_ne ho] at hleft
      rw [closingFrom_cons_of_ne ho hc]
      exact ih rest ((within_cons_of_ne ho hc).mp hw) hleft

/-- Every text closes the first of `depth + 1` open braces behind a stretch that closes no other
foreign one, or is such a stretch itself. -/
theorem exists_close_or_within (depth : Nat) (rest : List Char) :
    (∃ s post, rest = s ++ '}' :: post ∧ Within depth s ∧ s.count '}' = depth + s.count '{') ∨
      Within depth rest := by
  induction rest generalizing depth with
  | nil => exact Or.inr (within_nil depth)
  | cons c rest ih =>
    -- the brace that is looked for stays the same, but counted from behind `c`
    by_cases ho : c = '{'
    · subst ho
      rcases ih (depth + 1) with ⟨s, post, rfl, hw, hcount⟩ | hw
      · refine Or.inl ⟨'{' :: s, post, rfl, within_open.mpr hw, ?_⟩
        rw [(count_open s).1, (count_open s).2]
        omega
      · exact Or.inr (within_open.mpr hw)
    by_cases hc : c = '}'
    · subst hc
      cases depth with
      | zero => exact Or.inl ⟨[], rest, rfl, within_nil 0, rfl⟩
      | succ depth =>
        rcases ih depth with ⟨s, post, rfl, hw, hcount⟩ | hw
        · refine Or.inl ⟨'}' :: s, post, rfl, within_close.mpr hw, ?_⟩
          rw [(count_close s).1, (count_close s).2]
          omega
        · exact Or.inr (within_close.mpr hw)
    · rcases ih depth with ⟨s, post, rfl, hw, hcount⟩ | hw
      · refine Or.inl ⟨c :: s, post, rfl, (within_cons_of_ne ho hc).mpr hw, ?_⟩
        rw [List.count_cons_of_ne hc, List.count_cons_of_ne ho]
        exact hcount
      · exact Or.inr ((within_cons_of_ne ho hc).mpr hw)

theorem closingFrom_of_close {before : List Char} {depth : Nat} {s : List Char} (post : List Char)
    (hw : Within depth s) (hcount : s.count '}' = depth + s.count '{') :
    closingFrom before depth (s ++ '}' :: post) =
      .ok (⟨s.reverse ++ before, '}' :: post⟩, ⟨'}' :: (s.reverse ++ before), post⟩) := by
  have happend : closingFrom before depth (s ++ '}' :: post) =
      closingFrom (s.reverse ++ before) 0 ('}' :: post) :=
    closingFrom_append _ hw (by omega)
  rw [happend, closingFrom_close_zero]

theorem closingFrom_of_within {before : List Char} {depth : Nat} {rest : List Char}
    (hw : Within depth rest) :
    closingFrom before depth rest = .error (depth + rest.count '{' - rest.count '}' + 1) := by
  have hle := hw rest (List.prefix_refl rest)
  have happend : closingFrom before depth (rest ++ []) =
      closingFrom (rest.reverse ++ before) (depth + rest.count '{' - rest.count '}') [] :=
    closingFrom_append [] hw (by omega)
  rw [List.append_nil] at happend
  rw [happend, closingFrom]

/-- **The closing brace is the first that has no partner.**  It stands behind a stretch in which no
beginning closes more braces than are open. -/
theorem closingFrom_eq_ok_iff {before : List Char} {depth : Nat} {rest : List Char}
    {closing outside : Cursor} :
    closingFrom before depth rest = .ok (closing, outside) ↔
      ∃ s post, rest = s ++ '}' :: post ∧ Within depth s ∧ s.count '}' = depth + s.count '{' ∧
        closing = ⟨s.reverse ++ before, '}' :: post⟩ ∧
        outside = ⟨'}' :: (s.reverse ++ before), post⟩ := by
  constructor
  · intro h
    rcases exists_close_or_within depth rest with ⟨s, post, rfl, hw, hcount⟩ | hw
    · rw [closingFrom_of_close post hw hcount] at h
      obtain ⟨rfl, rfl⟩ := Prod.mk.inj (Except.ok.inj h)
      exact ⟨s, post, rfl, hw, hcount, rfl, rfl⟩
    · rw [closingFrom_of_within hw] at h
      exact absurd h (by simp)
  · rintro ⟨s, post, rfl, hw, hcount, rfl, rfl⟩
    exact closingFrom_of_close post hw hcount

/-- No brace closes exactly if no beginning of the text closes more braces than are open. -/
theorem closingFrom_eq_error_iff {before : List Char} {depth : Nat} {rest : List Char} {n : Nat} :
    closingFrom before depth rest = .error n ↔
      Within depth rest ∧ n = depth + rest.count '{' - rest.count '}' + 1 := by
  constructor
  · intro h
    rcases exists_close_or_within depth rest with ⟨s, post, rfl, hw, hcount⟩ | hw
    · rw [closingFrom_of_close post hw hcount] at h
      exact absurd h (by simp)
    · rw [closingFrom_of_within hw] at h
      exact ⟨hw, (Except.error.inj h).symm⟩
  · rintro ⟨hw, rfl⟩
    exact closingFrom_of_within hw

/-! ### The braces behind a keyword -/

/-- Behind blanks an opening brace begins that nothing closes. -/
def NeverCloses (c : Cursor) : Prop :=
  ∃ rest, (c.skipWhile isAsciiBlank).rest = '{' :: rest ∧ Within 0 rest

/-- The braces of the block that begins at the opening brace behind `pre`. -/
def Braces.around (pre body post : List Char) : Braces where
  opening := Cursor.between pre ('{' :: (body ++ '}' :: post))
  inside := Cursor.between (pre ++ ['{']) (body ++ '}' :: post)
  closing := Cursor.between (pre ++ ['{'] ++ body) ('}' :: post)
  outside := Cursor.between (pre ++ ['{'] ++ body ++ ['}']) post

theorem bracesAt_of_ne {c : Cursor} (h : ∀ rest, (c.skipWhile isAsciiBlank).rest ≠ '{' :: rest) :
    bracesAt c = .ok none := by
  rw [bracesAt]
  dsimp only
  split
  · next rest hrest => exact absurd hrest (h rest)
  · rfl

theorem bracesAt_of_open {c : Cursor} {rest : List Char}
    (h : (c.skipWhile isAsciiBlank).rest = '{' :: rest) :
    bracesAt c =
      match closingFrom ('{' :: (c.skipWhile isAsciiBlank).before) 0 rest with
      | .ok (closing, outside) =>
        .ok (some ⟨c.skipWhile isAsciiBlank, ⟨'{' :: (c.skipWhile isAsciiBlank).before, rest⟩,
          closing, outside⟩)
      | .error depth => .error depth := by
  rw [bracesAt]
  dsimp only
  rw [h]
  rfl

theorem bracesAt_of_balanced {c : Cursor} {pre body post : List Char}
    (hopen : c.skipWhile isAsciiBlank = Cursor.between pre ('{' :: (body ++ '}' :: post)))
    (hbody : Balanced body) : bracesAt c = .ok (some (Braces.around pre body post)) := by
  have hclose := @closingFrom_of_close ('{' :: pre.reverse) 0 body post hbody.1
    (by rw [hbody.2, Nat.zero_add])
  rw [bracesAt_of_open (congrArg Cursor.rest hopen), hopen, Cursor.before_between, hclose]
  simp [Braces.around, Cursor.between]

theorem bracesAt_of_within {c : Cursor} {rest : List Char}
    (hopen : (c.skipWhile isAsciiBlank).rest = '{' :: rest) (hw : Within 0 rest) :
    bracesAt c = .error (rest.count '{' - rest.count '}' + 1) := by
  rw [bracesAt_of_open hopen, closingFrom_of_within hw, Nat.zero_add]

/-- Either no opening brace follows, or one with a partner does, or one without. -/
theorem bracesAt_cases (c : Cursor) :
    (∀ rest, (c.skipWhile isAsciiBlank).rest ≠ '{' :: rest) ∨
    (∃ pre body post, Balanced body ∧
      c.skipWhile isAsciiBlank = Cursor.between pre ('{' :: (body ++ '}' :: post))) ∨
    NeverCloses c := by
  by_cases h : ∃ rest, (c.skipWhile isAsciiBlank).rest = '{' :: rest
  · obtain ⟨rest, hrest⟩ := h
    right
    rcases exists_close_or_within 0 rest with ⟨body, post, rfl, hw, hcount⟩ | hw
    · refine Or.inl ⟨(c.skipWhile isAsciiBlank).before.reverse, body, post, ⟨hw, by omega⟩, ?_⟩
      rw [← hrest, Cursor.between_self]
    · exact Or.inr ⟨rest, hrest, hw⟩
  · exact Or.inl fun rest hrest => h ⟨rest, hrest⟩

/-- A keyword without braces is one behind which, after blanks, no brace opens. -/
theorem bracesAt_eq_none_iff {c : Cursor} :
    bracesAt c = .ok none ↔ ∀ rest, (c.skipWhile isAsciiBlank).rest ≠ '{' :: rest := by
  constructor
  · intro h
    rcases bracesAt_cases c with hne | ⟨pre, body, post, hbody, hopen⟩ | ⟨rest, hopen, hw⟩
    · exact hne
    · rw [bracesAt_of_balanced hopen hbody] at h
      exact absurd h (by simp)
    · rw [bracesAt_of_within hopen hw] at h
      exact absurd h (by simp)
  · exact bracesAt_of_ne

/-- **The braces behind a keyword enclose a balanced text** and begin behind blanks. -/
theorem bracesAt_eq_some {c : Cursor} {b : Braces} (h : bracesAt c = .ok (some b)) :
    ∃ pre body post, Balanced body ∧ b = Braces.around pre body post ∧
      c.skipWhile isAsciiBlank = Cursor.between pre ('{' :: (body ++ '}' :: post)) := by
  rcases bracesAt_cases c with hne | ⟨pre, body, post, hbody, hopen⟩ | ⟨rest, hopen, hw⟩
  · rw [bracesAt_of_ne hne] at h
    exact absurd h (by simp)
  · rw [bracesAt_of_balanced hopen hbody] at h
    exact ⟨pre, body, post, hbody, (Option.some.inj (Except.ok.inj h)).symm, hopen⟩
  · rw [bracesAt_of_within hopen hw] at h
    exact absurd h (by simp)

/-- In front of the braces stand blanks. -/
theorem Braces.opening_eq_skipWhile {c : Cursor} {b : Braces} (h : bracesAt c = .ok (some b)) :
    b.opening = c.skipWhile isAsciiBlank := by
  obtain ⟨pre, body, post, -, rfl, hopen⟩ := bracesAt_eq_some h
  exact hopen.symm

/-- The braces open at or behind the place where they are looked for. -/
theorem Braces.le_opening {c : Cursor} {b : Braces} (h : bracesAt c = .ok (some b)) :
    c ≤ b.opening := by
  rw [opening_eq_skipWhile h]
  exact Cursor.le_skipWhile isAsciiBlank c

/-- The braces behind a keyword are in error exactly if the opening one is never closed. -/
theorem exists_bracesAt_error_iff {c : Cursor} :
    (∃ n, bracesAt c = .error n) ↔ NeverCloses c := by
  constructor
  · rintro ⟨n, h⟩
    rcases bracesAt_cases c with hne | ⟨pre, body, post, hbody, hopen⟩ | hnever
    · rw [bracesAt_of_ne hne] at h
      exact absurd h (by simp)
    · rw [bracesAt_of_balanced hopen hbody] at h
      exact absurd h (by simp)
    · exact hnever
  · rintro ⟨rest, hopen, hw⟩
    exact ⟨_, bracesAt_of_within hopen hw⟩

/-- What the braces of a block are, place by place. -/
theorem Braces.around_le (pre body post : List Char) :
    (around pre body post).opening ≤ (around pre body post).inside ∧
    (around pre body post).inside ≤ (around pre body post).closing ∧
    (around pre body post).closing ≤ (around pre body post).outside :=
  ⟨Cursor.between_le_between pre ['{'] _, Cursor.between_le_between (pre ++ ['{']) body _,
    Cursor.between_le_between (pre ++ ['{'] ++ body) ['}'] _⟩

namespace Block

variable {b : Block} {pre body post : List Char}

theorem stop_of_around (h : b.braces = some (Braces.around pre body post)) :
    b.stop = Cursor.between (pre ++ ['{'] ++ body ++ ['}']) post := by
  rw [stop, h]
  rfl

theorem body?_of_around (h : b.braces = some (Braces.around pre body post)) :
    b.body? = some body := by
  rw [body?, h, Option.map_some]
  exact congrArg some (Cursor.upTo_between (pre ++ ['{']) body ('}' :: post))

/-- Counted back from the end of the block, the body is where it stands in the text. -/
theorem bodySpan?_of_around (h : b.braces = some (Braces.around pre body post)) :
    b.bodySpan? =
      some ⟨Text.byteLength (pre ++ ['{']), Text.byteLength (pre ++ ['{'] ++ body)⟩ := by
  have hclose : Text.byteLength ['}'] = 1 := rfl
  rw [bodySpan?, body?_of_around h, stop_of_around h, Option.map_some, Cursor.offset_between]
  simp only [Text.byteLength_append, hclose, Option.some.injEq, Span.mk.injEq]
  omega

end Block
end HeaderSurvey
