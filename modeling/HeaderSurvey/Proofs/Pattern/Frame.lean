import HeaderSurvey.Proofs.Pattern.Search

/-!
# Matching inside a longer text

A `Frame` is text in front of a text and text behind it, together with the places of the text from
which a search does not get at the frame: `Inside`.  Such a place stays one over every character
that `Passes`, and none of them is the end of the text, unless nothing stands behind it.

`F.Suits p` says that a pattern takes only such characters, that the places it asks for look the
same in the frame, and that its repetitions take a character in each round.  Such a pattern matches
in the frame as it does without it, and captures the same (`Frame.keeps_of_suits`,
`Frame.matchAt?_place`).  A part behind one that has no way may be anything.
-/

namespace HeaderSurvey

/-- The range `n` bytes further on. -/
def Span.shift (n : Nat) (s : Span) : Span :=
  ⟨s.start + n, s.stop + n⟩

namespace Pattern

/-! ### Patterns that take a character -/

/-- Whether the pattern takes a character whenever it matches. -/
def advances : Pattern → Bool
  | literal chars => !chars.isEmpty
  | one _ => true
  | many _ => false
  | seq p q => p.advances || q.advances
  | either p q => p.advances && q.advances
  | star _ => false
  | lazyStar _ => false
  | capture _ p => p.advances
  | place _ => false

/-- A way of a pattern that takes a character leads forward. -/
theorem Way.lt {p : Pattern} (hp : p.advances = true) {c d : Cursor} {g h : Captures}
    (hw : p.Way c g d h) : c < d := by
  induction p generalizing c g d h with
  | literal chars =>
    obtain ⟨hle, hup⟩ := Cursor.skipText?_eq_some hw.1
    refine lt_of_le_of_ne hle ?_
    rintro rfl
    rw [Cursor.upTo_self] at hup
    simp [advances, ← hup] at hp
  | one p =>
    have hle := hw.le
    obtain ⟨x, -, hrest, -, -⟩ := hw
    refine (Cursor.lt_iff_of_le hle).mpr ?_
    rw [hrest, List.length_cons]
    omega
  | many p => simp [advances] at hp
  | seq p q ihp ihq =>
    obtain ⟨e, f, hpw, hqw⟩ := hw
    rcases Bool.or_eq_true_iff.mp hp with hp | hq
    · exact (ihp hp hpw).trans_le hqw.le
    · exact hpw.le.trans_lt (ihq hq hqw)
  | either p q ihp ihq =>
    obtain ⟨hp, hq⟩ := Bool.and_eq_true_iff.mp hp
    exact hw.elim (ihp hp) (ihq hq)
  | star p => simp [advances] at hp
  | lazyStar p => simp [advances] at hp
  | capture i p ih =>
    obtain ⟨f, hpw, -⟩ := hw
    exact ih hp hpw
  | place test => simp [advances] at hp

theorem start_lt_stop_of_advances {p : Pattern} (hp : p.advances = true) {c : Cursor} {m : Match}
    (h : p.matchAt? c = some m) : m.start < m.stop := by
  rw [start_of_matchAt? h]
  exact (way_of_matchAt? h).lt hp

/-- At the end of a text such a pattern does not match. -/
theorem matchAt?_eq_none_of_advances {p : Pattern} (hp : p.advances = true) (before : List Char) :
    p.matchAt? ⟨before, []⟩ = none := by
  refine matchAt?_eq_none_of_way fun d g hw => ?_
  have hlen := (Cursor.lt_iff_of_le hw.le).mp (hw.lt hp)
  exact absurd hlen (Nat.not_lt_zero _)

end Pattern

/-! ### Frames -/

/-- Text in front of a text and behind it, and the places of the text that do not get at what
stands behind. -/
structure Frame where
  /-- What stands in front of the text. -/
  pre : List Char
  /-- What stands behind it. -/
  post : List Char
  /-- The places that may be searched from. -/
  Inside : Cursor → Prop
  /-- The characters that may be passed over. -/
  Passes : Char → Prop
  step : ∀ {before : List Char} {x : Char} {rest : List Char},
    Inside ⟨before, x :: rest⟩ → Passes x → Inside ⟨x :: before, rest⟩
  ends : ∀ {before : List Char}, Inside ⟨before, []⟩ → post = []

namespace Frame

variable (F : Frame)

/-- The place in the framed text. -/
def place (c : Cursor) : Cursor :=
  ⟨c.before ++ F.pre.reverse, c.rest ++ F.post⟩

/-- The captures in the framed text. -/
def captures (g : Captures) : Captures :=
  g.map fun (i, a, b) => (i, F.place a, F.place b)

/-- The end of a match in the framed text. -/
def matchEnd (o : MatchEnd) : MatchEnd :=
  (F.place o.1, F.captures o.2)

/-- The match in the framed text. -/
def matched (m : Match) : Match :=
  ⟨F.place m.start, F.place m.stop, F.captures m.captures⟩

@[simp] theorem before_place (c : Cursor) : (F.place c).before = c.before ++ F.pre.reverse :=
  rfl

@[simp] theorem rest_place (c : Cursor) : (F.place c).rest = c.rest ++ F.post :=
  rfl

@[simp] theorem offset_place (c : Cursor) :
    (F.place c).offset = c.offset + Text.byteLength F.pre := by
  rw [Cursor.offset, before_place, Text.byteLength_append, Text.byteLength_reverse, Cursor.offset]

@[simp] theorem line_place (c : Cursor) : (F.place c).line = c.line + F.pre.count '\n' := by
  rw [Cursor.line, before_place, List.count_append, List.count_reverse, Cursor.line]
  omega

/-- Between two places of a text stands what stands there without the frame. -/
@[simp] theorem upTo_place (c d : Cursor) : (F.place c).upTo (F.place d) = c.upTo d := by
  have hlen : (d.before ++ F.pre.reverse).length - (c.before ++ F.pre.reverse).length =
      d.before.length - c.before.length := by
    rw [List.length_append, List.length_append]
    omega
  rw [Cursor.upTo, before_place, before_place, hlen,
    List.take_append_of_le_length (Nat.sub_le _ _), Cursor.upTo]

/-! ### Passing over characters -/

variable {F} {c d : Cursor}

/-- A place stays inside over characters that may be passed over. -/
theorem inside_of_le (hc : F.Inside c) (hle : c ≤ d) (hpass : ∀ x ∈ c.upTo d, F.Passes x) :
    F.Inside d := by
  obtain ⟨pre, s, post, rfl, rfl⟩ := Cursor.exists_between_of_le hle
  rw [Cursor.upTo_between] at hpass
  induction s generalizing pre with
  | nil =>
    rw [List.append_nil]
    exact hc
  | cons x s ih =>
    obtain ⟨hx, hs⟩ := List.forall_mem_cons.mp hpass
    have hnext : F.Inside (Cursor.between (pre ++ [x]) (s ++ post)) := by
      have := F.step hc hx
      rwa [Cursor.between, List.reverse_append]
    have := ih (pre ++ [x]) hnext (Cursor.between_le_between _ s post) hs
    rwa [List.append_assoc] at this

theorem skipText?_place {chars : List Char} (hchars : ∀ x ∈ chars, F.Passes x)
    (hc : F.Inside c) : (F.place c).skipText? chars = (c.skipText? chars).map F.place := by
  induction chars generalizing c with
  | nil => rfl
  | cons x chars ih =>
    obtain ⟨before, rest⟩ := c
    obtain ⟨hx, hchars⟩ := List.forall_mem_cons.mp hchars
    cases rest with
    | nil =>
      rw [place, F.ends hc]
      rfl
    | cons y rest =>
      rw [place, List.cons_append, Cursor.skipText?, Cursor.skipText?]
      split_ifs with hxy
      · subst hxy
        exact ih hchars (F.step hc hx)
      · rfl

theorem skipWhile_place {p : Char → Bool} (hp : ∀ x, p x = true → F.Passes x)
    (hc : F.Inside c) : (F.place c).skipWhile p = F.place (c.skipWhile p) := by
  obtain ⟨before, rest⟩ := c
  induction rest generalizing before with
  | nil =>
    simp [place, F.ends hc, Cursor.skipWhile, Cursor.skipWhileFrom]
  | cons x rest ih =>
    change (if p x then (F.place ⟨x :: before, rest⟩).skipWhile p
        else F.place ⟨before, x :: rest⟩) =
      F.place (if p x then Cursor.skipWhile p ⟨x :: before, rest⟩ else ⟨before, x :: rest⟩)
    split_ifs with hx
    · exact ih (x :: before) (F.step hc (hp x hx))
    · rfl

/-- What comes first behind blanks is the same in the frame. -/
theorem head?_dropWhile_place {p : Char → Bool} (hp : ∀ x, p x = true → F.Passes x)
    (hc : F.Inside c) :
    ((F.place c).rest.dropWhile p).head? = (c.rest.dropWhile p).head? := by
  obtain ⟨before, rest⟩ := c
  induction rest generalizing before with
  | nil =>
    rw [place, F.ends hc]
    rfl
  | cons x rest ih =>
    rw [rest_place, List.cons_append, List.dropWhile_cons, List.dropWhile_cons]
    split_ifs with hx
    · exact ih (x :: before) (F.step hc (hp x hx))
    · rfl

/-! ### Patterns that suit a frame -/

/-- From no place inside the pattern has a way. -/
def Avoids (F : Frame) (p : Pattern) : Prop :=
  ∀ c g d h, F.Inside c → ¬ p.Way c g d h

/-- The pattern takes only characters that may be passed over, and at the places that it asks for
the frame makes no difference. -/
def Suits (F : Frame) : Pattern → Prop
  | .literal chars => ∀ x ∈ chars, F.Passes x
  | .one p => ∀ x, p x = true → F.Passes x
  | .many p => ∀ x, p x = true → F.Passes x
  | .seq p q => F.Suits p ∧ (F.Suits q ∨ F.Avoids p)
  | .either p q => F.Suits p ∧ F.Suits q
  | .star p => F.Suits p ∧ p.advances = true
  | .lazyStar p => F.Suits p ∧ p.advances = true
  | .capture _ p => F.Suits p
  | .place test => ∀ c, F.Inside c → test (F.place c) = test c

open Pattern

variable {g h : Captures}

/-- A way from a place inside leads to one. -/
theorem inside_of_way {p : Pattern} (hp : F.Suits p) (hc : F.Inside c) (hw : p.Way c g d h) :
    F.Inside d := by
  induction p generalizing c g d h with
  | literal chars =>
    obtain ⟨hle, hup⟩ := Cursor.skipText?_eq_some hw.1
    exact inside_of_le hc hle (by rwa [hup])
  | one p =>
    have hover : (one p).Over F.Passes := hp
    exact inside_of_le hc hw.le (hw.of_mem_upTo hover)
  | many p => exact inside_of_le hc hw.1 fun x hx => hp x (hw.2.1 x hx)
  | seq p q ihp ihq =>
    obtain ⟨e, f, hpw, hqw⟩ := hw
    rcases hp.2 with hq | hnot
    · exact ihq hq (ihp hp.1 hc hpw) hqw
    · exact absurd hpw (hnot c g e f hc)
  | either p q ihp ihq => exact hw.elim (ihp hp.1 hc) (ihq hp.2 hc)
  | star p ih | lazyStar p ih =>
    exact Way.of_rounds (P := fun e => F.Inside e.1) hw
      (fun hround hinside => ih hp.1 hinside hround) hc
  | capture i p ih =>
    obtain ⟨f, hpw, -⟩ := hw
    exact ih hp hc hpw
  | place test =>
    rw [hw.2.1]
    exact hc

/-! ### Matching in a frame -/

/-- Behind every way of the pattern from a place, what follows answers in the frame as it does
without it. -/
def Agree (F : Frame) (p : Pattern) (c : Cursor) (g : Captures)
    (k k' : Cursor → Captures → Option MatchEnd) : Prop :=
  ∀ d f, p.Way c g d f → k' (F.place d) (F.captures f) = (k d f).map F.matchEnd

/-- The pattern answers in the frame as it does without it, if what follows does. -/
def Keeps (F : Frame) (p : Pattern) : Prop :=
  ∀ {c : Cursor} {g : Captures} {k k' : Cursor → Captures → Option MatchEnd}, F.Inside c →
    F.Agree p c g k k' → p.run (F.place c) (F.captures g) k' = (p.run c g k).map F.matchEnd

/-- What follows a greedy repetition of a class decides in the frame as without it. -/
theorem runMany_place {q : Char → Bool} (hq : ∀ x, q x = true → F.Passes x)
    {k k' : Cursor → Option MatchEnd} :
    ∀ {rest before : List Char}, F.Inside ⟨before, rest⟩ →
      (∀ d, (⟨before, rest⟩ : Cursor) ≤ d →
        (∀ x ∈ (⟨before, rest⟩ : Cursor).upTo d, q x = true) →
          k' (F.place d) = (k d).map F.matchEnd) →
      runMany q k' (before ++ F.pre.reverse) (rest ++ F.post) =
        (runMany q k before rest).map F.matchEnd := by
  intro rest
  induction rest with
  | nil =>
    intro before hc hk
    have hstay := hk ⟨before, []⟩ (le_refl _) (by simp [Cursor.upTo_self])
    rw [place, F.ends hc] at hstay
    rw [F.ends hc]
    exact hstay
  | cons x rest ih =>
    intro before hc hk
    have hstay := hk ⟨before, x :: rest⟩ (le_refl _) (by simp [Cursor.upTo_self])
    rw [List.cons_append, runMany, runMany]
    split_ifs with hx
    · -- more is tried first in both, and in vain in both or in neither
      have hmore := ih (F.step hc (hq x hx)) fun d hle hall => by
        refine hk d ((Cursor.le_next before x rest).trans hle) ?_
        rw [Cursor.upTo_cons hle]
        exact List.forall_mem_cons.mpr ⟨hx, hall⟩
      rw [List.cons_append] at hmore
      rw [hmore]
      cases runMany q k (x :: before) rest with
      | none => exact hstay
      | some o => rfl
    · exact hstay

section Rounds

variable {p : Pattern} {k k' : Cursor → Captures → Option MatchEnd}

/-- One round of a repetition takes a character, so what is left of the budget does for what is left
of the text. -/
theorem round_place (hp : F.Suits p) (hadv : p.advances = true) (hbody : F.Keeps p)
    {budget : List Char} {r r' : Matcher}
    (hrounds : ∀ {c : Cursor} {g : Captures}, F.Inside c → c.rest.length ≤ budget.length →
      F.Agree (star p) c g k k' → r' (F.place c) (F.captures g) k' = (r c g k).map F.matchEnd)
    (hc : F.Inside c) (hlen : c.rest.length ≤ budget.length + 1)
    (hk : F.Agree (star p) c g k k') :
    p.run (F.place c) (F.captures g) (fun c g => r' c g k') =
      (p.run c g fun c g => r c g k).map F.matchEnd := by
  refine hbody hc fun e f hway => ?_
  have hless := (Cursor.lt_iff_of_le hway.le).mp (hway.lt hadv)
  refine hrounds (inside_of_way hp hc hway) (by omega) ?_
  intro d f' hways
  exact hk d f' (Relation.ReflTransGen.head (b := (e, f)) hway hways)

/-- At the end of the budget no text is left, and then nothing stands behind it either. -/
theorem end_place (hc : F.Inside c) (hlen : c.rest.length ≤ ([] : List Char).length)
    (hk : F.Agree (star p) c g k k') :
    F.post = [] ∧ k' (F.place c) (F.captures g) = (k c g).map F.matchEnd := by
  obtain ⟨before, rest⟩ := c
  obtain rfl : rest = [] := List.length_eq_zero_iff.mp (Nat.le_zero.mp hlen)
  exact ⟨F.ends hc, hk _ g Relation.ReflTransGen.refl⟩

/-- A greedy repetition answers in the frame as it does without it. -/
theorem runStar_place (hp : F.Suits p) (hadv : p.advances = true) (hbody : F.Keeps p)
    {budget : List Char} : ∀ {c : Cursor} {g : Captures}, F.Inside c →
      c.rest.length ≤ budget.length → F.Agree (star p) c g k k' →
        runStar p.run (budget ++ F.post) (F.place c) (F.captures g) k' =
          (runStar p.run budget c g k).map F.matchEnd := by
  induction budget with
  | nil =>
    intro c g hc hlen hk
    obtain ⟨hpost, hstay⟩ := end_place hc hlen hk
    rw [hpost]
    exact hstay
  | cons x budget ih =>
    intro c g hc hlen hk
    rw [List.cons_append, runStar, runStar, round_place hp hadv hbody ih hc hlen hk]
    cases p.run c g fun c g => runStar p.run budget c g k with
    | none => exact hk c g Relation.ReflTransGen.refl
    | some o => rfl

/-- A lazy repetition answers in the frame as it does without it. -/
theorem runLazyStar_place (hp : F.Suits p) (hadv : p.advances = true) (hbody : F.Keeps p)
    {budget : List Char} : ∀ {c : Cursor} {g : Captures}, F.Inside c →
      c.rest.length ≤ budget.length → F.Agree (star p) c g k k' →
        runLazyStar p.run (budget ++ F.post) (F.place c) (F.captures g) k' =
          (runLazyStar p.run budget c g k).map F.matchEnd := by
  induction budget with
  | nil =>
    intro c g hc hlen hk
    obtain ⟨hpost, hstay⟩ := end_place hc hlen hk
    rw [hpost]
    exact hstay
  | cons x budget ih =>
    intro c g hc hlen hk
    rw [List.cons_append, runLazyStar, runLazyStar, round_place hp hadv hbody ih hc hlen hk,
      hk c g Relation.ReflTransGen.refl]
    cases k c g <;> rfl

end Rounds

/-- **A pattern that suits a frame answers in it as it does without it.** -/
theorem keeps_of_suits {p : Pattern} (hp : F.Suits p) : F.Keeps p := by
  induction p with
  | literal chars =>
    intro c g k k' hc hk
    rw [run_literal, run_literal, skipText?_place hp hc]
    rcases hd : c.skipText? chars with _ | d
    · rfl
    · exact hk d g ⟨hd, rfl⟩
  | one q =>
    rintro ⟨before, rest⟩ g k k' hc hk
    cases rest with
    | nil =>
      rw [place, F.ends hc]
      rfl
    | cons x rest =>
      rw [place, List.cons_append, run_one_cons, run_one_cons]
      split_ifs with hx
      · exact hk ⟨x :: before, rest⟩ g ⟨x, hx, rfl, rfl, rfl⟩
      · rfl
  | many q =>
    intro c g k k' hc hk
    rw [run_many, run_many]
    exact runMany_place hp hc fun d hle hall => hk d g ⟨hle, hall, rfl⟩
  | seq p q ihp ihq =>
    intro c g k k' hc hk
    refine ihp hp.1 hc fun e f hpw => ?_
    rcases hp.2 with hq | hnot
    · exact ihq hq (inside_of_way hp.1 hc hpw) fun d f' hqw => hk d f' ⟨e, f, hpw, hqw⟩
    · -- the second part is never come to
      exact absurd hpw (hnot c g e f hc)
  | either p q ihp ihq =>
    intro c g k k' hc hk
    have hfirst := ihp hp.1 hc fun d f hway => hk d f (Or.inl hway)
    have hsecond := ihq hp.2 hc fun d f hway => hk d f (Or.inr hway)
    change (p <|> q).run (F.place c) (F.captures g) k' = ((p <|> q).run c g k).map F.matchEnd
    rw [run_either, run_either, hfirst, hsecond]
    cases p.run c g k <;> rfl
  | star p ih =>
    intro c g k k' hc hk
    exact runStar_place hp.1 hp.2 (ih hp.1) hc (Nat.le_refl _) hk
  | lazyStar p ih =>
    intro c g k k' hc hk
    exact runLazyStar_place hp.1 hp.2 (ih hp.1) hc (Nat.le_refl _) hk
  | capture i p ih =>
    intro c g k k' hc hk
    rw [run_capture, run_capture]
    exact ih hp hc fun d f hway => hk d _ ⟨f, hway, rfl⟩
  | place test =>
    intro c g k k' hc hk
    rw [run_place, run_place, hp c hc]
    split_ifs with htest
    · exact hk c g ⟨htest, rfl, rfl⟩
    · rfl

/-- **The match at a place inside is the match at this place in the frame.** -/
theorem matchAt?_place {p : Pattern} (hp : F.Suits p) (hc : F.Inside c) :
    p.matchAt? (F.place c) = (p.matchAt? c).map F.matched := by
  have hrun : p.run (F.place c) [] (fun d g => some (d, g)) =
      (p.run c [] fun d g => some (d, g)).map F.matchEnd :=
    @keeps_of_suits F p hp c [] _ _ hc fun d f _ => rfl
  rw [matchAt?, matchAt?, hrun]
  cases p.run c [] fun d g => some (d, g) <;> rfl

theorem capture?_matched (m : Match) (i : Nat) :
    (F.matched m).capture? i = (m.capture? i).map fun (a, b) => (F.place a, F.place b) := by
  rw [Match.capture?, Match.capture?, matched, captures, List.find?_map, Option.map_map,
    Option.map_map]
  rfl

theorem captured?_matched (m : Match) (i : Nat) : (F.matched m).captured? i = m.captured? i := by
  rw [Match.captured?, capture?_matched, Match.captured?, Option.map_map]
  refine congrArg (fun f => Option.map f (m.capture? i)) (funext fun (a, b) => ?_)
  exact F.upTo_place a b

theorem span_place (c d : Cursor) :
    (F.place c).span (F.place d) = (c.span d).shift (Text.byteLength F.pre) := by
  rw [Cursor.span, offset_place, offset_place]
  rfl

theorem isEmpty_matched (m : Match) : (F.matched m).isEmpty = m.isEmpty := by
  simp only [Match.isEmpty, matched, rest_place, List.length_append, Nat.add_le_add_iff_right]

end Frame
end HeaderSurvey
