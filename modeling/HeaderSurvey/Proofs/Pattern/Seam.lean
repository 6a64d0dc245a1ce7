import HeaderSurvey.Proofs.Pattern.Frame

/-!
# Searching across a seam

A text is put in front of another one.  Of the first it is known that it ends in a semicolon and a
newline and holds neither a slash nor the word `template` (`SelfContained`), of the second nothing.

For a pattern that is `IsLocal` the leftmost match in the whole is the one in the first text, if
there is one (`find?_inFront`), and otherwise the one that the second text has on its own
(`find?_behind`).
-/

namespace HeaderSurvey

/-- The text ends in a semicolon and a newline, and neither a comment nor a template head begins in
it. -/
structure SelfContained (text : List Char) : Prop where
  ends : [';', '\n'] <:+ text
  no_slash : '/' ∉ text
  no_template : ¬ "template".toList <:+: text

namespace SelfContained

theorem not_nil : ¬ SelfContained [] := fun h =>
  absurd (List.suffix_nil.mp h.ends) (by decide)

/-- What is left behind the first character ends in the same way, or that character was the last
semicolon. -/
theorem of_cons {x : Char} {rest : List Char} (h : SelfContained (x :: rest)) :
    SelfContained rest ∨ x = ';' ∧ rest = ['\n'] := by
  rcases List.suffix_cons_iff.mp h.ends with heq | hends
  · obtain ⟨rfl, rfl⟩ := List.cons.inj heq
    exact Or.inr ⟨rfl, rfl⟩
  · refine Or.inl ⟨hends, fun hslash => h.no_slash (List.mem_cons_of_mem x hslash), ?_⟩
    exact fun htemplate => h.no_template (List.infix_cons htemplate)

/-- What is left behind a character other than the last two still ends in these. -/
theorem of_append_cons {u rest : List Char} {x : Char} (h : SelfContained (u ++ x :: rest))
    (hx : x ≠ ';') (hn : x ≠ '\n') : SelfContained rest := by
  induction u with
  | nil =>
    rcases h.of_cons with hrest | ⟨rfl, -⟩
    · exact hrest
    · exact absurd rfl hx
  | cons y u ih =>
    rcases h.of_cons with hrest | ⟨-, hrest⟩
    · exact ih hrest
    · have hmem : x ∈ ['\n'] := hrest ▸ List.mem_append_right u (List.mem_cons_self ..)
      exact absurd (List.mem_singleton.mp hmem) hn

/-- Every place of such a text is in front of the last semicolon, behind it or at the end. -/
theorem of_le {c d : Cursor} (hc : SelfContained c.rest) (hle : c ≤ d) :
    SelfContained d.rest ∨ (∃ before, d = ⟨';' :: before, ['\n']⟩) ∨
      ∃ before, d = ⟨before, []⟩ := by
  obtain ⟨pre, s, post, rfl, rfl⟩ := Cursor.exists_between_of_le hle
  rw [Cursor.rest_between] at hc
  induction s generalizing pre with
  | nil =>
    rw [List.append_nil]
    exact Or.inl hc
  | cons x s ih =>
    have hsplit : pre ++ x :: s = (pre ++ [x]) ++ s := by simp
    rw [hsplit]
    rcases hc.of_cons with hrest | ⟨rfl, hrest⟩
    · exact ih (pre ++ [x]) hrest (Cursor.between_le_between _ s post)
    · right
      rcases s with _ | ⟨y, s⟩
      · exact Or.inl ⟨pre.reverse, by simp [Cursor.between, ← hrest]⟩
      · obtain ⟨-, hnil⟩ := List.cons.inj hrest
        obtain ⟨-, rfl⟩ := List.append_eq_nil_iff.mp hnil
        exact Or.inr ⟨_, rfl⟩

/-- The text ends a line. -/
theorem exists_reverse_eq {text : List Char} (h : SelfContained text) :
    ∃ front, text.reverse = '\n' :: ';' :: front := by
  obtain ⟨s, rfl⟩ := h.ends
  exact ⟨s.reverse, by simp⟩

end SelfContained

namespace Frame

/-- Text in front of everything that is searched. -/
def behind (pre : List Char) : Frame where
  pre := pre
  post := []
  Inside _ := True
  Passes _ := True
  step _ _ := trivial
  ends _ := rfl

/-- Text behind everything that is searched, which ends in a semicolon and a newline.  No semicolon
may be passed over, as it could be the last one. -/
def inFront (post : List Char) : Frame where
  pre := []
  post := post
  Inside c := SelfContained c.rest
  Passes x := x ≠ ';'
  step h hx := h.of_cons.resolve_right fun hlast => hx hlast.1
  ends h := absurd h SelfContained.not_nil

theorem place_inFront (post : List Char) (c : Cursor) :
    (inFront post).place c = ⟨c.before, c.rest ++ post⟩ := by
  rw [place, inFront, List.reverse_nil, List.append_nil]

theorem place_behind (pre : List Char) (c : Cursor) :
    (behind pre).place c = ⟨c.before ++ pre.reverse, c.rest⟩ := by
  rw [place, behind, List.append_nil]

end Frame

namespace Pattern

/-- The pattern looks only at what it takes and at the neighbours of that, and does not take a
semicolon and a newline behind it. -/
structure IsLocal (p : Pattern) : Prop where
  advances : p.advances = true
  behind : ∀ {pre : List Char}, SelfContained pre → (Frame.behind pre).Suits p
  inFront : ∀ post : List Char, (Frame.inFront post).Suits p
  newline : ∀ before post : List Char, p.matchAt? ⟨';' :: before, '\n' :: post⟩ = none

variable {p : Pattern}

/-- A match in such a text ends in front of the last semicolon. -/
theorem IsLocal.selfContained_stop (hp : p.IsLocal) {c : Cursor} {m : Match}
    (hc : SelfContained c.rest) (hle : c ≤ m.start) (hm : p.matchAt? m.start = some m) :
    SelfContained m.stop.rest := by
  rcases hc.of_le hle with hstart | ⟨before, hstart⟩ | ⟨before, hstart⟩
  · exact Frame.inside_of_way (hp.inFront []) hstart (way_of_matchAt? hm)
  · rw [hstart, hp.newline] at hm
    exact absurd hm (by simp)
  · rw [hstart, matchAt?_eq_none_of_advances hp.advances] at hm
    exact absurd hm (by simp)

theorem find?_cons (before : List Char) (x : Char) (rest : List Char) :
    p.find? ⟨before, x :: rest⟩ =
      match p.matchAt? ⟨before, x :: rest⟩ with
      | some m => some m
      | none => p.find? ⟨x :: before, rest⟩ :=
  rfl

/-- **Behind a text the search finds what it finds without it.** -/
theorem find?_behind {pre : List Char} (hp : (Frame.behind pre).Suits p) (c : Cursor) :
    p.find? ((Frame.behind pre).place c) = (p.find? c).map (Frame.behind pre).matched := by
  obtain ⟨before, rest⟩ := c
  induction rest generalizing before with
  | nil => exact Frame.matchAt?_place (c := ⟨before, []⟩) hp trivial
  | cons x rest ih =>
    have hhere := Frame.matchAt?_place (c := ⟨before, x :: rest⟩) hp trivial
    have hmore := ih (x :: before)
    rw [Frame.place_behind] at hhere hmore ⊢
    rw [find?_cons, find?_cons, hhere]
    cases p.matchAt? ⟨before, x :: rest⟩ with
    | some m => rfl
    | none => exact hmore

/-- **In front of a text the search finds what it finds without it, and otherwise goes on
there.** -/
theorem find?_inFront (hp : p.IsLocal) (post : List Char) {c : Cursor}
    (hc : SelfContained c.rest) :
    (∃ m, p.find? c = some m ∧
      p.find? ((Frame.inFront post).place c) = some ((Frame.inFront post).matched m)) ∨
    (p.find? c = none ∧
      p.find? ((Frame.inFront post).place c) = p.find? (Cursor.between c.text post)) := by
  obtain ⟨before, rest⟩ := c
  induction rest generalizing before with
  | nil => exact absurd hc SelfContained.not_nil
  | cons x rest ih =>
    have hhere := Frame.matchAt?_place (F := .inFront post) (c := ⟨before, x :: rest⟩)
      (hp.inFront post) hc
    have htext : Cursor.text ⟨before, x :: rest⟩ = Cursor.text ⟨x :: before, rest⟩ := by
      simp [Cursor.text]
    rw [Frame.place_inFront] at hhere
    rw [Frame.place_inFront, List.cons_append, find?_cons, find?_cons, ← List.cons_append,
      hhere]
    rcases hm : p.matchAt? ⟨before, x :: rest⟩ with _ | m
    · rcases hc.of_cons with hrest | ⟨rfl, rfl⟩
      · have hmore := ih (x :: before) hrest
        rw [Frame.place_inFront, ← htext] at hmore
        exact hmore
      · -- only the newline is left, and it begins no match
        have hend : ∀ post, p.find? ⟨';' :: before, '\n' :: post⟩ =
            p.find? ⟨'\n' :: ';' :: before, post⟩ := by
          intro post
          rw [find?_cons, hp.newline]
        refine Or.inr ⟨?_, ?_⟩
        · exact (hend []).trans (matchAt?_eq_none_of_advances hp.advances _)
        · have hseam : Cursor.between (Cursor.text ⟨before, [';', '\n']⟩) post =
              ⟨'\n' :: ';' :: before, post⟩ := by
            simp [Cursor.text, Cursor.between]
          rw [hseam]
          exact hend post
    · exact Or.inl ⟨m, rfl, rfl⟩

end Pattern
end HeaderSurvey
