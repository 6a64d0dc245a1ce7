import HeaderSurvey.Proofs.Pattern.Ways
import Mathlib.Tactic.Tauto

/-!
# The stretches that a pattern takes

`c.Leads s d` says that the text `s` stands between the places `c` and `d`.  Stretches can be joined
and cut (`Cursor.leads_append`), so a way of a sequence is a text that falls into stretches, one for
each part.

A pattern without captures and places is plain: whether it can lead from one place to another is a
question about the text between the two alone.  `p.Takes s` says that `s` is a text of the pattern,
and `way_iff_takes` that the ways of a plain pattern are its texts, wherever they stand.  It is an
equivalence, so it serves to take a match apart and to put one together.
-/

namespace HeaderSurvey

namespace Cursor

/-- The text `s` leads from one place to another: it stands between the two. -/
def Leads (c : Cursor) (s : List Char) (d : Cursor) : Prop :=
  c ≤ d ∧ c.upTo d = s

theorem leads_between (pre s post : List Char) :
    (between pre (s ++ post)).Leads s (between (pre ++ s) post) :=
  ⟨between_le_between pre s post, upTo_between pre s post⟩

/-- Behind a text that leads somewhere the rest of the text goes on. -/
theorem Leads.eq_between {pre rest s : List Char} {d : Cursor}
    (h : (between pre rest).Leads s d) :
    ∃ post, rest = s ++ post ∧ d = between (pre ++ s) post := by
  obtain ⟨hle, rfl⟩ := h
  have hrest := rest_eq_upTo hle
  have hbefore := before_eq_upTo hle
  rw [rest_between] at hrest
  rw [before_between] at hbefore
  refine ⟨d.rest, hrest, ?_⟩
  rw [between, List.reverse_append, ← hbefore]

/-- What leads to a place behind a place leads there step by step. -/
theorem leads_append {c e : Cursor} {s t : List Char} :
    c.Leads (s ++ t) e ↔ ∃ d, c.Leads s d ∧ d.Leads t e := by
  constructor
  · intro h
    rw [← between_self c] at h
    obtain ⟨post, hrest, rfl⟩ := h.eq_between
    refine ⟨between (c.before.reverse ++ s) (t ++ post), ?_, ?_⟩
    · have hleads := leads_between c.before.reverse s (t ++ post)
      rwa [← List.append_assoc, ← hrest, between_self] at hleads
    · have hleads := leads_between (c.before.reverse ++ s) t post
      rwa [List.append_assoc] at hleads
  · rintro ⟨d, ⟨hcd, rfl⟩, ⟨hde, rfl⟩⟩
    exact ⟨hcd.trans hde, (upTo_append hcd hde).symm⟩

theorem leads_nil {c d : Cursor} : c.Leads [] d ↔ d = c := by
  constructor
  · intro h
    rw [← between_self c] at h
    obtain ⟨post, hrest, rfl⟩ := h.eq_between
    rw [List.append_nil, ← List.nil_append post, ← hrest, between_self]
  · rintro rfl
    exact ⟨le_refl d, upTo_self d⟩

theorem leads_singleton {c d : Cursor} {x : Char} :
    c.Leads [x] d ↔ c.rest = x :: d.rest ∧ d.before = x :: c.before := by
  constructor
  · rintro ⟨hle, hup⟩
    exact ⟨by rw [rest_eq_upTo hle, hup]; rfl, by rw [before_eq_upTo hle, hup]; rfl⟩
  · rintro ⟨hrest, hbefore⟩
    have hle : c ≤ d := ⟨[x], hrest, hbefore⟩
    have hup : c.upTo d ++ d.rest = [x] ++ d.rest := by
      rw [← rest_eq_upTo hle, hrest]
      rfl
    exact ⟨hle, List.append_cancel_right hup⟩

end Cursor

namespace Pattern

variable {c d : Cursor} {g f : Captures}

theorem way_literal_iff {s : List Char} : (literal s).Way c g d f ↔ c.Leads s d ∧ f = g := by
  refine and_congr_left fun _ => ⟨Cursor.skipText?_eq_some, fun h => ?_⟩
  rw [← Cursor.between_self c] at h ⊢
  obtain ⟨post, hrest, rfl⟩ := h.eq_between
  rw [hrest]
  exact Cursor.skipText?_between _ _ _

theorem way_many_iff {p : Char → Bool} :
    (many p).Way c g d f ↔ ∃ s, c.Leads s d ∧ (∀ x ∈ s, p x = true) ∧ f = g := by
  constructor
  · rintro ⟨hle, hall, rfl⟩
    exact ⟨c.upTo d, ⟨hle, rfl⟩, hall, rfl⟩
  · rintro ⟨s, ⟨hle, rfl⟩, hall, rfl⟩
    exact ⟨hle, hall, rfl⟩

theorem way_one_iff {p : Char → Bool} :
    (one p).Way c g d f ↔ ∃ x, c.Leads [x] d ∧ p x = true ∧ f = g := by
  refine exists_congr fun x => ?_
  rw [Cursor.leads_singleton]
  tauto

/-- Sequences can be bracketed either way. -/
theorem way_seq_assoc {p q r : Pattern} :
    (p ++ q ++ r).Way c g d f ↔ (p ++ (q ++ r)).Way c g d f := by
  constructor
  · rintro ⟨e, h, ⟨e', h', hp, hq⟩, hr⟩
    exact ⟨e', h', hp, e, h, hq, hr⟩
  · rintro ⟨e', h', hp, e, h, hq, hr⟩
    exact ⟨e, h, ⟨e', h', hp, hq⟩, hr⟩

/-! ### Plain patterns -/

/-- Whether the pattern captures nothing and asks about no place. -/
def isPlain : Pattern → Bool
  | literal _ => true
  | one _ => true
  | many _ => true
  | seq p q => p.isPlain && q.isPlain
  | either p q => p.isPlain && q.isPlain
  | star p => p.isPlain
  | lazyStar p => p.isPlain
  | capture _ _ => false
  | place _ => false

/-- The texts that a pattern takes, if captures and places are left aside. -/
def Takes : Pattern → List Char → Prop
  | literal w, s => s = w
  | one p, s => ∃ x, s = [x] ∧ p x = true
  | many p, s => ∀ x ∈ s, p x = true
  | seq p q, s => ∃ u v, s = u ++ v ∧ p.Takes u ∧ q.Takes v
  | either p q, s => p.Takes s ∨ q.Takes s
  | star p, s => ∃ ss : List (List Char), s = ss.flatten ∧ ∀ u ∈ ss, p.Takes u
  | lazyStar p, s => ∃ ss : List (List Char), s = ss.flatten ∧ ∀ u ∈ ss, p.Takes u
  | capture _ p, s => p.Takes s
  | place _, s => s = []

/-- A number of rounds is a text that falls into as many texts of the body. -/
theorem rounds_iff_takes {p : Pattern}
    (hp : ∀ {c d : Cursor} {g f : Captures},
      p.Way c g d f ↔ ∃ s, c.Leads s d ∧ p.Takes s ∧ f = g) {u v : MatchEnd} :
    Relation.ReflTransGen (fun a b : MatchEnd => p.Way a.1 a.2 b.1 b.2) u v ↔
      ∃ s, u.1.Leads s v.1 ∧ (∃ ss : List (List Char), s = ss.flatten ∧ ∀ t ∈ ss, p.Takes t) ∧
        v.2 = u.2 := by
  constructor
  · intro h
    induction h using Relation.ReflTransGen.head_induction_on with
    | refl => exact ⟨[], Cursor.leads_nil.mpr rfl, ⟨[], rfl, by simp⟩, rfl⟩
    | head hround _ ih =>
      obtain ⟨t, ht, htakes, heq⟩ := hp.mp hround
      obtain ⟨_, hs, ⟨ss, rfl, hss⟩, heq'⟩ := ih
      exact ⟨t ++ ss.flatten, Cursor.leads_append.mpr ⟨_, ht, hs⟩,
        ⟨t :: ss, rfl, List.forall_mem_cons.mpr ⟨htakes, hss⟩⟩, heq'.trans heq⟩
  · rintro ⟨_, hleads, ⟨ss, rfl, hss⟩, heq⟩
    obtain ⟨c, g⟩ := u
    obtain ⟨d, f⟩ := v
    obtain rfl : f = g := heq
    induction ss generalizing c with
    | nil =>
      obtain rfl := Cursor.leads_nil.mp hleads
      exact .refl
    | cons t ss ih =>
      obtain ⟨htakes, hss⟩ := List.forall_mem_cons.mp hss
      obtain ⟨e, ht, hrest⟩ := Cursor.leads_append.mp hleads
      exact .head (b := (e, f)) (hp.mpr ⟨t, ht, htakes, rfl⟩) (ih hss e hrest)

/-- **The ways of a plain pattern are its texts**, wherever they stand. -/
theorem way_iff_takes {p : Pattern} (hp : p.isPlain = true) :
    p.Way c g d f ↔ ∃ s, c.Leads s d ∧ p.Takes s ∧ f = g := by
  induction p generalizing c g d f with
  | literal w =>
    rw [way_literal_iff]
    constructor
    · rintro ⟨hleads, hf⟩
      exact ⟨w, hleads, rfl, hf⟩
    · rintro ⟨_, hleads, rfl, hf⟩
      exact ⟨hleads, hf⟩
  | one p =>
    rw [way_one_iff]
    constructor
    · rintro ⟨x, hleads, hx, hf⟩
      exact ⟨[x], hleads, ⟨x, rfl, hx⟩, hf⟩
    · rintro ⟨_, hleads, ⟨x, rfl, hx⟩, hf⟩
      exact ⟨x, hleads, hx, hf⟩
  | many p => exact way_many_iff
  | seq p q ihp ihq =>
    obtain ⟨hp, hq⟩ := Bool.and_eq_true_iff.mp hp
    constructor
    · rintro ⟨e, f', hpw, hqw⟩
      obtain ⟨u, hu, hpu, rfl⟩ := (ihp hp).mp hpw
      obtain ⟨v, hv, hqv, rfl⟩ := (ihq hq).mp hqw
      exact ⟨u ++ v, Cursor.leads_append.mpr ⟨e, hu, hv⟩, ⟨u, v, rfl, hpu, hqv⟩, rfl⟩
    · rintro ⟨_, hleads, ⟨u, v, rfl, hpu, hqv⟩, rfl⟩
      obtain ⟨e, hu, hv⟩ := Cursor.leads_append.mp hleads
      exact ⟨e, f, (ihp hp).mpr ⟨u, hu, hpu, rfl⟩, (ihq hq).mpr ⟨v, hv, hqv, rfl⟩⟩
  | either p q ihp ihq =>
    obtain ⟨hp, hq⟩ := Bool.and_eq_true_iff.mp hp
    refine (or_congr (ihp hp) (ihq hq)).trans ?_
    rw [← exists_or]
    refine exists_congr fun s => ?_
    rw [Takes]
    tauto
  | star p ih | lazyStar p ih => exact rounds_iff_takes (ih hp)
  | capture i p => exact nomatch hp
  | place test => exact nomatch hp

/-! ### Texts of a pattern -/

section Takes

variable {q : Pattern} {s w : List Char}

/-- A text and then what another pattern takes. -/
theorem takes_literal_seq : (literal w ++ q).Takes s ↔ ∃ v, s = w ++ v ∧ q.Takes v := by
  constructor
  · rintro ⟨_, v, hs, rfl, hv⟩
    exact ⟨v, hs, hv⟩
  · rintro ⟨v, hs, hv⟩
    exact ⟨w, v, hs, rfl, hv⟩

theorem takes_oneOrMore {p : Char → Bool} :
    (oneOrMore p).Takes s ↔ s ≠ [] ∧ ∀ x ∈ s, p x = true := by
  constructor
  · rintro ⟨_, s, rfl, ⟨x, rfl, hx⟩, hs⟩
    exact ⟨List.cons_ne_nil x s, List.forall_mem_cons.mpr ⟨hx, hs⟩⟩
  · rintro ⟨hne, hs⟩
    obtain ⟨x, s, rfl⟩ := List.exists_cons_of_ne_nil hne
    obtain ⟨hx, hs⟩ := List.forall_mem_cons.mp hs
    exact ⟨[x], s, rfl, ⟨x, rfl, hx⟩, hs⟩

end Takes

/-! ### Where a plain pattern stops -/

/-- Two answers that end at the same place, or two failures. -/
def SameStop (o o' : Option MatchEnd) : Prop :=
  o.map Prod.fst = o'.map Prod.fst

/-- A second attempt behind a first one. -/
theorem SameStop.retry {o o' q q' : Option MatchEnd} : SameStop o o' → SameStop q q' →
    SameStop (match o with | some a => some a | none => q)
      (match o' with | some a => some a | none => q') := by
  intro h h'
  rcases o with _ | a
  · rcases o' with _ | a'
    · exact h'
    · exact nomatch h
  · rcases o' with _ | a'
    · exact nomatch h
    · exact h

theorem sameStop_runMany {p : Char → Bool} {k k' : Cursor → Option MatchEnd}
    (hk : ∀ d, SameStop (k d) (k' d)) (before rest : List Char) :
    SameStop (runMany p k before rest) (runMany p k' before rest) := by
  induction rest generalizing before with
  | nil => exact hk _
  | cons x rest ih =>
    rw [runMany, runMany]
    split_ifs
    · exact (ih (x :: before)).retry (hk _)
    · exact hk _

section Rounds

variable {run : Cursor → Captures → (Cursor → Captures → Option MatchEnd) → Option MatchEnd}
  {g g' : Captures} {k k' : Cursor → Captures → Option MatchEnd}

/-- The rounds stop at the same place if each of them does. -/
theorem sameStop_runStar
    (hrun : ∀ {c : Cursor} {k k' : Cursor → Captures → Option MatchEnd},
      (∀ d, SameStop (k d g) (k' d g')) → SameStop (run c g k) (run c g' k'))
    (hk : ∀ d, SameStop (k d g) (k' d g')) (budget : List Char) (c : Cursor) :
    SameStop (runStar run budget c g k) (runStar run budget c g' k') := by
  induction budget generalizing c with
  | nil => exact hk c
  | cons x budget ih =>
    have hround : SameStop (run c g fun c g => runStar run budget c g k)
        (run c g' fun c g => runStar run budget c g k') := hrun ih
    exact hround.retry (hk c)

theorem sameStop_runLazyStar
    (hrun : ∀ {c : Cursor} {k k' : Cursor → Captures → Option MatchEnd},
      (∀ d, SameStop (k d g) (k' d g')) → SameStop (run c g k) (run c g' k'))
    (hk : ∀ d, SameStop (k d g) (k' d g')) (budget : List Char) (c : Cursor) :
    SameStop (runLazyStar run budget c g k) (runLazyStar run budget c g' k') := by
  induction budget generalizing c with
  | nil => exact hk c
  | cons x budget ih =>
    have hround : SameStop (run c g fun c g => runLazyStar run budget c g k)
        (run c g' fun c g => runLazyStar run budget c g k') := hrun ih
    exact (hk c).retry hround

end Rounds

/-- **Where a plain pattern stops does not depend on what has been captured.** -/
theorem sameStop_run {p : Pattern} (hp : p.isPlain = true) {c : Cursor} {g g' : Captures}
    {k k' : Cursor → Captures → Option MatchEnd} (hk : ∀ d, SameStop (k d g) (k' d g')) :
    SameStop (p.run c g k) (p.run c g' k') := by
  induction p generalizing c g g' k k' with
  | literal w =>
    rw [run_literal, run_literal]
    split
    · exact hk _
    · rfl
  | one p =>
    obtain ⟨before, rest⟩ := c
    cases rest with
    | nil => rfl
    | cons x rest =>
      rw [run_one_cons, run_one_cons]
      split_ifs
      · exact hk _
      · rfl
  | many p => exact sameStop_runMany hk c.before c.rest
  | seq p q ihp ihq =>
    obtain ⟨hp, hq⟩ := Bool.and_eq_true_iff.mp hp
    exact ihp hp fun d => ihq hq hk
  | either p q ihp ihq =>
    obtain ⟨hp, hq⟩ := Bool.and_eq_true_iff.mp hp
    exact (ihp hp hk).retry (ihq hq hk)
  | star p ih => exact sameStop_runStar (fun hk => ih hp hk) hk c.rest c
  | lazyStar p ih => exact sameStop_runLazyStar (fun hk => ih hp hk) hk c.rest c
  | capture i p => exact nomatch hp
  | place test => exact nomatch hp

end Pattern
end HeaderSurvey
