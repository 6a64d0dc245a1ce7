import HeaderSurvey.Proofs.Text.Cursor
import HeaderSurvey.Toml.Reader

/-!
# What a reader takes

`Reads r w post Q` says that the reader `r` takes exactly the text `w` in front of `post`, wherever
that is, and that `Q` holds of what it gives.  What follows is part of the statement, since a reader
looks ahead to find out where it ends.  A reader of two parts takes what one takes and then what the
other takes (`Reads.bind`), and a repeated reader takes one round after the other
(`Reads.collect`).

`Gives r s Q` says less, but of texts of which only the beginning is known: whatever `r` gives in
front of `s` satisfies `Q`.
-/

namespace HeaderSurvey.Toml.Reader

variable {α β : Type} {r r' : Reader α} {f : α → Reader β} {w w' post : List Char}
  {P Q : α → Prop} {R : β → Prop} {p : Char → Bool}

/-- In front of `post` the reader takes exactly `w`, and `Q` holds of what it gives. -/
def Reads (r : Reader α) (w post : List Char) (Q : α → Prop) : Prop :=
  ∀ pre, ∃ x, r.run (Cursor.between pre (w ++ post)) = some (x, Cursor.between (pre ++ w) post) ∧ Q x

/-- The reader finds nothing to take in front of the text. -/
def Refuses (r : Reader α) (s : List Char) : Prop :=
  ∀ pre, r.run (Cursor.between pre s) = none

/-- The text goes on with no character of the class. -/
def Stops (p : Char → Bool) (s : List Char) : Prop :=
  ∀ x rest, s = x :: rest → p x = false

theorem stops_nil : Stops p [] :=
  fun _ _ h => nomatch h

theorem stops_cons {x : Char} {s : List Char} (h : p x = false) : Stops p (x :: s) :=
  Text.forall_head h

theorem Stops.append (h : ∀ x ∈ w, p x = false) (hpost : Stops p post) : Stops p (w ++ post) := by
  cases w with
  | nil => exact hpost
  | cons x w => exact stops_cons (h x (List.mem_cons_self ..))

theorem Stops.append_stops (hw : Stops p w) (hpost : Stops p post) : Stops p (w ++ post) := by
  cases w with
  | nil => exact hpost
  | cons x w => exact stops_cons (hw x w rfl)

/-! ### One reader after another -/

theorem Reads.mono (h : Reads r w post P) (hPQ : ∀ x, P x → Q x) : Reads r w post Q := by
  intro pre
  obtain ⟨x, hrun, hx⟩ := h pre
  exact ⟨x, hrun, hPQ x hx⟩

theorem reads_pure {x : α} (h : Q x) : Reads (pure x) [] post Q := by
  intro pre
  refine ⟨x, ?_, h⟩
  rw [List.append_nil]
  rfl

/-- Two readers take what one takes and then what the other takes. -/
theorem Reads.bind (hr : Reads r w (w' ++ post) P) (hf : ∀ x, P x → Reads (f x) w' post R) :
    Reads (r >>= f) (w ++ w') post R := by
  intro pre
  obtain ⟨x, hrun, hx⟩ := hr pre
  obtain ⟨y, hrun', hy⟩ := hf x hx (pre ++ w)
  refine ⟨y, ?_, hy⟩
  rw [List.append_assoc] at hrun' ⊢
  rw [StateT.run_bind, hrun]
  exact hrun'

/-- A reader behind another that takes nothing more. -/
theorem Reads.bind_last (hr : Reads r w post P) (hf : ∀ x, P x → Reads (f x) [] post R) :
    Reads (r >>= f) w post R := by
  rw [← List.append_nil w]
  exact Reads.bind hr hf

/-- What is made of the result takes nothing more. -/
theorem Reads.bind_pure {g : α → β} (hr : Reads r w post P) (hg : ∀ x, P x → R (g x)) :
    Reads (r >>= fun x => pure (g x)) w post R :=
  hr.bind_last fun x hx => reads_pure (hg x hx)

/-- A reader in front that takes nothing. -/
theorem Reads.bind_nil (hr : Reads r [] (w ++ post) P) (hf : ∀ x, P x → Reads (f x) w post R) :
    Reads (r >>= f) w post R :=
  Reads.bind (w := []) hr hf

theorem Refuses.bind (h : Refuses r w) : Refuses (r >>= f) w := by
  intro pre
  rw [StateT.run_bind, h pre]
  rfl

theorem Reads.refuses_bind (hr : Reads r w post P) (hf : ∀ x, P x → Refuses (f x) post) :
    Refuses (r >>= f) (w ++ post) := by
  intro pre
  obtain ⟨x, hrun, hx⟩ := hr pre
  rw [StateT.run_bind, hrun]
  exact hf x hx (pre ++ w)

/-- The first of two readers is preferred. -/
theorem Reads.orElse_left (h : Reads r w post Q) : Reads (r <|> r') w post Q := by
  intro pre
  obtain ⟨x, hrun, hx⟩ := h pre
  refine ⟨x, ?_, hx⟩
  show (r.run (Cursor.between pre (w ++ post)) <|> r'.run (Cursor.between pre (w ++ post))) = _
  rw [hrun]
  rfl

/-- The second of two readers takes what the first refuses. -/
theorem Reads.orElse_right (h : Reads r' w post Q) (hr : Refuses r (w ++ post)) :
    Reads (r <|> r') w post Q := by
  intro pre
  obtain ⟨x, hrun, hx⟩ := h pre
  refine ⟨x, ?_, hx⟩
  show (r.run (Cursor.between pre (w ++ post)) <|> r'.run (Cursor.between pre (w ++ post))) = _
  rw [hr pre, hrun]
  rfl

/-! ### Single readers -/

/-- Looking at the next character takes nothing. -/
theorem reads_peek : Reads peek [] post (· = post.head?) := by
  intro pre
  refine ⟨post.head?, ?_, rfl⟩
  rw [List.append_nil]
  rfl

/-- What follows a look at the next character may depend on it. -/
theorem Reads.peek_bind {f : Option Char → Reader β} (h : Reads (f (w ++ post).head?) w post R) :
    Reads (peek >>= f) w post R := by
  refine Reads.bind_nil reads_peek ?_
  rintro _ rfl
  exact h

theorem reads_char {x : Char} (h : p x = true) : Reads (char p) [x] post (· = x) := by
  intro pre
  refine ⟨x, ?_, rfl⟩
  show (if p x = true then _ else _ : Reader Char).run _ = _
  rw [if_pos h]
  simp only [Cursor.between, List.reverse_append, List.reverse_singleton]
  rfl

theorem run_text (w : List Char) (c : Cursor) :
    (text w).run c = (c.skipText? w).map fun d => ((), d) := by
  simp only [text, StateT.run_bind, StateT.run_get, Option.pure_def, Option.bind_eq_bind,
    Option.bind_some]
  cases c.skipText? w <;> rfl

theorem reads_text : Reads (text w) w post fun _ => True := by
  intro pre
  refine ⟨(), ?_, trivial⟩
  rw [run_text, Cursor.skipText?_between pre w post]
  rfl

/-- A single character in front. -/
theorem Reads.text_bind {x : Char} {f : Unit → Reader β} (h : Reads (f ()) w post R) :
    Reads (text [x] >>= f) (x :: w) post R :=
  Reads.bind (w := [x]) reads_text fun _ _ => h

/-- A text is refused where another character comes first. -/
theorem refuses_text {x y : Char} (h : x ≠ y) : Refuses (text (x :: w)) (y :: post) := by
  intro pre
  rw [run_text, Cursor.between, Cursor.skipText?, if_neg h]
  rfl

theorem refuses_text_nil {x : Char} : Refuses (text (x :: w)) [] :=
  fun _ => rfl

/-- A text is refused where it goes on otherwise behind a common beginning. -/
theorem refuses_text_append {u : List Char} (h : Refuses (text w) post) :
    Refuses (text (u ++ w)) (u ++ post) := by
  intro pre
  have hskip : ∀ c : Cursor, c.rest = u ++ post →
      c.skipText? (u ++ w) = (Cursor.between (c.before.reverse ++ u) post).skipText? w := by
    intro c hc
    induction u generalizing c with
    | nil =>
      rw [List.nil_append, List.append_nil, ← (show c.rest = post from hc), Cursor.between_self]
    | cons x u ih =>
      obtain ⟨before, rest⟩ := c
      obtain rfl : rest = x :: (u ++ post) := hc
      rw [List.cons_append, Cursor.skipText?, if_pos rfl, ih _ rfl]
      simp
  rw [run_text, hskip _ rfl, Cursor.before_between, List.reverse_reverse, ← run_text]
  exact h (pre ++ u)

theorem reads_takeWhile (hw : ∀ x ∈ w, p x = true) (hpost : Stops p post) :
    Reads (takeWhile p) w post (· = w) := by
  intro pre
  refine ⟨w, ?_, rfl⟩
  have hskip := Cursor.skipWhile_between pre post hw hpost
  show some ((Cursor.between pre (w ++ post)).upTo ((Cursor.between pre (w ++ post)).skipWhile p),
    (Cursor.between pre (w ++ post)).skipWhile p) = _
  rw [hskip, Cursor.upTo_between]

theorem Reads.located (h : Reads r w post Q) : Reads (located r) w post fun t => Q t.2.1 := by
  intro pre
  obtain ⟨x, hrun, hx⟩ := h pre
  refine ⟨(Cursor.between pre (w ++ post), x, Cursor.between (pre ++ w) post), ?_, hx⟩
  show (r.run (Cursor.between pre (w ++ post)) >>= fun t =>
    some ((Cursor.between pre (w ++ post), t.1, t.2), t.2)) = _
  rw [hrun]
  rfl

/-! ### Whatever a reader gives -/

/-- Whatever the reader gives in front of the text, if anything, satisfies `Q`. -/
def Gives (r : Reader α) (s : List Char) (Q : α → Prop) : Prop :=
  ∀ pre x c, r.run (Cursor.between pre s) = some (x, c) → Q x

theorem Gives.mono (h : Gives r w P) (hPQ : ∀ x, P x → Q x) : Gives r w Q :=
  fun pre x c hrun => hPQ x (h pre x c hrun)

theorem gives_pure {x : α} (h : Q x) : Gives (pure x) w Q := by
  intro pre y c hrun
  obtain ⟨rfl, -⟩ := Prod.mk.inj (Option.some.inj hrun)
  exact h

/-- What a reader gives behind another that takes a known text. -/
theorem Reads.gives_bind (hr : Reads r w post P) (hf : ∀ x, P x → Gives (f x) post R) :
    Gives (r >>= f) (w ++ post) R := by
  intro pre y c hrun
  obtain ⟨x, hrun', hx⟩ := hr pre
  rw [StateT.run_bind, hrun'] at hrun
  exact hf x hx (pre ++ w) y c hrun

/-- What a reader gives behind another that may take any text. -/
theorem Gives.bind (hr : Gives r w P) (hf : ∀ x, P x → ∀ s, Gives (f x) s R) :
    Gives (r >>= f) w R := by
  intro pre y c hrun
  rw [StateT.run_bind] at hrun
  obtain ⟨⟨x, d⟩, hfirst, hrest⟩ := Option.bind_eq_some_iff.mp hrun
  refine hf x (hr pre x d hfirst) d.rest d.before.reverse y c ?_
  rwa [Cursor.between_self]

theorem Gives.text_bind {x : Char} {f : Unit → Reader β} (h : Gives (f ()) w R) :
    Gives (text [x] >>= f) (x :: w) R :=
  Reads.gives_bind (w := [x]) reads_text fun _ _ => h

theorem Gives.peek_bind {f : Option Char → Reader β} (h : Gives (f w.head?) w R) :
    Gives (peek >>= f) w R := by
  refine Reads.gives_bind (w := []) reads_peek ?_
  rintro _ rfl
  exact h

/-- Nothing that a reader of any text gives matters for what comes of its result. -/
theorem Gives.of_bind (hf : ∀ x s, Gives (f x) s R) : Gives (r >>= f) w R :=
  Gives.bind (P := fun _ => True) (fun _ _ _ _ => trivial) fun x _ => hf x

theorem Gives.located (h : Gives r w Q) : Gives (Reader.located r) w fun t => Q t.2.1 := by
  intro pre t c hrun
  obtain ⟨⟨x, d⟩, hr, hpure⟩ := Option.bind_eq_some_iff.mp
    (show (r.run (Cursor.between pre w) >>= fun t =>
      some ((Cursor.between pre w, t.1, t.2), t.2)) = some (t, c) from hrun)
  obtain ⟨rfl, -⟩ := Prod.mk.inj (Option.some.inj hpure)
  exact h pre x d hr

/-! ### Repeated readers -/

section Collect

variable {step : Reader (List α × Bool)} {A B C : List α → Prop}

/-- Rounds of the reader take the text, if as many are allowed as it has characters. -/
def ReadsRounds (step : Reader (List α × Bool)) (w post : List Char) (A : List α → Prop) : Prop :=
  ∀ budget : List Char, w.length ≤ budget.length → Reads (collectWithin step budget) w post A

/-- The last round. -/
theorem ReadsRounds.last (h : Reads step w post fun t => t.2 = false ∧ A t.1) :
    ReadsRounds step w post A := by
  intro budget _
  have hpure : ∀ t : List α × Bool, t.2 = false ∧ A t.1 →
      Reads (if t.2 then failure else pure t.1 : Reader (List α)) [] post A := by
    rintro ⟨xs, more⟩ ⟨hmore, hxs⟩
    obtain rfl : more = false := hmore
    exact reads_pure hxs
  cases budget with
  | nil => exact h.bind_last hpure
  | cons y budget =>
    refine h.bind_last ?_
    rintro ⟨xs, more⟩ ⟨hmore, hxs⟩
    obtain rfl : more = false := hmore
    exact reads_pure hxs

/-- A round that is not the last takes a character at least. -/
theorem ReadsRounds.more (h : Reads step w (w' ++ post) fun t => t.2 = true ∧ A t.1) (hw : w ≠ [])
    (hrest : ReadsRounds step w' post B) (hC : ∀ xs ys, A xs → B ys → C (xs ++ ys)) :
    ReadsRounds step (w ++ w') post C := by
  intro budget hlen
  have hpos := List.length_pos_iff.mpr hw
  rw [List.length_append] at hlen
  cases budget with
  | nil =>
    rw [List.length_nil] at hlen
    omega
  | cons y budget =>
    rw [List.length_cons] at hlen
    refine Reads.bind
      (f := fun t => if t.2 then (do return t.1 ++ (← collectWithin step budget)) else pure t.1)
      h ?_
    rintro ⟨xs, more⟩ ⟨hmore, hxs⟩
    obtain rfl : more = true := hmore
    exact (hrest budget (by omega)).bind_pure fun ys hys => hC xs ys hxs hys

/-- **A repeated reader takes what its rounds take.** -/
theorem Reads.collect (h : ReadsRounds step w post A) : Reads (collect step) w post A := by
  intro pre
  have hlen : w.length ≤ (w ++ post).length := by simp
  exact h (w ++ post) hlen pre

/-- Whatever rounds of the reader give in front of the text. -/
def GivesRounds (step : Reader (List α × Bool)) (s : List Char) (A : List α → Prop) : Prop :=
  ∀ budget, Gives (collectWithin step budget) s A

/-- Behind a round that takes a known text. -/
theorem GivesRounds.more (h : Reads step w post fun t => t.2 = true ∧ A t.1)
    (hrest : GivesRounds step post B) (hC : ∀ xs ys, A xs → B ys → C (xs ++ ys)) :
    GivesRounds step (w ++ post) C := by
  intro budget
  cases budget with
  | nil =>
    refine Reads.gives_bind (f := fun t => if t.2 then failure else pure t.1) h ?_
    rintro ⟨xs, more⟩ ⟨hmore, -⟩
    obtain rfl : more = true := hmore
    exact fun _ _ _ hrun => nomatch hrun
  | cons y budget =>
    refine Reads.gives_bind
      (f := fun t => if t.2 then (do return t.1 ++ (← collectWithin step budget)) else pure t.1)
      h ?_
    rintro ⟨xs, more⟩ ⟨hmore, hxs⟩
    obtain rfl : more = true := hmore
    exact Gives.bind (hrest budget) fun ys hys _ => gives_pure (hC xs ys hxs hys)

/-- What comes first is what the first round gives. -/
theorem GivesRounds.first (h : Gives step w fun t => A t.1)
    (hC : ∀ xs ys, A xs → C (xs ++ ys)) : GivesRounds step w C := by
  have hlast : ∀ xs, A xs → C xs := fun xs hxs => by simpa using hC xs [] hxs
  intro budget
  cases budget with
  | nil =>
    refine Gives.bind (f := fun t => if t.2 then failure else pure t.1) h ?_
    rintro ⟨xs, more⟩ hxs s
    cases more with
    | true => exact fun _ _ _ hrun => nomatch hrun
    | false => exact gives_pure (hlast xs hxs)
  | cons y budget =>
    refine Gives.bind
      (f := fun t => if t.2 then (do return t.1 ++ (← collectWithin step budget)) else pure t.1)
      h ?_
    rintro ⟨xs, more⟩ hxs s
    cases more with
    | true => exact Gives.of_bind fun ys s => gives_pure (hC xs ys hxs)
    | false => exact gives_pure (hlast xs hxs)

end Collect

end HeaderSurvey.Toml.Reader
