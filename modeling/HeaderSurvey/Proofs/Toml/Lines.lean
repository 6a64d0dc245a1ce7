import HeaderSurvey.Proofs.Toml.Keys
import HeaderSurvey.Proofs.Toml.Lists

/-!
# How documents are written

A document of settings says two kinds of things, each on a line of its own: that a section begins,
and that a setting of the section is a string or a list of strings (`Clause`).  `IsDocument text cs`
says that the text is one of the ways to write the clauses `cs`, with spaces, comments and empty
lines wherever they may stand.  Whichever way it is, the clauses are read in their order
(`IsDocument.reads`); and if it is known only how a text begins, what is read begins with what is
written there (`IsLines.givesRounds`).
-/

namespace HeaderSurvey.Toml

open Reader

variable {post : List Char}

/-! ### What a document says -/

/-- What a setting is. -/
inductive Content where
  | text (s : String)
  | texts (ss : List String)
  deriving DecidableEq

/-- What a line says: that a section begins, or what a setting is. -/
inductive Clause where
  | heading (name : String)
  | setting (name : String) (content : Content)
  deriving DecidableEq

/-- The item is what a setting is. -/
def Content.Matches : Content → Item → Prop
  | text s, item => IsText s.toList item
  | texts ss, item => ∃ e items, item = .array e items ∧
      List.Forall₂ IsText (ss.map String.toList) items

/-- The line says what the clause says. -/
def Clause.Matches : Clause → Line → Prop
  | heading name, .header repeated key _ => repeated = false ∧ key.names = [name]
  | setting name content, .assignment a => a.key.names = [name] ∧ content.Matches a.item
  | _, _ => False

/-! ### How it is written -/

/-- What a setting is, written as a value. -/
inductive IsContent : List Char → Content → Prop
  | text {w : List Char} {s : String} : IsString w s.toList → IsContent w (.text s)
  | texts {v : List Char} {ss : List String} : IsStrings v (ss.map String.toList) →
      IsContent ('[' :: v) (.texts ss)

/-- A clause without the rest of its line. -/
inductive IsClause : List Char → Clause → Prop
  | heading {g k : List Char} {name : String} : IsGap g → IsKey k [name.toList] →
      IsClause (g ++ '[' :: (k ++ [']'])) (.heading name)
  | setting {k g v : List Char} {name : String} {content : Content} : IsKey k [name.toList] →
      IsGap g → IsContent v content → IsClause (k ++ '=' :: (g ++ v)) (.setting name content)

/-- Lines, each with its end, and the clauses on them. -/
inductive IsLines : List Char → List Clause → Prop
  | nil : IsLines [] []
  | empty {l v : List Char} {cs : List Clause} : IsEmptyLine l → IsLines v cs → IsLines (l ++ v) cs
  | clause {w l v : List Char} {c : Clause} {cs : List Clause} : IsClause w c → IsEmptyLine l →
      IsLines v cs → IsLines (w ++ (l ++ v)) (c :: cs)

/-- The last line of a document, without an end. -/
inductive IsLastLine : List Char → List Clause → Prop
  | empty {g w : List Char} : IsGap g → IsComment w → IsLastLine (g ++ w) []
  | clause {v g w : List Char} {c : Clause} : IsClause v c → IsGap g → IsComment w →
      IsLastLine (v ++ (g ++ w)) [c]

/-- A text that says these clauses. -/
def IsDocument (text : List Char) (cs : List Clause) : Prop :=
  ∃ front last cs₁ cs₂, IsLines front cs₁ ∧ IsLastLine last cs₂ ∧ text = front ++ last ∧
    cs = cs₁ ++ cs₂

theorem exists_isClause (c : Clause) : ∃ w, IsClause w c := by
  have hkey : ∀ name : String, ∃ k, IsKey k [name.toList] := fun name =>
    ⟨_, .last isGap_nil (.basic (isBasicText_escaped name.toList)) isGap_nil⟩
  cases c with
  | heading name =>
    obtain ⟨k, hk⟩ := hkey name
    exact ⟨_, .heading isGap_nil hk⟩
  | setting name content =>
    obtain ⟨k, hk⟩ := hkey name
    cases content with
    | text s =>
      obtain ⟨w, hw⟩ := exists_isString s.toList
      exact ⟨_, .setting hk isGap_nil (.text hw)⟩
    | texts ss =>
      obtain ⟨v, hv⟩ := exists_isStrings (ss.map String.toList)
      exact ⟨_, .setting hk isGap_nil (.texts hv)⟩

/-- Whatever is to be said can be written. -/
theorem exists_isDocument (cs : List Clause) : ∃ text, IsDocument text cs := by
  have hlines : ∃ front, IsLines front cs := by
    induction cs with
    | nil => exact ⟨_, .nil⟩
    | cons c cs ih =>
      obtain ⟨w, hw⟩ := exists_isClause c
      obtain ⟨v, hv⟩ := ih
      exact ⟨_, .clause hw ⟨[], [], ['\n'], isGap_nil, .none, Or.inl rfl, rfl⟩ hv⟩
  obtain ⟨front, hfront⟩ := hlines
  exact ⟨_, front, _, cs, [], hfront, .empty isGap_nil .none, rfl, (List.append_nil cs).symm⟩

/-! ### Values -/

theorem IsContent.exists_cons {w : List Char} {content : Content} (h : IsContent w content) :
    ∃ x rest, w = x :: rest ∧ isSpace x = false := by
  cases h with
  | text hs =>
    obtain ⟨x, rest, rfl, rfl | rfl⟩ := hs.exists_cons
    · exact ⟨_, _, rfl, by decide⟩
    · exact ⟨_, _, rfl, by decide⟩
  | texts _ => exact ⟨_, _, rfl, by decide⟩

theorem IsContent.reads {w : List Char} {content : Content} (h : IsContent w content)
    (hpost : Stops isQuote post) : Reads (value depthLimit) w post content.Matches := by
  cases h with
  | text hs => exact hs.reads_value depthLimit hpost
  | texts hs => exact reads_strings hs 78

/-! ### Ends of lines -/

theorem reads_lineEnd {n : List Char} (h : IsNewline n) :
    Reads lineEnd n post fun _ => True := by
  refine Reads.peek_bind ?_
  rcases h with rfl | rfl
  · exact IsNewline.reads (Or.inl rfl)
  · exact IsNewline.reads (Or.inr rfl)

theorem reads_lineEnd_nil : Reads lineEnd [] [] fun _ => True :=
  Reads.peek_bind (reads_pure trivial)

/-- A comment, if there is one, is passed over. -/
theorem IsComment.reads {w w' : List Char} {β : Type} {r : Reader β} {R : β → Prop}
    (h : IsComment w) (hstops : Stops isCommentChar (w' ++ post)) (hr : Reads r w' post R) :
    Reads (peek >>= fun x => if x = some '#' then (do Toml.comment; r) else r) (w ++ w') post R := by
  refine Reads.peek_bind ?_
  cases h with
  | none =>
    have hne : ([] ++ w' ++ post).head? ≠ some '#' := by
      intro hhead
      obtain ⟨rest, hrest⟩ := List.head?_eq_some_iff.mp hhead
      exact absurd (hstops '#' rest hrest) (by decide)
    rw [if_neg hne]
    exact hr
  | comment hcs =>
    exact Reads.bind (f := fun _ => r) (reads_comment hcs hstops) fun _ _ => hr

/-- The rest of a line. -/
theorem IsEmptyLine.reads_trailing {l : List Char} (h : IsEmptyLine l) :
    Reads trailing l post fun _ => True := by
  obtain ⟨g, w, n, hg, hw, hn, rfl⟩ := h
  refine Reads.bind (hg.reads (hw.stops hn)) fun _ _ => ?_
  exact hw.reads hn.stops_comment (reads_lineEnd hn)

theorem reads_trailing_nil {g w : List Char} (hg : IsGap g) (hw : IsComment w) :
    Reads trailing (g ++ w) [] fun _ => True := by
  have hstops : Stops isSpace (w ++ []) := by
    cases hw with
    | none => exact stops_nil
    | comment _ => exact stops_cons (by decide)
  refine Reads.bind (hg.reads hstops) fun _ _ => ?_
  rw [← List.append_nil w]
  exact hw.reads stops_nil reads_lineEnd_nil

/-! ### Lines -/

theorem IsEmptyLine.reads_lineRound {l : List Char} (h : IsEmptyLine l) :
    Reads lineRound l post fun t => t.2 = true ∧ t.1 = [] := by
  obtain ⟨g, w, n, hg, hw, hn, rfl⟩ := h
  refine Reads.bind (hg.reads (hw.stops hn)) fun _ _ => Reads.peek_bind ?_
  cases hw with
  | none =>
    have hend : Reads (do newline; return ([], true) : Reader (List Line × Bool)) n post
        fun t => t.2 = true ∧ t.1 = [] := hn.reads.bind_pure fun _ _ => ⟨rfl, rfl⟩
    rcases hn with rfl | rfl
    · exact hend
    · exact hend
  | comment hcs =>
    exact Reads.bind (f := fun _ => (do lineEnd; return ([], true) : Reader (List Line × Bool)))
      (reads_comment hcs hn.stops_comment)
      fun _ _ => (reads_lineEnd hn).bind_pure fun _ _ => ⟨rfl, rfl⟩

/-- The bracket of a header and its key are read as its name. -/
theorem IsKey.reads_header {k : List Char} {name : String} (h : IsKey k [name.toList]) :
    Reads header ('[' :: (k ++ [']'])) post (Clause.heading name).Matches := by
  have hbody : Reads headerBody ('[' :: (k ++ [']'])) post
      fun t => t.1 = false ∧ t.2.names = [name] := by
    refine Reads.text_bind (Reads.peek_bind ?_)
    have hne : (k ++ [']'] ++ post).head? ≠ some '[' := by
      rw [List.append_assoc]
      exact h.head?_ne (Or.inl rfl)
    simp only [if_neg hne]
    refine Reads.bind (h.reads (by simp [depthLimit]) (stops_cons (by decide))) fun key hnames => ?_
    refine reads_text.bind_pure fun _ _ => ⟨decide_eq_false hne, ?_⟩
    rw [hnames, List.map_singleton, String.ofList_toList]
  refine hbody.located.bind_pure ?_
  rintro ⟨start, ⟨repeated, key⟩, stop⟩ hmatch
  exact hmatch

theorem IsKey.reads_assignment {k g v : List Char} {name : String} {content : Content}
    (h : IsKey k [name.toList]) (hg : IsGap g) (hv : IsContent v content)
    (hpost : Stops isQuote post) :
    Reads (assignment (value depthLimit)) (k ++ '=' :: (g ++ v)) post
      fun a => (Clause.setting name content).Matches (.assignment a) := by
  refine Reads.bind (h.reads (by simp [depthLimit]) (stops_cons (by decide))) fun key hnames =>
    Reads.text_bind ?_
  have hstops : Stops isSpace (v ++ post) := by
    obtain ⟨x, rest, rfl, hx⟩ := hv.exists_cons
    exact stops_cons hx
  refine Reads.bind (hg.reads hstops) fun _ _ => (hv.reads hpost).bind_pure fun item hitem => ?_
  rw [List.map_singleton, String.ofList_toList] at hnames
  exact ⟨hnames, hitem⟩

/-- A line that begins like a key is an assignment. -/
theorem lineStart_of_key {x : Char} (h : isKeyChar x = true ∨ x = '"' ∨ x = '\'') :
    lineStart (some x) = do
      let a ← assignment (value depthLimit)
      trailing
      return ([.assignment a], true) := by
  have hne : ∀ y, isKeyChar y = false → y ≠ '"' → y ≠ '\'' → x ≠ y := by
    rintro y hy hdouble hsingle rfl
    rw [hy] at h
    rcases h with h | h | h
    · exact Bool.false_ne_true h
    · exact hdouble h
    · exact hsingle h
  unfold lineStart
  split <;> rename_i heq
  · exact nomatch heq
  · exact absurd (Option.some.inj heq) (hne _ (by decide) (by decide) (by decide))
  · exact absurd (Option.some.inj heq) (hne _ (by decide) (by decide) (by decide))
  · exact absurd (Option.some.inj heq) (hne _ (by decide) (by decide) (by decide))
  · exact absurd (Option.some.inj heq) (hne _ (by decide) (by decide) (by decide))
  · rfl

/-- A clause and the rest of its line are read in a round. -/
theorem IsClause.reads_lineRound {w l : List Char} {c : Clause} (h : IsClause w c)
    (hl : Reads trailing l post fun _ => True) (hquote : Stops isQuote (l ++ post)) :
    Reads lineRound (w ++ l) post fun t => t.2 = true ∧ List.Forall₂ Clause.Matches [c] t.1 := by
  cases h with
  | @heading g k name hg hk =>
    have htext : g ++ '[' :: (k ++ [']']) ++ l = g ++ ('[' :: (k ++ [']']) ++ l) := by simp
    rw [htext]
    refine Reads.bind (hg.reads (stops_cons (by decide))) fun _ _ => Reads.peek_bind ?_
    refine Reads.bind hk.reads_header fun line hline => ?_
    exact hl.bind_pure fun _ _ => ⟨rfl, .cons hline .nil⟩
  | @setting k g v name content hk hg hv =>
    obtain ⟨g', x, rest, rfl, hg', hk', hx⟩ := hk.exists_cons
    have htext : g' ++ x :: rest ++ '=' :: (g ++ v) ++ l =
        g' ++ (x :: rest ++ '=' :: (g ++ v) ++ l) := by simp
    rw [htext]
    refine Reads.bind (hg'.reads (stops_of_key hx)) fun _ _ => Reads.peek_bind ?_
    show Reads (lineStart (some x)) _ _ _
    rw [lineStart_of_key hx]
    refine Reads.bind (hk'.reads_assignment hg hv hquote) fun a ha => ?_
    exact hl.bind_pure fun _ _ => ⟨rfl, .cons ha .nil⟩

theorem IsClause.ne_nil {w : List Char} {c : Clause} (h : IsClause w c) : w ≠ [] := by
  cases h with
  | heading _ _ => simp
  | setting _ _ _ => simp

/-! ### Documents -/

/-- Behind nothing but the end of the document there is no line. -/
theorem readsRounds_nil : ReadsRounds lineRound [] [] (List.Forall₂ Clause.Matches []) := by
  have hround : Reads lineRound ([] ++ []) [] fun t =>
      t.2 = false ∧ List.Forall₂ Clause.Matches [] t.1 :=
    Reads.bind (isGap_nil.reads stops_nil) fun _ _ => Reads.peek_bind (reads_pure ⟨rfl, .nil⟩)
  exact ReadsRounds.last hround

theorem IsLastLine.readsRounds {w : List Char} {cs : List Clause} (h : IsLastLine w cs) :
    ReadsRounds lineRound w [] (List.Forall₂ Clause.Matches cs) := by
  cases h with
  | @empty g w hg hw =>
    cases hw with
    | none =>
      refine ReadsRounds.last (Reads.bind (hg.reads stops_nil) fun _ _ => Reads.peek_bind ?_)
      exact reads_pure ⟨rfl, .nil⟩
    | @comment cs hcs =>
      have hround : Reads lineRound (g ++ '#' :: cs) ([] ++ []) fun t => t.2 = true ∧ t.1 = [] := by
        refine Reads.bind (hg.reads (stops_cons (by decide))) fun _ _ => Reads.peek_bind ?_
        rw [← List.append_nil ('#' :: cs)]
        exact Reads.bind (f := fun _ => (do lineEnd; return ([], true) : Reader (List Line × Bool)))
          (reads_comment hcs stops_nil) fun _ _ => reads_lineEnd_nil.bind_pure fun _ _ => ⟨rfl, rfl⟩
      rw [← List.append_nil (g ++ '#' :: cs)]
      refine ReadsRounds.more (A := (· = [])) hround (by simp) readsRounds_nil ?_
      rintro _ ys rfl hys
      exact hys
  | @clause v g w c hv hg hw =>
    have hquote : Stops isQuote (g ++ w ++ []) := by
      rw [List.append_assoc]
      exact hg.stops_of (by decide) (by decide) (hw.stops_of (by decide) stops_nil)
    have hround := hv.reads_lineRound (reads_trailing_nil hg hw) hquote
    rw [← List.append_nil (v ++ (g ++ w))]
    exact ReadsRounds.more (A := List.Forall₂ Clause.Matches [c]) hround
      (List.append_ne_nil_of_left_ne_nil hv.ne_nil _) readsRounds_nil fun _ _ hx hy => List.rel_append hx hy

/-- Lines are read in rounds in front of whatever is read behind them. -/
theorem IsLines.readsRounds {v tail : List Char} {cs ds : List Clause} (h : IsLines v cs)
    (htail : ReadsRounds lineRound tail post (List.Forall₂ Clause.Matches ds)) :
    ReadsRounds lineRound (v ++ tail) post (List.Forall₂ Clause.Matches (cs ++ ds)) := by
  induction h with
  | nil => exact htail
  | @empty l v cs hl _ ih =>
    rw [List.append_assoc]
    refine ReadsRounds.more (A := (· = [])) hl.reads_lineRound hl.ne_nil ih ?_
    rintro _ ys rfl hys
    exact hys
  | @clause w l v c cs hc hl _ ih =>
    have htext : w ++ (l ++ v) ++ tail = w ++ l ++ (v ++ tail) := by simp
    rw [htext]
    exact ReadsRounds.more (A := List.Forall₂ Clause.Matches [c])
      (hc.reads_lineRound hl.reads_trailing (hl.stops_of (by decide)))
      (List.append_ne_nil_of_left_ne_nil hc.ne_nil _) ih fun _ _ hx hy => List.rel_append hx hy

/-- **A document is read as its clauses, in their order.** -/
theorem IsDocument.reads {text : List Char} {cs : List Clause} (h : IsDocument text cs) :
    Reads lines text [] (List.Forall₂ Clause.Matches cs) := by
  obtain ⟨front, last, cs₁, cs₂, hfront, hlast, rfl, rfl⟩ := h
  exact Reads.collect (hfront.readsRounds hlast.readsRounds)

/-- **What is read of a text that begins with lines begins with their clauses**, whatever comes of
the rest. -/
theorem IsLines.givesRounds {v s : List Char} {cs : List Clause} {A : List Line → Prop}
    (h : IsLines v cs) (hs : GivesRounds lineRound s A) :
    GivesRounds lineRound (v ++ s) fun ls =>
      ∃ xs ys, ls = xs ++ ys ∧ List.Forall₂ Clause.Matches cs xs ∧ A ys := by
  induction h with
  | nil => exact fun budget => (hs budget).mono fun ys hys => ⟨[], ys, rfl, .nil, hys⟩
  | @empty l v cs hl _ ih =>
    rw [List.append_assoc]
    refine GivesRounds.more (A := (· = [])) hl.reads_lineRound ih ?_
    rintro _ _ rfl hys
    exact hys
  | @clause w l v c cs hc hl _ ih =>
    have htext : w ++ (l ++ v) ++ s = w ++ l ++ (v ++ s) := by simp
    rw [htext]
    refine GivesRounds.more (A := List.Forall₂ Clause.Matches [c])
      (hc.reads_lineRound hl.reads_trailing (hl.stops_of (by decide))) ih ?_
    rintro x _ hx ⟨xs, ys, rfl, hxs, hys⟩
    exact ⟨x ++ xs, ys, (List.append_assoc x xs ys).symm, List.rel_append hx hxs, hys⟩

/-! ### Additions -/

/-- What can be added to a document: a key with a value, or a table with a header of its own. -/
inductive Addition where
  | key (names : List String)
  | table (names : List String)

/-- The line adds this. -/
def Addition.Matches : Addition → Line → Prop
  | key names, .assignment a => a.key.names = names
  | table names, .header _ k _ => k.names = names
  | _, _ => False

/-- How an addition begins: with its key and the equals sign, or with its header, which stands
between double brackets if there may be several tables of the name. -/
inductive IsAddition : List Char → Addition → Prop
  | key {k : List Char} {ns : List (List Char)} : IsKey k ns →
      IsAddition (k ++ ['=']) (.key (ns.map String.ofList))
  | table {g k : List Char} {ns : List (List Char)} : IsGap g → IsKey k ns →
      IsAddition (g ++ '[' :: (k ++ [']'])) (.table (ns.map String.ofList))
  | tables {g k : List Char} {ns : List (List Char)} : IsGap g → IsKey k ns →
      IsAddition (g ++ '[' :: '[' :: (k ++ [']', ']'])) (.table (ns.map String.ofList))

theorem IsKey.gives_header {k s : List Char} {ns : List (List Char)} (h : IsKey k ns) :
    Gives header ('[' :: (k ++ ']' :: s)) (Addition.table (ns.map String.ofList)).Matches := by
  have hbody : Gives headerBody ('[' :: (k ++ ']' :: s)) fun t => t.2.names = ns.map String.ofList := by
    refine Gives.text_bind (Gives.peek_bind ?_)
    have hne : (k ++ ']' :: s).head? ≠ some '[' := h.head?_ne (Or.inl rfl)
    simp only [if_neg hne]
    refine h.gives_bind (stops_cons (by decide)) fun key hkey => Gives.of_bind fun _ _ => ?_
    exact gives_pure hkey
  exact hbody.located.bind fun _ ht _ => gives_pure ht

theorem IsKey.gives_header_repeated {k s : List Char} {ns : List (List Char)} (h : IsKey k ns) :
    Gives header ('[' :: '[' :: (k ++ ']' :: s))
      (Addition.table (ns.map String.ofList)).Matches := by
  have hbody : Gives headerBody ('[' :: '[' :: (k ++ ']' :: s))
      fun t => t.2.names = ns.map String.ofList := by
    refine Gives.text_bind (Gives.peek_bind (Gives.text_bind ?_))
    refine h.gives_bind (stops_cons (by decide)) fun key hkey => Gives.of_bind fun _ _ => ?_
    exact Gives.of_bind fun _ _ => gives_pure hkey
  exact hbody.located.bind fun _ ht _ => gives_pure ht

/-- **What comes first is what is added**, whatever its value is and whatever follows. -/
theorem IsAddition.givesRounds {w s : List Char} {added : Addition} (h : IsAddition w added) :
    GivesRounds lineRound (w ++ s) fun ls => ∃ l rest, ls = l :: rest ∧ added.Matches l := by
  have hheader : ∀ {g t : List Char} {ns : List (List Char)}, IsGap g →
      Gives header ('[' :: t) (Addition.table (ns.map String.ofList)).Matches →
      Gives lineRound (g ++ '[' :: t) fun t =>
        ∃ l, t.1 = [l] ∧ (Addition.table (ns.map String.ofList)).Matches l := by
    intro g t ns hg ht
    refine Reads.gives_bind (hg.reads (stops_cons (by decide))) fun _ _ => Gives.peek_bind ?_
    refine Gives.bind ht fun l hl _ => Gives.of_bind fun _ _ => ?_
    exact gives_pure ⟨l, rfl, hl⟩
  have hround : Gives lineRound (w ++ s) fun t => ∃ l, t.1 = [l] ∧ added.Matches l := by
    cases h with
    | @key k ns hk =>
      obtain ⟨g, x, rest, rfl, hg, hk', hx⟩ := hk.exists_cons
      have htext : g ++ x :: rest ++ ['='] ++ s = g ++ (x :: rest ++ '=' :: s) := by simp
      rw [htext]
      refine Reads.gives_bind (hg.reads (stops_of_key hx)) fun _ _ => Gives.peek_bind ?_
      show Gives (lineStart (some x)) _ _
      rw [lineStart_of_key hx]
      refine Gives.bind (P := fun a => (Addition.key (ns.map String.ofList)).Matches (.assignment a))
        ?_ fun a ha _ => Gives.of_bind fun _ _ => gives_pure ⟨.assignment a, rfl, ha⟩
      refine hk'.gives_bind (stops_cons (by decide)) fun key hkey => ?_
      -- the equals sign, the spaces and the value, whatever it is, do not change the key
      refine Gives.of_bind fun _ _ => Gives.of_bind fun _ _ => Gives.of_bind fun _ _ => ?_
      exact gives_pure hkey
    | @table g k ns hg hk =>
      have htext : g ++ '[' :: (k ++ [']']) ++ s = g ++ '[' :: (k ++ ']' :: s) := by simp
      rw [htext]
      exact hheader hg hk.gives_header
    | @tables g k ns hg hk =>
      have htext : g ++ '[' :: '[' :: (k ++ [']', ']']) ++ s =
          g ++ '[' :: '[' :: (k ++ ']' :: ']' :: s) := by simp
      rw [htext]
      exact hheader hg hk.gives_header_repeated
  refine GivesRounds.first (A := fun xs => ∃ l, xs = [l] ∧ added.Matches l) hround ?_
  rintro _ ys ⟨l, rfl, hl⟩
  exact ⟨l, ys, rfl, hl⟩

end HeaderSurvey.Toml
