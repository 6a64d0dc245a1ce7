import HeaderSurvey.Proofs.Toml.Reading
import HeaderSurvey.Toml.Document

/-!
# How strings are written

`IsString w s` says that the text `w` is one of the ways in which the string `s` can be written:
between double quotes, where each character stands for itself or has an escape; between single
quotes, where each stands for itself; and between three quotes of either kind, where the string may
go over several lines.  Whichever way it is, the reader takes the whole of `w` and gives `s`
(`IsString.reads`).
-/

namespace HeaderSurvey.Toml

open Reader
open Text (isDigitOf ofDigits)

variable {post : List Char}

/-! ### Spaces and ends of lines -/

/-- The end of a line. -/
def IsNewline (n : List Char) : Prop :=
  n = ['\n'] ∨ n = ['\r', '\n']

/-- Spaces and tabs. -/
def IsGap (g : List Char) : Prop :=
  ∀ x ∈ g, isSpace x = true

/-- A character that begins the end of a line. -/
def isLineBreak (c : Char) : Bool :=
  c = '\n' || c = '\r'

theorem IsNewline.exists_cons {n : List Char} (h : IsNewline n) :
    ∃ x rest, n = x :: rest ∧ (x = '\n' ∨ x = '\r') := by
  rcases h with rfl | rfl
  · exact ⟨_, _, rfl, Or.inl rfl⟩
  · exact ⟨_, _, rfl, Or.inr rfl⟩

theorem IsNewline.ne_nil {n : List Char} (h : IsNewline n) : n ≠ [] := by
  obtain ⟨x, rest, rfl, -⟩ := h.exists_cons
  exact List.cons_ne_nil x rest

theorem IsNewline.reads {n : List Char} (h : IsNewline n) : Reads newline n post fun _ => True := by
  rcases h with rfl | rfl
  · exact reads_text.orElse_left
  · exact reads_text.orElse_right (refuses_text (by decide))

theorem refuses_newline {x : Char} {s : List Char} (h : isLineBreak x = false) :
    Refuses newline (x :: s) := by
  have hne : x ≠ '\n' ∧ x ≠ '\r' := by simpa [isLineBreak] using h
  intro pre
  show ((text ['\n']).run (Cursor.between pre (x :: s)) <|>
    (text ['\r', '\n']).run (Cursor.between pre (x :: s))) = none
  rw [refuses_text hne.1.symm pre, refuses_text hne.2.symm pre]
  rfl

theorem IsGap.reads {g : List Char} (h : IsGap g) (hpost : Stops isSpace post) :
    Reads spaces g post fun _ => True :=
  (reads_takeWhile h hpost).bind_last fun _ _ => reads_pure trivial

theorem isGap_nil : IsGap [] :=
  fun _ h => absurd h List.not_mem_nil

/-- A class without spaces and tabs stops behind a gap where it stops behind nothing. -/
theorem IsGap.stops_of {p : Char → Bool} {g s : List Char} (h : IsGap g) (hspace : p ' ' = false)
    (htab : p '\t' = false) (hs : Stops p s) : Stops p (g ++ s) := by
  refine hs.append fun x hx => ?_
  have hgap := h x hx
  simp only [isSpace, Bool.or_eq_true, decide_eq_true_eq] at hgap
  rcases hgap with rfl | rfl
  · exact hspace
  · exact htab

theorem IsNewline.stops_of {p : Char → Bool} {n s : List Char} (h : IsNewline n)
    (hlf : p '\n' = false) (hcr : p '\r' = false) : Stops p (n ++ s) := by
  rcases h with rfl | rfl
  · exact stops_cons hlf
  · exact stops_cons hcr

/-! ### Characters between double quotes -/

/-- The characters that have an escape of their own, behind the letter of the escape. -/
def escapes : List (Char × Char) :=
  [('b', '\x08'), ('t', '\t'), ('n', '\n'), ('f', '\x0c'), ('r', '\r'), ('"', '"'), ('\\', '\\')]

/-- A character between double quotes: as it is, with an escape of its own, or by its number in four
or eight hexadecimal digits. -/
inductive IsBasicChar : List Char → Char → Prop
  | plain {c : Char} : isStringChar c = true → c ≠ '"' → c ≠ '\\' → IsBasicChar [c] c
  | named {e c : Char} : (e, c) ∈ escapes → IsBasicChar ['\\', e] c
  | short {ds : List Char} : ds.length = 4 → (∀ d ∈ ds, isDigitOf 16 d = true) →
      (ofDigits 16 ds).isValidChar → IsBasicChar ('\\' :: 'u' :: ds) (Char.ofNat (ofDigits 16 ds))
  | long {ds : List Char} : ds.length = 8 → (∀ d ∈ ds, isDigitOf 16 d = true) →
      (ofDigits 16 ds).isValidChar → IsBasicChar ('\\' :: 'U' :: ds) (Char.ofNat (ofDigits 16 ds))

/-- A character between double quotes begins with no double quote. -/
theorem IsBasicChar.exists_cons {w : List Char} {c : Char} (h : IsBasicChar w c) :
    ∃ x rest, w = x :: rest ∧ x ≠ '"' ∧ isLineBreak x = false ∧ isStringChar x = true := by
  cases h with
  | plain hchar hquote _ =>
    refine ⟨c, [], rfl, hquote, ?_, hchar⟩
    rw [isLineBreak, Bool.or_eq_false_iff, decide_eq_false_iff_not, decide_eq_false_iff_not]
    constructor
    · rintro rfl
      exact absurd hchar (by decide)
    · rintro rfl
      exact absurd hchar (by decide)
  | named _ => exact ⟨_, _, rfl, by decide, by decide, by decide⟩
  | short _ _ _ => exact ⟨_, _, rfl, by decide, by decide, by decide⟩
  | long _ _ _ => exact ⟨_, _, rfl, by decide, by decide, by decide⟩

theorem reads_digits {ds : List Char} (h : ∀ d ∈ ds, isDigitOf 16 d = true) :
    Reads ((List.replicate ds.length ()).mapM fun _ => char (isDigitOf 16)) ds post (· = ds) := by
  induction ds with
  | nil => exact reads_pure rfl
  | cons d ds ih =>
    obtain ⟨hd, hds⟩ := List.forall_mem_cons.mp h
    rw [List.length_cons, List.replicate_succ, List.mapM_cons]
    refine Reads.bind (w := [d]) (reads_char hd) ?_
    rintro _ rfl
    refine (ih hds).bind_pure ?_
    rintro _ rfl
    rfl

theorem reads_codePoint {ds : List Char} (h : ∀ d ∈ ds, isDigitOf 16 d = true)
    (hvalid : (ofDigits 16 ds).isValidChar) :
    Reads (codePoint ds.length) ds post (· = Char.ofNat (ofDigits 16 ds)) := by
  refine (reads_digits h).bind_last ?_
  rintro _ rfl
  rw [if_pos hvalid]
  exact reads_pure rfl

/-- The digit of a number below sixteen. -/
def hexDigit (n : Nat) : Char :=
  if n < 10 then Char.ofNat (48 + n) else Char.ofNat (87 + n)

/-- A character between double quotes, by its number if it cannot stand there itself. -/
def escaped (c : Char) : List Char :=
  if isStringChar c = true ∧ c ≠ '"' ∧ c ≠ '\\' then [c]
  else ['\\', 'u', '0', '0', hexDigit (c.toNat / 16), hexDigit (c.toNat % 16)]

/-- Every character can be written between double quotes. -/
theorem isBasicChar_escaped (c : Char) : IsBasicChar (escaped c) c := by
  unfold escaped
  split
  · next hplain => exact .plain hplain.1 hplain.2.1 hplain.2.2
  · next hplain =>
    -- what cannot stand for itself is in ASCII, so two digits say which character it is
    have hsmall : c.toNat < 128 := by
      by_contra hlarge
      have hspace : (' ' : Char) ≤ c := Char.le_def.mpr (by
        show (32 : UInt32) ≤ c.val
        have : c.val.toNat = c.toNat := rfl
        rw [UInt32.le_iff_toNat_le]
        show 32 ≤ c.val.toNat
        omega)
      have hne : ∀ d : Char, d.toNat < 128 → c ≠ d := by
        rintro d hd rfl
        exact hlarge hd
      refine hplain ⟨?_, hne _ (by decide), hne _ (by decide)⟩
      simp [isStringChar, isCommentChar, hspace, hne '\x7f' (by decide)]
    have hdigits : ∀ n : Fin 128,
        (∀ d ∈ ['0', '0', hexDigit (n / 16), hexDigit (n % 16)], isDigitOf 16 d = true) ∧
          ofDigits 16 ['0', '0', hexDigit (n / 16), hexDigit (n % 16)] = n := by decide
    obtain ⟨hhex, hvalue⟩ := hdigits ⟨c.toNat, hsmall⟩
    have hchar := IsBasicChar.short rfl hhex (by rw [hvalue]; exact c.valid)
    rw [hvalue] at hchar
    rwa [show Char.ofNat (Fin.mk c.toNat hsmall).val = c from Char.ofNat_toNat c] at hchar

/-- What stands behind the backslash is read as an escape. -/
theorem IsBasicChar.reads_escape {w : List Char} {c : Char} (h : IsBasicChar ('\\' :: w) c) :
    Reads escape w post (· = c) := by
  generalize htext : '\\' :: w = text at h
  cases h with
  | plain _ _ hne => exact absurd (List.cons.inj htext).1.symm hne
  | @named e c hmem =>
    obtain rfl := (List.cons.inj htext).2
    refine Reads.bind_last (w := [e]) (reads_char rfl) ?_
    rintro _ rfl
    simp only [escapes, List.mem_cons, Prod.mk.injEq, List.not_mem_nil, or_false] at hmem
    rcases hmem with ⟨rfl, rfl⟩ | ⟨rfl, rfl⟩ | ⟨rfl, rfl⟩ | ⟨rfl, rfl⟩ | ⟨rfl, rfl⟩ | ⟨rfl, rfl⟩ |
      ⟨rfl, rfl⟩
    all_goals exact reads_pure rfl
  | @short ds hlength hdigits hvalid =>
    obtain rfl := (List.cons.inj htext).2
    refine Reads.bind (w := ['u']) (reads_char rfl) ?_
    rintro _ rfl
    rw [← hlength]
    exact reads_codePoint hdigits hvalid
  | @long ds hlength hdigits hvalid =>
    obtain rfl := (List.cons.inj htext).2
    refine Reads.bind (w := ['U']) (reads_char rfl) ?_
    rintro _ rfl
    rw [← hlength]
    exact reads_codePoint hdigits hvalid

/-- A character between double quotes is the backslash of an escape, or stands for itself. -/
theorem IsBasicChar.cases_backslash {w : List Char} {c : Char} (h : IsBasicChar w c) :
    (∃ v, w = '\\' :: v) ∨ w = [c] ∧ isStringChar c = true ∧ c ≠ '"' ∧ c ≠ '\\' := by
  cases h with
  | plain hchar hquote hback => exact Or.inr ⟨rfl, hchar, hquote, hback⟩
  | named _ => exact Or.inl ⟨_, rfl⟩
  | short _ _ _ => exact Or.inl ⟨_, rfl⟩
  | long _ _ _ => exact Or.inl ⟨_, rfl⟩

/-! ### Strings on one line -/

/-- A text between double quotes, character by character. -/
inductive IsBasicText : List Char → List Char → Prop
  | nil : IsBasicText [] []
  | cons {w v s : List Char} {c : Char} : IsBasicChar w c → IsBasicText v s →
      IsBasicText (w ++ v) (c :: s)

theorem isBasicText_escaped (s : List Char) : IsBasicText (s.flatMap escaped) s := by
  induction s with
  | nil => exact .nil
  | cons c s ih =>
    rw [List.flatMap_cons]
    exact .cons (isBasicChar_escaped c) ih

theorem IsBasicChar.reads_basicRound {w : List Char} {c : Char} (h : IsBasicChar w c) :
    Reads basicRound w post fun t => t.2 = true ∧ t.1 = [c] := by
  rcases h.cases_backslash with ⟨v, rfl⟩ | ⟨rfl, hchar, hquote, hback⟩
  · refine Reads.bind (w := ['\\']) (reads_char (by decide)) ?_
    rintro _ rfl
    refine (h.reads_escape).bind_pure ?_
    rintro _ rfl
    exact ⟨rfl, rfl⟩
  · refine Reads.bind_last (w := [c]) (reads_char hchar) ?_
    rintro _ rfl
    split
    · exact absurd rfl hquote
    · exact absurd rfl hback
    · exact reads_pure ⟨rfl, rfl⟩

theorem IsBasicText.reads_basicRound {v s : List Char} (h : IsBasicText v s) :
    ReadsRounds basicRound (v ++ ['"']) post (· = s) := by
  induction h with
  | nil =>
    refine ReadsRounds.last (Reads.bind_last (w := ['"']) (reads_char (by decide)) ?_)
    rintro _ rfl
    exact reads_pure ⟨rfl, rfl⟩
  | @cons w v s c hw _ ih =>
    obtain ⟨x, rest, rfl, -⟩ := hw.exists_cons
    rw [List.append_assoc]
    refine ReadsRounds.more (A := (· = [c])) hw.reads_basicRound (List.cons_ne_nil x rest) ih ?_
    rintro _ _ rfl rfl
    rfl

theorem IsBasicText.reads {v s : List Char} (h : IsBasicText v s) :
    Reads basicString ('"' :: (v ++ ['"'])) post (· = s) :=
  Reads.bind (w := ['"']) reads_text fun _ _ => Reads.collect h.reads_basicRound

theorem reads_literalString {s : List Char} (h : ∀ c ∈ s, isStringChar c = true ∧ c ≠ '\'') :
    Reads literalString ('\'' :: (s ++ ['\''])) post (· = s) := by
  refine Reads.bind (w := ['\'']) reads_text fun _ _ => Reads.collect ?_
  induction s with
  | nil =>
    refine ReadsRounds.last (Reads.bind_last (w := ['\'']) (reads_char (by decide)) ?_)
    rintro _ rfl
    exact reads_pure ⟨rfl, rfl⟩
  | cons c s ih =>
    obtain ⟨⟨hchar, hquote⟩, hs⟩ := List.forall_mem_cons.mp h
    have hround : Reads literalRound [c] ((s ++ ['\'']) ++ post) fun t => t.2 = true ∧ t.1 = [c] := by
      refine Reads.bind_last (w := [c]) (reads_char hchar) ?_
      rintro _ rfl
      split
      · exact absurd rfl hquote
      · exact reads_pure ⟨rfl, rfl⟩
    refine ReadsRounds.more (w := [c]) (A := (· = [c])) hround (List.cons_ne_nil c []) (ih hs) ?_
    rintro _ _ rfl rfl
    rfl

/-! ### Blank lines -/

/-- Lines one after another, and spaces behind the last. -/
inductive IsBlanks (line : List Char → Prop) : List Char → Prop
  | gap {g : List Char} : IsGap g → IsBlanks line g
  | line {l b : List Char} : line l → IsBlanks line b → IsBlanks line (l ++ b)

/-- A line of spaces. -/
def IsBlankLine (l : List Char) : Prop :=
  ∃ g n, IsGap g ∧ IsNewline n ∧ l = g ++ n

/-- Blank lines are read in rounds, one for each and one for the spaces behind the last. -/
theorem IsBlanks.readsRounds {line : List Char → Prop} {b : List Char}
    {step : Reader (List Unit × Bool)} (h : IsBlanks line b) (hne : ∀ l, line l → l ≠ [])
    (hline : ∀ l tail, line l → Reads step l tail fun t => t.2 = true)
    (hgap : ∀ g, IsGap g → Reads step g post fun t => t.2 = false) :
    ReadsRounds step b post fun _ => True := by
  induction h with
  | gap hg => exact ReadsRounds.last ((hgap _ hg).mono fun _ hlast => ⟨hlast, trivial⟩)
  | @line l b hl _ ih =>
    have hround := (hline l (b ++ post) hl).mono fun t hmore =>
      (⟨hmore, trivial⟩ : t.2 = true ∧ True)
    exact ReadsRounds.more (A := fun _ => True) hround (hne l hl) ih fun _ _ _ _ => trivial

theorem IsNewline.stops {n s : List Char} (h : IsNewline n) : Stops isSpace (n ++ s) :=
  h.stops_of (by decide) (by decide)

theorem IsBlankLine.reads_blankRound {l : List Char} (h : IsBlankLine l) :
    Reads blankRound l post fun t => t.2 = true := by
  obtain ⟨g, n, hg, hn, rfl⟩ := h
  refine Reads.bind (hg.reads hn.stops) fun _ _ => Reads.peek_bind ?_
  have hreads : Reads (do newline; return ([], true) : Reader (List Unit × Bool)) n post
      fun t => t.2 = true := hn.reads.bind_pure fun _ _ => rfl
  rcases hn with rfl | rfl
  · exact hreads
  · exact hreads

/-- A character that can stand in front of nothing that is written on a line. -/
def isBlank (c : Char) : Bool :=
  isSpace c || isLineBreak c

theorem Stops.of_or {p q : Char → Bool} {s : List Char} (h : Stops (fun c => p c || q c) s) :
    Stops p s ∧ Stops q s :=
  ⟨fun x rest hs => (Bool.or_eq_false_iff.mp (h x rest hs)).1,
    fun x rest hs => (Bool.or_eq_false_iff.mp (h x rest hs)).2⟩

theorem IsGap.reads_blankRound {g : List Char} (h : IsGap g) (hpost : Stops isBlank post) :
    Reads blankRound g post fun t => t.2 = false := by
  obtain ⟨hspace, hbreak⟩ := Stops.of_or hpost
  refine (h.reads hspace).bind_last fun _ _ => Reads.peek_bind ?_
  cases post with
  | nil => exact reads_pure rfl
  | cons x rest =>
    have hx : x ≠ '\n' ∧ x ≠ '\r' := by simpa [isLineBreak] using hbreak x rest rfl
    rw [List.nil_append, List.head?_cons]
    split
    · exact absurd (Option.some.inj (by assumption)) hx.1
    · exact absurd (Option.some.inj (by assumption)) hx.2
    · exact reads_pure rfl

theorem IsBlankLine.ne_nil {l : List Char} (h : IsBlankLine l) : l ≠ [] := by
  obtain ⟨g, n, -, hn, rfl⟩ := h
  exact List.append_ne_nil_of_right_ne_nil g hn.ne_nil

/-- A backslash at the end of a line takes the blank lines behind it. -/
theorem reads_continuation {g n b : List Char} (hg : IsGap g) (hn : IsNewline n)
    (hb : IsBlanks IsBlankLine b) (hpost : Stops isBlank post) :
    Reads continuation (g ++ (n ++ b)) post fun _ => True := by
  refine Reads.bind (hg.reads (by rw [List.append_assoc]; exact hn.stops)) fun _ _ => ?_
  refine Reads.bind hn.reads fun _ _ => ?_
  have hrounds := hb.readsRounds (fun _ h => h.ne_nil) (fun _ _ h => h.reads_blankRound)
    fun _ h => h.reads_blankRound hpost
  exact (Reads.collect hrounds).bind_pure fun _ _ => trivial

/-! ### Strings over several lines -/

/-- A text between three quotes: pieces, of which each gives some characters in front of what
follows it, and runs of one or two quotes, which stand for themselves. -/
inductive IsLongText (quote : Char) (piece : List Char → List Char → List Char → Prop) :
    List Char → List Char → Prop
  | nil : IsLongText quote piece [] []
  | piece {w t v s : List Char} : piece w t v → IsLongText quote piece v s →
      IsLongText quote piece (w ++ v) (t ++ s)
  | quotes {n : Nat} {x : Char} {v s : List Char} : n = 1 ∨ n = 2 → x ≠ quote →
      IsLongText quote piece (x :: v) s →
      IsLongText quote piece (List.replicate n quote ++ x :: v) (List.replicate n quote ++ s)

/-- A piece between three double quotes: a character, the end of a line, or a backslash at the end
of a line with the blanks behind it, which gives nothing. -/
inductive IsLongBasicPiece : List Char → List Char → List Char → Prop
  | char {w v : List Char} {c : Char} : IsBasicChar w c → IsLongBasicPiece w [c] v
  | newline {n v : List Char} : IsNewline n → IsLongBasicPiece n ['\n'] v
  | continuation {g n b v : List Char} : IsGap g → IsNewline n → IsBlanks IsBlankLine b →
      Stops isBlank v → IsLongBasicPiece ('\\' :: (g ++ (n ++ b))) [] v

/-- A piece between three single quotes: a character or the end of a line. -/
inductive IsLongLiteralPiece : List Char → List Char → List Char → Prop
  | char {c : Char} {v : List Char} : isStringChar c = true → c ≠ '\'' →
      IsLongLiteralPiece [c] [c] v
  | newline {n v : List Char} : IsNewline n → IsLongLiteralPiece n ['\n'] v

/-- What stands directly behind the opening quotes: the end of a line, which is not part of the
string, or nothing if the string does not begin with one. -/
def IsLead (n v : List Char) : Prop :=
  IsNewline n ∨ n = [] ∧ Stops isLineBreak v

section LongText

variable {quote : Char} {piece : List Char → List Char → List Char → Prop}
  {round : Reader (List Char × Bool)}

theorem stops_ne {x : Char} {s : List Char} (h : x ≠ quote) : Stops (· = quote) (x :: s) :=
  stops_cons (decide_eq_false h)

theorem reads_quoteRun (n : Nat) (hpost : Stops (· = quote) post) :
    Reads (takeWhile (· = quote)) (List.replicate n quote) post (· = List.replicate n quote) :=
  reads_takeWhile (fun _ hx => decide_eq_true (List.eq_of_mem_replicate hx)) hpost

/-- One or two quotes stand for themselves. -/
theorem reads_quotes_few {n : Nat} (hn : n ≤ 2) (hpost : Stops (· = quote) post) :
    Reads (quotes quote) (List.replicate n quote) post
      fun t => t.2 = true ∧ t.1 = List.replicate n quote := by
  refine (reads_quoteRun n hpost).bind_last ?_
  rintro _ rfl
  rw [List.length_replicate, if_pos (by omega)]
  exact reads_pure ⟨rfl, rfl⟩

/-- Three quotes end the text, and up to two in front of them belong to it. -/
theorem reads_quotes_end {k : Nat} (hk : k ≤ 2) (hpost : Stops (· = quote) post) :
    Reads (quotes quote) (List.replicate (k + 3) quote) post
      fun t => t.2 = false ∧ t.1 = List.replicate k quote := by
  refine (reads_quoteRun (k + 3) hpost).bind_last ?_
  rintro _ rfl
  rw [List.length_replicate, if_neg (by omega), if_pos (by omega)]
  exact reads_pure ⟨rfl, by rw [List.drop_replicate, Nat.add_sub_cancel]⟩

/-- A long text and the quotes behind it are read in rounds, if its pieces are. -/
theorem IsLongText.readsRounds {v s : List Char} {k : Nat} (h : IsLongText quote piece v s)
    (hpiece : ∀ w t v tail, piece w t v → Stops isBlank tail →
      w ≠ [] ∧ Reads round w (v ++ tail) fun r => r.2 = true ∧ r.1 = t)
    (hquotes : ∀ n tail Q, Reads (Toml.quotes quote) (List.replicate (n + 1) quote) tail Q →
      Reads round (List.replicate (n + 1) quote) tail Q)
    (hblank : isBlank quote = false) (hk : k ≤ 2) (hpost : Stops (· = quote) post) :
    ReadsRounds round (v ++ List.replicate (k + 3) quote) post (· = s ++ List.replicate k quote) := by
  induction h with
  | nil => exact ReadsRounds.last (hquotes (k + 2) post _ (reads_quotes_end hk hpost))
  | @piece w t v s hw _ ih =>
    have hclose : Stops isBlank (List.replicate (k + 3) quote ++ post) := stops_cons hblank
    obtain ⟨hne, hround⟩ := hpiece w t v _ hw hclose
    rw [← List.append_assoc] at hround
    rw [List.append_assoc]
    refine ReadsRounds.more (A := (· = t)) hround hne ih ?_
    rintro _ _ rfl rfl
    rw [List.append_assoc]
  | @quotes n x v s hn hx _ ih =>
    -- another character ends the run, so it cannot be the end of the text
    obtain ⟨m, rfl⟩ : ∃ m, n = m + 1 := ⟨n - 1, by omega⟩
    have hround := hquotes m (((x :: v) ++ List.replicate (k + 3) quote) ++ post) _
      (reads_quotes_few (by omega) (stops_ne hx))
    rw [List.append_assoc]
    refine ReadsRounds.more (A := (· = List.replicate (m + 1) quote)) hround (by simp) ih ?_
    rintro _ _ rfl rfl
    rw [List.append_assoc]

end LongText

/-- A round that looks at the next character goes on at the end of a line. -/
theorem IsNewline.reads_round {n : List Char} {f : Option Char → Reader (List Char × Bool)}
    (h : IsNewline n) (hlf : f (some '\n') = do newline; return (['\n'], true))
    (hcr : f (some '\r') = do newline; return (['\n'], true)) :
    Reads (peek >>= f) n post fun t => t.2 = true ∧ t.1 = ['\n'] := by
  have hreads : Reads (do newline; return (['\n'], true) : Reader (List Char × Bool)) n post
      fun t => t.2 = true ∧ t.1 = ['\n'] := h.reads.bind_pure fun _ _ => ⟨rfl, rfl⟩
  refine Reads.peek_bind ?_
  rcases h with rfl | rfl
  · rw [show ((['\n'] ++ post).head?) = some '\n' from rfl, hlf]
    exact hreads
  · rw [show ((['\r', '\n'] ++ post).head?) = some '\r' from rfl, hcr]
    exact hreads

theorem isStringChar_of_plain {c : Char} (h : isStringChar c = true) : c ≠ '\n' ∧ c ≠ '\r' := by
  constructor
  · rintro rfl
    exact absurd h (by decide)
  · rintro rfl
    exact absurd h (by decide)

/-- Behind the backslash of an escape no line ends. -/
theorem IsBasicChar.refuses_continuation {v : List Char} {c : Char}
    (h : IsBasicChar ('\\' :: v) c) : Refuses continuation (v ++ post) := by
  obtain ⟨e, rest, rfl, hblank⟩ : ∃ e rest, v = e :: rest ∧ isBlank e = false := by
    generalize htext : '\\' :: v = text at h
    cases h with
    | plain _ _ hne => exact absurd (List.cons.inj htext).1.symm hne
    | @named e c hmem =>
      obtain rfl := (List.cons.inj htext).2
      refine ⟨e, [], rfl, ?_⟩
      simp only [escapes, List.mem_cons, Prod.mk.injEq, List.not_mem_nil, or_false] at hmem
      rcases hmem with ⟨rfl, -⟩ | ⟨rfl, -⟩ | ⟨rfl, -⟩ | ⟨rfl, -⟩ | ⟨rfl, -⟩ | ⟨rfl, -⟩ | ⟨rfl, -⟩
      all_goals decide
    | short _ _ _ =>
      obtain rfl := (List.cons.inj htext).2
      exact ⟨_, _, rfl, by decide⟩
    | long _ _ _ =>
      obtain rfl := (List.cons.inj htext).2
      exact ⟨_, _, rfl, by decide⟩
  obtain ⟨hspace, hbreak⟩ := Bool.or_eq_false_iff.mp hblank
  have hspaces : Reads spaces [] (e :: rest ++ post) fun _ => True :=
    isGap_nil.reads (stops_cons hspace)
  exact Reads.refuses_bind (w := []) hspaces fun _ _ => (refuses_newline hbreak).bind

/-- A round that looks at the next character takes one that stands for itself. -/
theorem reads_round_char {c : Char} {f : Option Char → Reader (List Char × Bool)}
    (h : isStringChar c = true) (hf : f (some c) = do return ([← char isStringChar], true)) :
    Reads (peek >>= f) [c] post fun t => t.2 = true ∧ t.1 = [c] := by
  refine Reads.peek_bind ?_
  rw [show ([c] ++ post).head? = some c from rfl, hf]
  refine (reads_char h).bind_pure ?_
  rintro _ rfl
  exact ⟨rfl, rfl⟩

theorem IsBasicChar.reads_longBasicRound {w : List Char} {c : Char} (h : IsBasicChar w c) :
    Reads longBasicRound w post fun t => t.2 = true ∧ t.1 = [c] := by
  rcases h.cases_backslash with ⟨v, rfl⟩ | ⟨rfl, hchar, hquote, hback⟩
  · refine Reads.peek_bind (Reads.bind (w := ['\\']) reads_text fun _ _ => ?_)
    refine Reads.orElse_right (h.reads_escape.bind_pure ?_) h.refuses_continuation.bind
    rintro _ rfl
    exact ⟨rfl, rfl⟩
  · obtain ⟨hlf, hcr⟩ := isStringChar_of_plain hchar
    refine reads_round_char hchar ?_
    split <;> rename_i heq
    · exact absurd (Option.some.inj heq) hquote
    · exact absurd (Option.some.inj heq) hback
    · exact absurd (Option.some.inj heq) hlf
    · exact absurd (Option.some.inj heq) hcr
    · rfl

/-- Each piece between three double quotes is read in a round. -/
theorem IsLongBasicPiece.reads {w t v tail : List Char} (h : IsLongBasicPiece w t v)
    (htail : Stops isBlank tail) :
    w ≠ [] ∧ Reads longBasicRound w (v ++ tail) fun r => r.2 = true ∧ r.1 = t := by
  cases h with
  | char hchar =>
    obtain ⟨x, rest, rfl, -⟩ := hchar.exists_cons
    exact ⟨List.cons_ne_nil x rest, hchar.reads_longBasicRound⟩
  | newline hn => exact ⟨hn.ne_nil, hn.reads_round rfl rfl⟩
  | @continuation g n b v hg hn hb hv =>
    refine ⟨List.cons_ne_nil _ _, Reads.peek_bind (Reads.bind (w := ['\\']) reads_text fun _ _ => ?_)⟩
    have hreads := reads_continuation hg hn hb (hv.append_stops htail)
    exact Reads.orElse_left (hreads.bind_pure fun _ _ => ⟨rfl, rfl⟩)

/-- Each piece between three single quotes is read in a round. -/
theorem IsLongLiteralPiece.reads {w t v tail : List Char} (h : IsLongLiteralPiece w t v) :
    w ≠ [] ∧ Reads longLiteralRound w (v ++ tail) fun r => r.2 = true ∧ r.1 = t := by
  cases h with
  | @char c v hchar hquote =>
    obtain ⟨hlf, hcr⟩ := isStringChar_of_plain hchar
    refine ⟨List.cons_ne_nil _ _, reads_round_char hchar ?_⟩
    split <;> rename_i heq
    · exact absurd (Option.some.inj heq) hquote
    · exact absurd (Option.some.inj heq) hlf
    · exact absurd (Option.some.inj heq) hcr
    · rfl
  | newline hn => exact ⟨hn.ne_nil, hn.reads_round rfl rfl⟩

/-- The end of a line behind the opening quotes is passed over. -/
theorem IsLead.reads {n v : List Char} (h : IsLead n v) (hpost : Stops isLineBreak post) :
    Reads skipNewline n (v ++ post) fun _ => True := by
  refine Reads.peek_bind ?_
  rcases h with hn | ⟨rfl, hstops⟩
  · rcases hn with rfl | rfl
    · exact IsNewline.reads (Or.inl rfl)
    · exact IsNewline.reads (Or.inr rfl)
  · have hnext := hstops.append_stops hpost
    rw [List.nil_append]
    cases htail : v ++ post with
    | nil => exact reads_pure trivial
    | cons x rest =>
      have hx : x ≠ '\n' ∧ x ≠ '\r' := by simpa [isLineBreak] using hnext x rest htail
      rw [List.head?_cons]
      split <;> rename_i heq
      · exact absurd (Option.some.inj heq) hx.1
      · exact absurd (Option.some.inj heq) hx.2
      · exact reads_pure trivial

theorem reads_longBasicString {n v s : List Char} {k : Nat} (hn : IsLead n v)
    (hv : IsLongText '"' IsLongBasicPiece v s) (hk : k ≤ 2) (hpost : Stops (· = '"') post) :
    Reads longBasicString (['"', '"', '"'] ++ (n ++ (v ++ List.replicate (k + 3) '"'))) post
      (· = s ++ List.replicate k '"') := by
  refine Reads.bind reads_text fun _ _ => ?_
  refine Reads.bind (by rw [List.append_assoc]; exact hn.reads (stops_cons (by decide))) fun _ _ => ?_
  refine Reads.collect (hv.readsRounds (fun _ _ _ _ h htail => h.reads htail) ?_ (by decide) hk hpost)
  exact fun _ _ _ h => Reads.peek_bind h

theorem reads_longLiteralString {n v s : List Char} {k : Nat} (hn : IsLead n v)
    (hv : IsLongText '\'' IsLongLiteralPiece v s) (hk : k ≤ 2) (hpost : Stops (· = '\'') post) :
    Reads longLiteralString (['\'', '\'', '\''] ++ (n ++ (v ++ List.replicate (k + 3) '\''))) post
      (· = s ++ List.replicate k '\'') := by
  refine Reads.bind reads_text fun _ _ => ?_
  refine Reads.bind (by rw [List.append_assoc]; exact hn.reads (stops_cons (by decide))) fun _ _ => ?_
  refine Reads.collect (hv.readsRounds (fun _ _ _ _ h _ => h.reads) ?_ (by decide) hk hpost)
  exact fun _ _ _ h => Reads.peek_bind h

/-! ### Strings -/

/-- A string, in any of the four ways in which it can be written. -/
inductive IsString : List Char → List Char → Prop
  | basic {v s : List Char} : IsBasicText v s → IsString ('"' :: (v ++ ['"'])) s
  | literal {s : List Char} : (∀ c ∈ s, isStringChar c = true ∧ c ≠ '\'') →
      IsString ('\'' :: (s ++ ['\''])) s
  | longBasic {n v s : List Char} {k : Nat} : IsLead n v → IsLongText '"' IsLongBasicPiece v s →
      k ≤ 2 → IsString (['"', '"', '"'] ++ (n ++ (v ++ List.replicate (k + 3) '"')))
        (s ++ List.replicate k '"')
  | longLiteral {n v s : List Char} {k : Nat} : IsLead n v → IsLongText '\'' IsLongLiteralPiece v s →
      k ≤ 2 → IsString (['\'', '\'', '\''] ++ (n ++ (v ++ List.replicate (k + 3) '\'')))
        (s ++ List.replicate k '\'')

/-- Every string can be written. -/
theorem exists_isString (s : List Char) : ∃ w, IsString w s :=
  ⟨_, .basic (isBasicText_escaped s)⟩

/-- A double or a single quote. -/
def isQuote (c : Char) : Bool :=
  c = '"' || c = '\''

/-- A string on one line is none over several lines, since no third quote follows two. -/
theorem refuses_three {quote x : Char} {s : List Char} (hx : x ≠ quote ∨ Stops (· = quote) s) :
    Refuses (text [quote, quote, quote]) (quote :: x :: s) := by
  refine refuses_text_append (u := [quote]) ?_
  rcases hx with hx | hs
  · exact refuses_text hx.symm
  · by_cases hx : x = quote
    · subst hx
      refine refuses_text_append (u := [x]) ?_
      cases s with
      | nil => exact refuses_text_nil
      | cons y rest =>
        have hy := of_decide_eq_false (hs y rest rfl)
        exact refuses_text (Ne.symm hy)
    · exact refuses_text (Ne.symm hx)

/-- **Whichever way a string is written, it is read as what it says.** -/
theorem IsString.reads {w s : List Char} (h : IsString w s) (hpost : Stops isQuote post) :
    Reads string w post fun item => ∃ e, item = .string e (String.ofList s) := by
  obtain ⟨hdouble, hsingle⟩ := Stops.of_or hpost
  -- the four readers are tried in turn, and those in front of the right one refuse
  have hvalue : Reads (longBasicString <|> basicString <|> longLiteralString <|> literalString) w post
      (· = s) := by
    cases h with
    | @basic v s hv =>
      refine Reads.orElse_right (Reads.orElse_left hv.reads) (Refuses.bind ?_)
      cases hv with
      | nil => exact refuses_three (Or.inr hdouble)
      | @cons w v s c hw _ =>
        obtain ⟨x, rest, rfl, hx, -⟩ := hw.exists_cons
        exact refuses_three (Or.inl hx)
    | @literal s hs =>
      have hbasic : Refuses basicString ('\'' :: (s ++ ['\'']) ++ post) :=
        (refuses_text (by decide)).bind
      have hlong : Refuses longBasicString ('\'' :: (s ++ ['\'']) ++ post) :=
        (refuses_text (by decide)).bind
      have hthree : Refuses longLiteralString ('\'' :: (s ++ ['\'']) ++ post) := by
        refine Refuses.bind ?_
        cases s with
        | nil => exact refuses_three (Or.inr hsingle)
        | cons c s => exact refuses_three (Or.inl (hs c (List.mem_cons_self ..)).2)
      exact ((reads_literalString hs).orElse_right hthree).orElse_right hbasic |>.orElse_right hlong
    | longBasic hn hv hk => exact (reads_longBasicString hn hv hk hdouble).orElse_left
    | @longLiteral n v s k hn hv hk =>
      have hbasic : Refuses basicString
          (['\'', '\'', '\''] ++ (n ++ (v ++ List.replicate (k + 3) '\'')) ++ post) :=
        (refuses_text (by decide)).bind
      have hlong : Refuses longBasicString
          (['\'', '\'', '\''] ++ (n ++ (v ++ List.replicate (k + 3) '\'')) ++ post) :=
        (refuses_text (by decide)).bind
      exact ((reads_longLiteralString hn hv hk hsingle).orElse_left.orElse_right hbasic).orElse_right
        hlong
  refine hvalue.located.bind_pure ?_
  rintro ⟨start, _, stop⟩ rfl
  exact ⟨_, rfl⟩

end HeaderSurvey.Toml
