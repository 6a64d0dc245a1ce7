import HeaderSurvey.Proofs.Block.Seam
import HeaderSurvey.Proofs.Declaration.Comment
import HeaderSurvey.Proofs.Declaration.TypeName
import Mathlib.Data.List.Flatten

/-!
# The pieces of a type in its text

A type that is read from a text stands there: `TypePieces` are the stretches that the text falls
into around one declaration, and `TypePieces.Describes` says that the type is what these stretches
are.  Of its list of bases only what stands outside comments counts.

The main result is `SourceUnit.holdsTypes_of_parse`: the types of a text that parses have different
names, begin one behind the other, stand in the text piece by piece, and the names of their bases
hold nothing of blanks, braces, semicolons and comments.
-/

namespace HeaderSurvey

open Pattern

/-! ### Names in a list of bases -/

theorem flatten_splitBy_sublist (p : Char → Bool) (s : List Char) :
    (Text.splitBy p s).flatten.Sublist s := by
  induction s with
  | nil => exact List.Sublist.refl []
  | cons c s ih =>
    rw [Text.splitBy]
    split_ifs
    · exact ih.cons c
    · rcases hpieces : Text.splitBy p s with _ | ⟨piece, pieces⟩
      · exact absurd hpieces (Text.splitBy_ne_nil p s)
      · rw [hpieces] at ih
        exact ih.cons_cons c

theorem flatten_splitBases_sublist (depth : Nat) (s : List Char) :
    (splitBases depth s).flatten.Sublist s := by
  induction s generalizing depth with
  | nil => exact List.Sublist.refl []
  | cons c s ih =>
    rw [splitBases]
    by_cases hcomma : c = ',' ∧ depth = 0
    · rw [if_pos hcomma]
      exact (ih 0).cons c
    · rw [if_neg hcomma]
      dsimp only
      generalize (if c = '<' ∨ c = '(' then depth + 1
        else if c = '>' ∨ c = ')' then depth - 1 else depth) = inside
      have hrest := ih inside
      rcases hpieces : splitBases inside s with _ | ⟨piece, pieces⟩
      · exact (List.nil_sublist s).cons_cons c
      · rw [hpieces] at hrest
        exact hrest.cons_cons c

/-- The name in a piece holds characters of the piece, in order. -/
theorem baseName_sublist (piece : List Char) : (baseName piece).Sublist piece := by
  have hwords : (baseName piece).Sublist (Text.words piece).flatten :=
    List.filter_sublist.flatten
  have hpieces : (Text.words piece).flatten.Sublist (Text.splitBy isBlank piece).flatten :=
    List.filter_sublist.flatten
  exact hwords.trans (hpieces.trans (flatten_splitBy_sublist isBlank piece))

theorem isBlank_of_mem_baseName {piece : List Char} {x : Char} (hx : x ∈ baseName piece) :
    isBlank x = false := by
  obtain ⟨word, hword, hx⟩ := List.mem_flatten.mp hx
  exact Text.not_of_mem_splitBy (List.mem_of_mem_filter (List.mem_of_mem_filter hword)) hx

/-- The name of a base has characters, and none of them is a blank, ends the list or belongs to the
mark of a comment. -/
def IsBaseName (name : String) : Prop :=
  name.toList ≠ [] ∧ ∀ x ∈ name.toList, isBlank x = false ∧ x ∉ ['{', '}', ';', '/']

instance : DecidablePred IsBaseName := fun _ =>
  @instDecidableAnd _ _ inferInstance (List.decidableBAll _ _)

theorem parseBases_of_uncommented {s t : List Char} (h : Uncommented s t) :
    parseBases t = (((splitBases 0 t).map baseName).filter (!·.isEmpty)).map String.ofList := by
  have hslash : '/' ∉ t := fun hmem => absurd (h.isListChar_of_mem hmem) (by decide)
  rw [parseBases, replaceAll_commentPattern hslash]

/-- The names of the bases, one behind the other, are found outside the comments of the list. -/
theorem flatMap_parseBases_sublist {s t : List Char} (h : Uncommented s t) :
    ((parseBases t).flatMap String.toList).Sublist t := by
  have hnames : (((splitBases 0 t).map baseName).filter (!·.isEmpty)).flatten.Sublist
      ((splitBases 0 t).map baseName).flatten :=
    List.filter_sublist.flatten
  have hpieces : ((splitBases 0 t).map baseName).flatten.Sublist (splitBases 0 t).flatten := by
    have hid : (splitBases 0 t).flatten = (splitBases 0 t).flatMap id := List.flatMap_id.symm
    rw [hid, ← List.flatMap_def]
    exact List.Sublist.flatMap_right _ fun piece _ => baseName_sublist piece
  have hflat : (parseBases t).flatMap String.toList =
      (((splitBases 0 t).map baseName).filter (!·.isEmpty)).flatten := by
    rw [parseBases_of_uncommented h, List.flatMap_map, List.flatMap_def]
    simp
  rw [hflat]
  exact hnames.trans (hpieces.trans (flatten_splitBases_sublist 0 t))

/-- The names of the bases in a list hold nothing of its comments. -/
theorem isBaseName_of_mem_parseBases {s t : List Char} (h : Uncommented s t) {name : String}
    (hname : name ∈ parseBases t) : IsBaseName name := by
  have hsublist := flatMap_parseBases_sublist h
  have hmem : ∀ x ∈ name.toList, x ∈ t :=
    fun x hx => hsublist.subset (List.mem_flatMap.mpr ⟨name, hname, hx⟩)
  rw [parseBases_of_uncommented h] at hname
  obtain ⟨chars, hchars, rfl⟩ := List.mem_map.mp hname
  obtain ⟨hpiece, hne⟩ := List.mem_filter.mp hchars
  obtain ⟨piece, -, rfl⟩ := List.mem_map.mp hpiece
  rw [String.toList_ofList] at hmem
  rw [IsBaseName, String.toList_ofList]
  refine ⟨by simpa using hne, fun x hx => ⟨isBlank_of_mem_baseName hx, ?_⟩⟩
  simpa using h.isListChar_of_mem (hmem x hx)

/-! ### The pieces -/

/-- What may stand between the name of a type and its bases: nothing, or a blank and the word
`final`. -/
def IsFinal (s : List Char) : Prop :=
  s = [] ∨ ∃ blanks, blanks ≠ [] ∧ (∀ x ∈ blanks, isBlank x = true) ∧ s = blanks ++ "final".toList

/-- What may stand between the name of a type and its brace, with the names of the bases that it
lists: they are read from the list without its comments, and found there in order. -/
inductive NameTail : List Char → List String → Prop
  | plain {word : List Char} : IsFinal word → NameTail word []
  | list {word front back list uncommented : List Char} : IsFinal word →
      (∀ x ∈ front, isBlank x = true) → (∀ x ∈ back, isBlank x = true) →
      Uncommented list uncommented →
      ((parseBases uncommented).flatMap String.toList).Sublist uncommented →
      NameTail (word ++ front ++ ':' :: (back ++ list)) (parseBases uncommented)

theorem NameTail.isBaseName {tail : List Char} {bases : List String} (h : NameTail tail bases) :
    ∀ name ∈ bases, IsBaseName name := by
  intro name hname
  cases h with
  | plain _ => exact absurd hname List.not_mem_nil
  | list _ _ _ hlist _ => exact isBaseName_of_mem_parseBases hlist hname

/-- The stretches that a text falls into around the declaration of a type. -/
structure TypePieces where
  before : List Char
  keyword : TypeKeyword
  /-- What stands between the keyword and the name. -/
  blanks : List Char
  name : List Char
  /-- What stands behind the name, up to the last base. -/
  tail : List Char
  /-- What stands in front of the opening brace. -/
  gap : List Char
  /-- What stands between the braces. -/
  body : List Char
  after : List Char

namespace TypePieces

variable (p : TypePieces)

/-- From the keyword to the opening brace. -/
def head : List Char :=
  p.keyword.text.toList ++ p.blanks ++ p.name ++ p.tail ++ p.gap

/-- From the keyword to the closing brace. -/
def declaration : List Char :=
  p.head ++ '{' :: (p.body ++ ['}'])

/-- The whole text. -/
def text : List Char :=
  p.before ++ p.declaration ++ p.after

/-- The pieces are those of a type, and the type is what they say. -/
structure Describes (t : TypeDecl) : Prop where
  blanks_ne_nil : p.blanks ≠ []
  blanks_ok : ∀ x ∈ p.blanks, isBlank x = true
  name_ok : ∃ x s, p.name = x :: s ∧ isNameStart x = true ∧ ∀ y ∈ s, isWordChar y = true
  tail_ok : NameTail p.tail t.bases
  gap_ok : ∀ x ∈ p.gap, isAsciiBlank x = true
  balanced : Balanced p.body
  keyword_eq : t.keyword = p.keyword
  name_eq : t.name = String.ofList p.name
  body_eq : t.body = String.ofList p.body
  span_eq : t.span =
    ⟨Text.byteLength p.before, Text.byteLength (p.before ++ p.declaration)⟩
  bodySpan_eq : t.bodySpan =
    ⟨Text.byteLength (p.before ++ p.head ++ ['{']),
      Text.byteLength (p.before ++ p.head ++ ['{'] ++ p.body)⟩
  line_eq : t.line = p.before.count '\n' + 1

end TypePieces

/-! ### The head of a type -/

section Head

variable {c d : Cursor} {g f : Captures}

theorem upTo_of_way_literal {s : List Char} (h : (literal s).Way c g d f) :
    c ≤ d ∧ c.upTo d = s ∧ f = g := by
  obtain ⟨hle, hup⟩ := Cursor.skipText?_eq_some h.1
  exact ⟨hle, hup, h.2⟩

/-- One character of a class and then some of another. -/
theorem upTo_of_way_one_many {p q : Char → Bool} (h : (one p ++ many q).Way c g d f) :
    c ≤ d ∧ (∃ x s, c.upTo d = x :: s ∧ p x = true ∧ ∀ y ∈ s, q y = true) ∧ f = g := by
  have hle := h.le
  obtain ⟨e, f', hone, hmany, hall, hf⟩ := h
  have hce : c ≤ e := hone.le
  obtain ⟨x, hx, hrest, hbefore, hf'⟩ := hone
  refine ⟨hle, ⟨x, e.upTo d, ?_, hx, hall⟩, hf.trans hf'⟩
  rw [← Cursor.upTo_append hce hmany]
  simp [Cursor.upTo, hbefore]

theorem upTo_of_way_keyword (h : (lit "class" <|> lit "struct").Way c g d f) :
    c ≤ d ∧ (∃ kw : TypeKeyword, c.upTo d = kw.text.toList) ∧ f = g := by
  rcases h with h | h
  · obtain ⟨hle, hup, hf⟩ := upTo_of_way_literal h
    exact ⟨hle, ⟨.classWord, hup⟩, hf⟩
  · obtain ⟨hle, hup, hf⟩ := upTo_of_way_literal h
    exact ⟨hle, ⟨.structWord, hup⟩, hf⟩

theorem upTo_of_way_final (h : (optional (oneOrMore isBlank ++ lit "final")).Way c g d f) :
    c ≤ d ∧ IsFinal (c.upTo d) ∧ f = g := by
  rcases h with ⟨e, f', hblanks, hword⟩ | h
  · obtain ⟨hce, ⟨x, s, hup, hx, hs⟩, rfl⟩ := upTo_of_way_one_many hblanks
    obtain ⟨hed, hup', rfl⟩ := upTo_of_way_literal hword
    refine ⟨hce.trans hed, Or.inr ⟨x :: s, List.cons_ne_nil x s, ?_, ?_⟩, rfl⟩
    · exact List.forall_mem_cons.mpr ⟨hx, hs⟩
    · rw [← Cursor.upTo_append hce hed, hup, hup']
  · obtain ⟨hle, hup, hf⟩ := upTo_of_way_literal h
    exact ⟨hle, Or.inl hup, hf⟩

/-- The blanks around the colon in front of a list of bases. -/
theorem upTo_of_way_colon (h : (many isBlank ++ lit ":" ++ many isBlank).Way c g d f) :
    c ≤ d ∧ (∃ front back, c.upTo d = front ++ ':' :: back ∧ (∀ x ∈ front, isBlank x = true) ∧
      ∀ x ∈ back, isBlank x = true) ∧ f = g := by
  obtain ⟨e, f', ⟨e', f'', ⟨hce, hfront, rfl⟩, hcolon⟩, ⟨hed, hback, rfl⟩⟩ := h
  obtain ⟨hee, hup, rfl⟩ := upTo_of_way_literal hcolon
  refine ⟨(hce.trans hee).trans hed, ⟨c.upTo e', e.upTo d, ?_, hfront, hback⟩, rfl⟩
  rw [← Cursor.upTo_append (hce.trans hee) hed, ← Cursor.upTo_append hce hee, hup]
  simp

/-- A list of bases is passed over, or it is kept under its number behind a colon. -/
theorem exists_list_of_run
    (h : (optional (many isBlank ++ lit ":" ++ many isBlank ++ capture 3 baseListPattern)).run c g
      (fun d g => some (d, g)) = some (d, f)) :
    (d = c ∧ f = g) ∨
      ∃ e front back t, c ≤ e ∧ e ≤ d ∧ c.upTo e = front ++ ':' :: back ∧
        (∀ x ∈ front, isBlank x = true) ∧ (∀ x ∈ back, isBlank x = true) ∧
        Uncommented (e.upTo d) t ∧ f = (3, e, d) :: g := by
  rcases run_or_of_run_optional h with hlist | hnone
  · right
    rw [run_seq] at hlist
    obtain ⟨e, f', hcolon, hcapture⟩ := exists_way_of_run hlist
    obtain ⟨hce, ⟨front, back, hup, hfront, hback⟩, rfl⟩ := upTo_of_way_colon hcolon
    rw [run_capture] at hcapture
    obtain ⟨d', t, hed, ht, ho⟩ := exists_uncommented_of_run (succeeds_some.capture 3 e) hcapture
    obtain ⟨rfl, rfl⟩ := Prod.mk.inj (Option.some.inj ho)
    exact ⟨e, front, back, t, hce, hed, hup, hfront, hback, ht, rfl⟩
  · obtain ⟨rfl, rfl⟩ := Prod.mk.inj (Option.some.inj hnone)
    exact Or.inl ⟨rfl, rfl⟩

end Head

/-- What a match of the head of a type holds: its pieces, and what is kept of them. -/
structure HeadPieces (m : Match) (kw : TypeKeyword) (blanks name tail : List Char) : Prop where
  upTo_eq : m.start.upTo m.stop = kw.text.toList ++ blanks ++ name ++ tail
  blanks_ne_nil : blanks ≠ []
  blanks_ok : ∀ x ∈ blanks, isBlank x = true
  name_ok : ∃ x s, name = x :: s ∧ isNameStart x = true ∧ ∀ y ∈ s, isWordChar y = true
  keyword_eq : m.captured? 1 = some kw.text.toList
  name_eq : m.captured? 2 = some name
  tail_ok : NameTail tail (((m.captured? 3).map parseBases).getD [])

/-- **A match of the pattern of the types is the head of a type**, piece by piece. -/
theorem exists_headPieces {c : Cursor} {m : Match} (h : typePattern.matchAt? c = some m) :
    ∃ kw blanks name tail, HeadPieces m kw blanks name tail := by
  obtain ⟨hstart, hrun⟩ := matchAt?_eq_some_iff.mp h
  rw [typePattern, run_seq] at hrun
  obtain ⟨c₄, g₄, ⟨c₃, g₃, ⟨c₂, g₂, ⟨c₁, g₁, ⟨c₀, g₀, ⟨-, rfl, rfl⟩, ⟨f₁, hkeyword, rfl⟩⟩, hblanks⟩,
    ⟨f₂, hname, rfl⟩⟩, hfinal⟩, hlast⟩ := exists_way_of_run hrun
  obtain ⟨h₁, ⟨kw, hkw⟩, rfl⟩ := upTo_of_way_keyword hkeyword
  obtain ⟨h₂, ⟨b, bs, hup₂, hb, hbs⟩, rfl⟩ := upTo_of_way_one_many hblanks
  obtain ⟨h₃, hname_ok, rfl⟩ := upTo_of_way_one_many hname
  obtain ⟨h₄, hword, rfl⟩ := upTo_of_way_final hfinal
  have hfront : c₀.upTo c₄ = kw.text.toList ++ c₁.upTo c₂ ++ c₂.upTo c₃ ++ c₃.upTo c₄ := by
    rw [← Cursor.upTo_append ((h₁.trans h₂).trans h₃) h₄, ← Cursor.upTo_append (h₁.trans h₂) h₃,
      ← Cursor.upTo_append h₁ h₂, hkw]
  have hle : c₀ ≤ c₄ := ((h₁.trans h₂).trans h₃).trans h₄
  have hblanks_ok : ∀ x ∈ c₁.upTo c₂, isBlank x = true := by
    rw [hup₂]
    exact List.forall_mem_cons.mpr ⟨hb, hbs⟩
  have hne : c₁.upTo c₂ ≠ [] := by
    rw [hup₂]
    exact List.cons_ne_nil b bs
  -- the captures are known, the latest first
  rcases exists_list_of_run hlast with ⟨hstop, hcaptures⟩ |
    ⟨e, front, back, t, h₅, h₆, hup₅, hfront_ok, hback_ok, ht, hcaptures⟩
  · refine ⟨kw, c₁.upTo c₂, c₂.upTo c₃, c₃.upTo c₄, ⟨?_, hne, hblanks_ok, hname_ok, ?_, ?_, ?_⟩⟩
    · rw [hstart, hstop, hfront]
    · simp [Match.captured?, Match.capture?, hcaptures, hkw]
    · simp [Match.captured?, Match.capture?, hcaptures]
    · have hlist : m.captured? 3 = none := by simp [Match.captured?, Match.capture?, hcaptures]
      rw [hlist]
      exact .plain hword
  · refine ⟨kw, c₁.upTo c₂, c₂.upTo c₃, c₃.upTo c₄ ++ front ++ ':' :: (back ++ e.upTo m.stop),
      ⟨?_, hne, hblanks_ok, hname_ok, ?_, ?_, ?_⟩⟩
    · rw [hstart, ← Cursor.upTo_append (hle.trans h₅) h₆, ← Cursor.upTo_append hle h₅, hfront, hup₅]
      simp
    · simp [Match.captured?, Match.capture?, hcaptures, hkw]
    · simp [Match.captured?, Match.capture?, hcaptures]
    · have hlist : m.captured? 3 = some (e.upTo m.stop) := by
        simp [Match.captured?, Match.capture?, hcaptures]
      rw [hlist, Option.map_some, Option.getD_some, ht.parseBases_eq]
      exact .list hword hfront_ok hback_ok ht (flatMap_parseBases_sublist ht)

/-! ### The types of a text -/

/-- The keyword of a type is the word that stands in front of it. -/
theorem keyword_of_text (kw : TypeKeyword) :
    (if kw.text.toList = "struct".toList then TypeKeyword.structWord else .classWord) = kw := by
  cases kw <;> decide

/-- **A type stands in its text piece by piece**, where its block does. -/
theorem exists_pieces_of_typeOfBlock? {unit : SourceUnit} {b : Block} {t : TypeDecl}
    (hb : b.IsReported typePattern) (htext : b.keyword.start.text = unit.text.toList)
    (h : typeOfBlock? unit b = some t) :
    ∃ p : TypePieces, p.text = unit.text.toList ∧ p.Describes t := by
  obtain ⟨body, bodySpan, keyword, name, hbody, hspan, hkeyword, hname, rfl⟩ :=
    exists_of_typeOfBlock? h
  obtain ⟨kw, blanks, name', tail, hpieces⟩ := exists_headPieces hb.matchAt
  obtain rfl := Option.some.inj (hpieces.keyword_eq.symm.trans hkeyword)
  obtain rfl := Option.some.inj (hpieces.name_eq.symm.trans hname)
  rcases hbraces : b.braces with _ | braces
  · simp [Block.body?, hbraces] at hbody
  have hopening := hb.braces_eq
  rw [hbraces] at hopening
  obtain ⟨pre, inner, after, hbalanced, rfl, hopen⟩ := bracesAt_eq_some hopening
  obtain rfl := Option.some.inj ((Block.body?_of_around hbraces).symm.trans hbody)
  obtain rfl := Option.some.inj ((Block.bodySpan?_of_around hbraces).symm.trans hspan)
  -- everything in front of the brace is the text before the keyword and the head
  have hgap_le := Cursor.le_skipWhile isAsciiBlank b.keyword.stop
  have hgap_ok : ∀ x ∈ b.keyword.stop.upTo (b.keyword.stop.skipWhile isAsciiBlank),
      isAsciiBlank x = true := fun x hx => Cursor.of_mem_upTo_skipWhile hx
  rw [hopen] at hgap_le hgap_ok
  have hle := hb.start_lt_stop.le.trans hgap_le
  let p : TypePieces :=
    { before := b.keyword.start.before.reverse
      keyword := kw
      blanks := blanks
      name := name'
      tail := tail
      gap := b.keyword.stop.upTo (Cursor.between pre ('{' :: (inner ++ '}' :: after)))
      body := inner
      after := after }
  have hpre : p.before ++ p.head = pre := by
    have hbefore := congrArg List.reverse (Cursor.before_eq_upTo hle)
    rw [Cursor.before_between, List.reverse_reverse, List.reverse_append, List.reverse_reverse,
      ← Cursor.upTo_append hb.start_lt_stop.le hgap_le, hpieces.upTo_eq] at hbefore
    exact hbefore.symm
  have hdeclaration : p.before ++ p.declaration = pre ++ ['{'] ++ inner ++ ['}'] := by
    rw [TypePieces.declaration, ← List.append_assoc, hpre]
    simp [p]
  refine ⟨p, ?_, ?_⟩
  · rw [← htext, Cursor.text_eq_of_le hle, Cursor.text_between, TypePieces.text, hdeclaration]
    simp [p]
  · refine ⟨hpieces.blanks_ne_nil, hpieces.blanks_ok, hpieces.name_ok, hpieces.tail_ok, hgap_ok,
      hbalanced, keyword_of_text kw, rfl, rfl, ?_, ?_, ?_⟩
    · rw [hdeclaration, Block.span, Cursor.span, Block.stop_of_around hbraces, Cursor.offset_between,
        Cursor.offset, Text.byteLength_reverse]
    · rw [hpre]
    · rw [Cursor.line, List.count_reverse]

/-- What is known of the types of a text: they have different names and begin one behind the other,
each stands in the text piece by piece, and the names of its bases are plain. -/
structure SourceUnit.HoldsTypes (unit : SourceUnit) (types : List TypeDecl) : Prop where
  nodup_names : (types.map TypeDecl.name).Nodup
  pairwise_start : types.Pairwise fun t t' => t.span.start < t'.span.start
  exists_pieces : ∀ t ∈ types, ∃ p : TypePieces, p.text = unit.text.toList ∧ p.Describes t
  isBaseName : ∀ t ∈ types, ∀ name ∈ t.bases, IsBaseName name

theorem start_of_typeOfBlock? {unit : SourceUnit} {b : Block} {t : TypeDecl}
    (h : typeOfBlock? unit b = some t) : t.span.start = b.keyword.start.offset := by
  obtain ⟨_, _, _, _, -, -, -, -, rfl⟩ := exists_of_typeOfBlock? h
  rfl

/-- The types of a text begin one behind the other, before any is left out. -/
theorem pairwise_start_of_extractTypes {unit : SourceUnit} {types : List TypeDecl}
    (h : extractTypes unit = .ok types) :
    types.Pairwise fun t t' => t.span.start < t'.span.start := by
  obtain ⟨bs, hbs, rfl⟩ := extractTypes_eq_ok_iff.mp h
  obtain ⟨hreported, hpairwise⟩ := Scanner.pairwise_of_blocks_eq_ok hbs
  rw [List.pairwise_filterMap]
  refine hpairwise.imp_of_mem fun {b b'} hb _ hle t ht t' ht' => ?_
  rw [start_of_typeOfBlock? ht, start_of_typeOfBlock? ht']
  exact Cursor.offset_lt_of_lt ((hreported b hb).start_lt_stop.trans_le hle)

/-- **The types of a text that parses are well formed.**  Their names differ, and they begin one
behind the other.  Each stands in the text: its span reaches from the keyword, behind which blanks
and the name follow, to a closing brace; its body is the balanced text between this brace and the
opening one; and its line counts the newlines in front of it.  The names of its bases are read from
the list without its comments, and hold neither blanks nor a brace, a semicolon or a slash. -/
theorem SourceUnit.holdsTypes_of_parse {unit : SourceUnit} {mode : ParseMode} {d : Declarations}
    (h : unit.parse mode = .ok d) : unit.HoldsTypes d.types := by
  have hnames := SourceUnit.nodup_names h
  obtain ⟨types, htypes, hkept⟩ := SourceUnit.exists_types_of_parse h
  have hsublist : d.types.Sublist types := by
    rw [hkept, keepLast_eq_pwFilter]
    exact List.pwFilter_sublist types
  have hpieces : ∀ t ∈ d.types, ∃ p : TypePieces, p.text = unit.text.toList ∧ p.Describes t := by
    intro t ht
    obtain ⟨bs, hbs, rfl⟩ := extractTypes_eq_ok_iff.mp htypes
    obtain ⟨b, hb, htype⟩ := List.mem_filterMap.mp (hsublist.subset ht)
    obtain ⟨hreported, hle⟩ := Scanner.isReported_of_mem_blocks hbs hb
    exact exists_pieces_of_typeOfBlock? hreported (Cursor.text_eq_of_le hle).symm htype
  refine ⟨hnames, (pairwise_start_of_extractTypes htypes).sublist hsublist, hpieces, ?_⟩
  intro t ht
  obtain ⟨p, -, hp⟩ := hpieces t ht
  exact hp.tail_ok.isBaseName

/-- An enumeration is no type, the comments between the bases hold a brace and a comma of their own,
and one type stands inside another. -/
theorem SourceUnit.holdsTypes_of_parse_commented :
    let text := "// é\nenum class E \x7b a \x7d;\nstruct Mid final : public /* \x7d, */ Base<int, A>," ++
      " // \x7b\n  ::std::Other \x7b\n  class In \x7b \x7d;\n\x7d;\n"
    let unit : SourceUnit := ⟨"a.h", text, 0⟩
    let types : List TypeDecl :=
      [⟨.structWord, "Mid", ["Base<int,A>", "::std::Other"], "a.h", 0, 3, ⟨26, 114⟩, ⟨96, 113⟩,
          "\n  class In \x7b \x7d;\n"⟩,
        ⟨.classWord, "In", [], "a.h", 0, 5, ⟨99, 111⟩, ⟨109, 110⟩, " "⟩]
    unit.parse .types = .ok ⟨types, []⟩ ∧ unit.HoldsTypes types := by
  intro text unit types
  have hparse : unit.parse .types = .ok ⟨types, []⟩ := by
    decide +kernel
  exact ⟨hparse, SourceUnit.holdsTypes_of_parse hparse⟩

end HeaderSurvey
