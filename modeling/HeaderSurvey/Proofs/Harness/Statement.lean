import HeaderSurvey.Proofs.Harness.Filling
import HeaderSurvey.TestCase.Resolve

/-!
# Reading registrations back

A registration lists pointers to the methods of a test case and the names of its tests, and the two
lists are written by separate code.  Here a small reader takes the class, the pointers and the names
out of the text again (`Statement.read`).  **`statements_registrationBlock`** says that reading the
registrations of a harness gives one statement for each test case, in order, in which the pointers
and the names are those of its methods.

The reader only looks at marks: a class stands behind the first angle bracket, a pointer behind each
ampersand, a name between quotes, and a semicolon ends a statement.  It finds its way because the
names that are put in are made of word characters.
-/

namespace HeaderSurvey

/-- Whether a name is made of word characters, as every identifier is. -/
def IsIdentifier (name : String) : Prop :=
  ∀ x ∈ name.toList, isWordChar x = true

instance (name : String) : Decidable (IsIdentifier name) :=
  List.decidableBAll _ _

/-- A test case with identifiers for names, whose methods are methods of its type.  Accepted test
cases have no other methods (`className_of_mem_resolve`). -/
structure TestCase.Plain (c : TestCase) : Prop where
  name : IsIdentifier c.decl.name
  className : ∀ m ∈ c.methods, m.className = c.decl.name
  methodName : ∀ m ∈ c.methods, IsIdentifier m.name

theorem className_of_mem_resolve {roots : List String} {testPrefix : String}
    {types : List TypeDecl} {c : TestCase} (h : c ∈ resolve roots testPrefix types) :
    ∀ m ∈ c.methods, m.className = c.decl.name := by
  obtain ⟨t, -, rfl⟩ := List.mem_map.mp h
  intro m hm
  obtain ⟨name, -, rfl⟩ := List.mem_map.mp hm
  rfl

namespace Harness

open Text

/-! ### The reader -/

/-- The characters of qualified names. -/
def isQualifiedChar (c : Char) : Bool :=
  isWordChar c || c = ':'

/-- The stretch of characters of a class behind each `x`. -/
def stretchesAfter (x : Char) (p : Char → Bool) : List Char → List (List Char)
  | [] => []
  | c :: text =>
    if c = x then text.takeWhile p :: stretchesAfter x p text else stretchesAfter x p text

/-- The texts between quotes, the first of them closed already if the text begins `inside`. -/
def quotedFrom : (inside : Bool) → List Char → List (List Char)
  | _, [] => []
  | true, c :: text => quotedFrom (c ≠ '"') text
  | false, c :: text =>
    if c = '"' then text.takeWhile (· ≠ '"') :: quotedFrom true text else quotedFrom false text

/-- What a registration says. -/
structure Statement where
  className : String
  /-- The methods that are pointed to, in order. -/
  members : List String
  /-- The names of the tests, in order. -/
  names : List String
  deriving Repr, DecidableEq

/-- What the registration of a test case has to say. -/
def Statement.ofCase (c : TestCase) : Statement where
  className := c.decl.name
  members := c.methods.map TestMethod.qualifiedName
  names := c.methods.map TestMethod.qualifiedName

/-- Reads a registration up to its semicolon. -/
def Statement.read (text : List Char) : Statement where
  className := String.ofList ((stretchesAfter '<' isWordChar text).headD [])
  members := (stretchesAfter '&' isQualifiedChar text).map String.ofList
  names := (quotedFrom false text).map String.ofList

/-- Reads registrations that stand behind each other. -/
def statements (block : List Char) : List Statement :=
  (splitBy (· = ';') block).dropLast.map Statement.read

/-! ### What the reader passes over and what it finds -/

theorem stretchesAfter_append {x : Char} (p : Char → Bool) {s : List Char} (hs : x ∉ s)
    (t : List Char) : stretchesAfter x p (s ++ t) = stretchesAfter x p t := by
  induction s with
  | nil => rfl
  | cons c s ih =>
    rw [List.mem_cons, not_or] at hs
    rw [List.cons_append, stretchesAfter, if_neg (Ne.symm hs.1), ih hs.2]

theorem stretchesAfter_of_notMem {x : Char} (p : Char → Bool) {s : List Char} (hs : x ∉ s) :
    stretchesAfter x p s = [] := by
  rw [← List.append_nil s, stretchesAfter_append p hs, stretchesAfter]

theorem stretchesAfter_found {x y : Char} {p : Char → Bool} {w : List Char}
    (hw : ∀ c ∈ w, p c = true) (hx : p x = false) (hy : p y = false) (t : List Char) :
    stretchesAfter x p (x :: (w ++ y :: t)) = w :: stretchesAfter x p (y :: t) := by
  have hnot : x ∉ w := fun hmem => by simp [hw x hmem] at hx
  rw [stretchesAfter, if_pos rfl, stretchesAfter_append p hnot, List.takeWhile_append_of_pos hw,
    List.takeWhile_cons_of_neg (by simp [hy]), List.append_nil]

theorem quotedFrom_append {s : List Char} (hs : '"' ∉ s) (inside : Bool) (t : List Char) :
    quotedFrom inside (s ++ t) = quotedFrom inside t := by
  induction s with
  | nil => rfl
  | cons c s ih =>
    rw [List.mem_cons, not_or] at hs
    cases inside with
    | false => rw [List.cons_append, quotedFrom, if_neg (Ne.symm hs.1), ih hs.2]
    | true =>
      have hc : decide (c ≠ '"') = true := decide_eq_true (Ne.symm hs.1)
      rw [List.cons_append, quotedFrom, hc, ih hs.2]

theorem quotedFrom_of_notMem {s : List Char} (hs : '"' ∉ s) : quotedFrom false s = [] := by
  rw [← List.append_nil s, quotedFrom_append hs, quotedFrom]

theorem quotedFrom_found {w : List Char} (hw : '"' ∉ w) (t : List Char) :
    quotedFrom false ('"' :: (w ++ '"' :: t)) = w :: quotedFrom false t := by
  have htake : (w ++ '"' :: t).takeWhile (· ≠ '"') = w := by
    rw [List.takeWhile_append_of_pos fun c hc => decide_eq_true (ne_of_mem_of_not_mem hc hw)]
    simp
  rw [quotedFrom, if_pos rfl, htake, quotedFrom_append hw]
  rfl

/-- Words with an ampersand each, in a list, are found one by one. -/
theorem stretchesAfter_join {words : List (List Char)}
    (hwords : ∀ w ∈ words, ∀ c ∈ w, isQualifiedChar c = true) {y : Char}
    (hy : isQualifiedChar y = false) {t : List Char} (ht : '&' ∉ y :: t) :
    stretchesAfter '&' isQualifiedChar (join [',', ' '] (words.map ('&' :: ·)) ++ y :: t) =
      words := by
  have hamp : isQualifiedChar '&' = false := by decide
  induction words with
  | nil => exact stretchesAfter_of_notMem _ ht
  | cons w words ih =>
    obtain ⟨hw, hwords⟩ := List.forall_mem_cons.mp hwords
    cases words with
    | nil =>
      rw [List.map_singleton, join, List.cons_append, stretchesAfter_found hw hamp hy,
        stretchesAfter_of_notMem _ ht]
    | cons w' words =>
      have hcomma : isQualifiedChar ',' = false := by decide
      have hmarks : '&' ∉ [',', ' '] := by decide
      have hfound := stretchesAfter_found hw hamp hcomma
        (' ' :: (join [',', ' '] ((w' :: words).map ('&' :: ·)) ++ y :: t))
      have hrest := stretchesAfter_append isQualifiedChar hmarks
        (join [',', ' '] ((w' :: words).map ('&' :: ·)) ++ y :: t)
      rw [ih hwords] at hrest
      simp only [List.map_cons, join_cons_cons, List.cons_append, List.append_assoc,
        List.nil_append] at hfound hrest ⊢
      rw [hfound, hrest]

/-- Words in quotes, in a list, are found one by one. -/
theorem quotedFrom_join {words : List (List Char)} (hwords : ∀ w ∈ words, '"' ∉ w) {t : List Char}
    (ht : '"' ∉ t) :
    quotedFrom false (join [',', ' '] (words.map fun w => '"' :: (w ++ ['"'])) ++ t) = words := by
  induction words with
  | nil => exact quotedFrom_of_notMem ht
  | cons w words ih =>
    obtain ⟨hw, hwords⟩ := List.forall_mem_cons.mp hwords
    cases words with
    | nil =>
      have hfound := quotedFrom_found hw t
      rw [quotedFrom_of_notMem ht] at hfound
      simpa [join] using hfound
    | cons w' words =>
      have hmarks : '"' ∉ [',', ' '] := by decide
      have hfound := quotedFrom_found hw
        ([',', ' '] ++ (join [',', ' '] ((w' :: words).map fun w => '"' :: (w ++ ['"'])) ++ t))
      rw [quotedFrom_append hmarks, ih hwords] at hfound
      simp only [List.map_cons, join_cons_cons, List.cons_append, List.append_assoc,
        List.nil_append] at hfound ⊢
      rw [hfound]

/-! ### The text of a registration -/

/-- What stands in front of the first angle bracket. -/
def openingText : List Char :=
  "\n    runner->register_case".toList

/-- What stands between the class and its second mention. -/
def vectorText : List Char :=
  "(\n        std::vector<void (".toList

/-- What stands in front of the pointers. -/
def pointersText : List Char :=
  "::*)()>(\x7b".toList

/-- What stands between the pointers and the names. -/
def namesText : List Char :=
  "\x7d),\n        \x7b".toList

/-- What stands behind the names, up to the semicolon. -/
def closingText : List Char :=
  "\x7d\n    )".toList

/-- The template of a registration, taken apart. -/
theorem registrationLayout_eq : registrationLayout =
    ⟨openingText ++ ['<'],
      [⟨"CLASS".toList, '>', vectorText⟩, ⟨"CLASS".toList, ':', pointersText.tail⟩,
        ⟨"MEMBERS".toList, '\x7d', namesText.tail⟩,
        ⟨"NAMES".toList, '\x7d', closingText.tail ++ [';']⟩]⟩ := by
  apply of_lines (P := fun text => Layout.ofTemplate text = _)
  · repeat apply map_toList_cons
    exact List.map_nil
  · decide +kernel

/-- A character that no text of a registration holds but for the names that are put in. -/
structure Foreign (x : Char) : Prop where
  front : x ∉ openingText ++ '<' :: '>' :: (vectorText ++ pointersText)
  names : x ∉ namesText
  closing : x ∉ closingText

instance (x : Char) : Decidable (Foreign x) :=
  decidable_of_iff (x ∉ openingText ++ '<' :: '>' :: (vectorText ++ pointersText) ∧
      x ∉ namesText ∧ x ∉ closingText)
    ⟨fun ⟨h1, h2, h3⟩ => ⟨h1, h2, h3⟩, fun ⟨h1, h2, h3⟩ => ⟨h1, h2, h3⟩⟩

/-- What the reader looks for is not in these texts, and the first angle bracket is the one in front
of the class. -/
theorem foreign_marks : Foreign '&' ∧ Foreign '"' ∧ Foreign ';' ∧ '<' ∉ openingText := by
  decide +kernel

/-- A registration up to the pointers. -/
def registrationHead (c : TestCase) : List Char :=
  openingText ++ '<' :: (c.decl.name.toList ++
    '>' :: (vectorText ++ (c.decl.name.toList ++ pointersText)))

/-- A registration up to its semicolon. -/
def registrationBody (c : TestCase) : List Char :=
  registrationHead c ++ (memberList c ++ (namesText ++ (nameList c ++ closingText)))

section Plain

variable {c : TestCase}

/-- The pointers of a registration, method by method. -/
theorem memberList_eq (hc : c.Plain) :
    memberList c =
      join [',', ' '] ((c.methods.map fun m => m.qualifiedName.toList).map ('&' :: ·)) := by
  rw [memberList, List.map_map, List.map_map]
  congr 1
  apply List.map_congr_left
  intro m hm
  simp [TestMethod.qualifiedName, hc.className m hm]

/-- The names of a registration, method by method. -/
theorem nameList_eq (c : TestCase) :
    nameList c = join [',', ' ']
      ((c.methods.map fun m => m.qualifiedName.toList).map fun w => '"' :: (w ++ ['"'])) := by
  rw [nameList, List.map_map, List.map_map]
  congr 1
  apply List.map_congr_left
  intro m _
  simp

theorem isQualifiedChar_of_mem (hc : c.Plain) {w : List Char}
    (hw : w ∈ c.methods.map fun m => m.qualifiedName.toList) :
    ∀ x ∈ w, isQualifiedChar x = true := by
  obtain ⟨m, hm, rfl⟩ := List.mem_map.mp hw
  intro x hx
  have hname := hc.name
  rw [← hc.className m hm] at hname
  rw [TestMethod.qualifiedName, String.toList_append, String.toList_append] at hx
  rw [isQualifiedChar, Bool.or_eq_true, decide_eq_true_iff]
  rcases List.mem_append.mp hx with hx | hx
  · rcases List.mem_append.mp hx with hx | hx
    · exact Or.inl (hname x hx)
    · exact Or.inr (by simpa using hx)
  · exact Or.inl (hc.methodName m hm x hx)

/-- A list of the methods, each with a mark around its name, holds only the names and the marks. -/
theorem notMem_join_map (hc : c.Plain) {x mark : Char} {marked : List Char → List Char}
    (hx : isQualifiedChar x = false) (hmarked : ∀ w, x ∈ marked w → x = mark ∨ x ∈ w)
    (hmarks : x ∉ [mark, ',', ' ']) :
    x ∉ join [',', ' '] ((c.methods.map fun m => m.qualifiedName.toList).map marked) := by
  intro hmem
  rcases mem_join hmem with hcomma | ⟨s, hs, hxs⟩
  · exact hmarks (List.mem_cons_of_mem _ hcomma)
  · obtain ⟨w, hw, rfl⟩ := List.mem_map.mp hs
    rcases hmarked w hxs with rfl | hxw
    · exact hmarks (List.mem_cons_self ..)
    · simp [isQualifiedChar_of_mem hc hw x hxw] at hx

theorem notMem_memberList (hc : c.Plain) {x : Char} (hx : isQualifiedChar x = false)
    (hmarks : x ∉ ['&', ',', ' ']) : x ∉ memberList c := by
  rw [memberList_eq hc]
  exact notMem_join_map hc hx (fun w => List.mem_cons.mp) hmarks

theorem notMem_nameList (hc : c.Plain) {x : Char} (hx : isQualifiedChar x = false)
    (hmarks : x ∉ ['"', ',', ' ']) : x ∉ nameList c := by
  rw [nameList_eq c]
  refine notMem_join_map hc hx (fun w hquoted => ?_) hmarks
  rcases List.mem_cons.mp hquoted with hquote | hinside
  · exact Or.inl hquote
  · exact (List.mem_append.mp hinside).symm.imp_left List.mem_singleton.mp

/-- The text in front of the pointers holds only word characters and its own. -/
theorem notMem_registrationHead (hc : c.Plain) {x : Char} (hx : isWordChar x = false)
    (hforeign : Foreign x) : x ∉ registrationHead c := by
  have hname : x ∉ c.decl.name.toList := fun hmem => by simp [hc.name x hmem] at hx
  have hfront := hforeign.front
  simp only [List.mem_append, List.mem_cons, not_or] at hfront
  obtain ⟨hopening, hopen, hclose, hvector, hpointers⟩ := hfront
  simp only [registrationHead, List.mem_append, List.mem_cons, not_or]
  exact ⟨hopening, hopen, hname, hclose, hvector, hname, hpointers⟩

theorem registration_eq (hc : c.Plain) : registration c = registrationBody c ++ [';'] := by
  have hname : '@' ∉ c.decl.name.toList := fun hmem => absurd (hc.name '@' hmem) (by decide)
  have hmembers : '@' ∉ memberList c := notMem_memberList hc (by decide) (by decide)
  rw [registration_eq_fill hname hmembers, registrationLayout_eq, registrationBody,
    registrationHead]
  have hpointers : ':' :: pointersText.tail = pointersText := by decide
  have hnames : '\x7d' :: namesText.tail = namesText := by decide
  have hclosing : '\x7d' :: closingText.tail = closingText := by decide
  rw [← hpointers, ← hnames, ← hclosing]
  simp [Layout.fill, Slot.fill, registrationValues, List.lookup_cons]

/-- A registration holds only qualified names, the marks of the lists and its own texts. -/
theorem notMem_registrationBody (hc : c.Plain) {x : Char} (hx : isQualifiedChar x = false)
    (hmarks : x ∉ ['&', '"', ',', ' ']) (hforeign : Foreign x) : x ∉ registrationBody c := by
  have hword : isWordChar x = false := (Bool.or_eq_false_iff.mp hx).1
  have hhead := notMem_registrationHead hc hword hforeign
  have hmembers := notMem_memberList hc hx fun hmem => hmarks (by
    simp only [List.mem_cons, List.not_mem_nil, or_false] at hmem ⊢
    tauto)
  have hnames := notMem_nameList hc hx fun hmem => hmarks (by
    simp only [List.mem_cons, List.not_mem_nil, or_false] at hmem ⊢
    tauto)
  simp [registrationBody, hhead, hmembers, hnames, hforeign.names, hforeign.closing]

section Read

variable {lead : List Char}

/-- The class stands behind the first angle bracket. -/
theorem stretchesAfter_open_registrationBody (hc : c.Plain) (hlead : '<' ∉ lead) :
    (stretchesAfter '<' isWordChar (lead ++ registrationBody c)).headD [] =
      c.decl.name.toList := by
  have hopening : '<' ∉ lead ++ openingText := by
    rw [List.mem_append, not_or]
    exact ⟨hlead, foreign_marks.2.2.2⟩
  have hbody : ∃ rest, lead ++ registrationBody c =
      (lead ++ openingText) ++ '<' :: (c.decl.name.toList ++ '>' :: rest) :=
    ⟨vectorText ++ (c.decl.name.toList ++ pointersText) ++
      (memberList c ++ (namesText ++ (nameList c ++ closingText))),
      by simp [registrationBody, registrationHead]⟩
  obtain ⟨rest, hrest⟩ := hbody
  rw [hrest, stretchesAfter_append _ hopening,
    stretchesAfter_found hc.name (by decide) (by decide), List.headD_cons]

/-- A pointer stands behind each ampersand. -/
theorem stretchesAfter_amp_registrationBody (hc : c.Plain) (hlead : '&' ∉ lead) :
    stretchesAfter '&' isQualifiedChar (lead ++ registrationBody c) =
      c.methods.map fun m => m.qualifiedName.toList := by
  have hforeign := foreign_marks.1
  have hhead := notMem_registrationHead hc (by decide) hforeign
  have hnames := notMem_nameList hc (x := '&') (by decide) (by decide)
  have hfront : '&' ∉ lead ++ registrationHead c := by
    rw [List.mem_append, not_or]
    exact ⟨hlead, hhead⟩
  have hbrace : namesText = '\x7d' :: namesText.tail := by decide
  have hback : '&' ∉ '\x7d' :: (namesText.tail ++ (nameList c ++ closingText)) := by
    rw [← List.cons_append, ← hbrace]
    simp [hnames, hforeign.names, hforeign.closing]
  rw [registrationBody, hbrace, List.cons_append, ← List.append_assoc lead,
    stretchesAfter_append _ hfront, memberList_eq hc]
  exact stretchesAfter_join (fun w hw => isQualifiedChar_of_mem hc hw) (by decide) hback

/-- The names stand between quotes. -/
theorem quotedFrom_registrationBody (hc : c.Plain) (hlead : '"' ∉ lead) :
    quotedFrom false (lead ++ registrationBody c) =
      c.methods.map fun m => m.qualifiedName.toList := by
  have hforeign := foreign_marks.2.1
  have hhead := notMem_registrationHead hc (by decide) hforeign
  have hmembers := notMem_memberList hc (x := '"') (by decide) (by decide)
  have hfront : '"' ∉ lead ++ registrationHead c ++ memberList c ++ namesText := by
    simp [hlead, hhead, hmembers, hforeign.names]
  have hbody : lead ++ registrationBody c =
      (lead ++ registrationHead c ++ memberList c ++ namesText) ++ (nameList c ++ closingText) := by
    simp [registrationBody]
  rw [hbody, quotedFrom_append hfront, nameList_eq]
  refine quotedFrom_join ?_ hforeign.closing
  intro w hw hmem
  exact absurd (isQualifiedChar_of_mem hc hw '"' hmem) (by decide)

/-- Reading a registration gives what it has to say. -/
theorem read_registrationBody (hc : c.Plain) (hlead : ∀ x ∈ ['<', '&', '"', ';'], x ∉ lead) :
    Statement.read (lead ++ registrationBody c) = Statement.ofCase c := by
  rw [Statement.read, Statement.ofCase,
    stretchesAfter_open_registrationBody hc (hlead '<' (by decide)),
    stretchesAfter_amp_registrationBody hc (hlead '&' (by decide)),
    quotedFrom_registrationBody hc (hlead '"' (by decide))]
  simp

end Read

end Plain

/-! ### All registrations -/

/-- A registration holds the words it begins with, also behind other text. -/
theorem openingText_infix (lead : List Char) (c : TestCase) :
    openingText ++ ['<'] <:+: lead ++ registrationBody c := by
  refine ⟨lead, c.decl.name.toList ++ '>' :: (vectorText ++
    (c.decl.name.toList ++ pointersText)) ++ (memberList c ++ (namesText ++
      (nameList c ++ closingText))), ?_⟩
  simp [registrationBody, registrationHead]

/-- A registration is cut at its semicolon. -/
theorem splitBy_registration {c : TestCase} (hc : c.Plain) {lead : List Char} (hlead : ';' ∉ lead)
    (rest : List Char) :
    splitBy (· = ';') (lead ++ (registration c ++ rest)) =
      (lead ++ registrationBody c) :: splitBy (· = ';') rest := by
  have hbody : ∀ x ∈ lead ++ registrationBody c, decide (x = ';') = false := by
    intro x hx
    refine decide_eq_false ?_
    rintro rfl
    rcases List.mem_append.mp hx with hx | hx
    · exact hlead hx
    · exact notMem_registrationBody hc (by decide) (by decide) foreign_marks.2.2.1 hx
  rw [registration_eq hc, List.append_assoc, ← List.append_assoc, List.singleton_append,
    splitBy_append_cons (by simp), splitBy_of_forall hbody, List.singleton_append]

/-- The registrations are cut at their semicolons, whatever follows them, and read one by one. -/
theorem exists_splitBy_registrationBlock {cases : List TestCase} (hcases : ∀ c ∈ cases, c.Plain)
    (hne : cases ≠ []) {lead : List Char} (hlead : ∀ x ∈ ['<', '&', '"', ';'], x ∉ lead)
    (rest : List Char) :
    ∃ pieces, splitBy (· = ';') (lead ++ (registrationBlock cases ++ rest)) =
        pieces ++ splitBy (· = ';') rest ∧
      pieces.map Statement.read = cases.map Statement.ofCase ∧
      ∀ piece ∈ pieces, openingText ++ ['<'] <:+: piece := by
  induction cases generalizing lead with
  | nil => exact absurd rfl hne
  | cons c cases ih =>
    obtain ⟨hc, hcases⟩ := List.forall_mem_cons.mp hcases
    have hread := read_registrationBody hc hlead
    have hopening := openingText_infix lead c
    have hsplit := splitBy_registration hc (hlead ';' (by decide))
    cases cases with
    | nil =>
      refine ⟨[lead ++ registrationBody c], ?_, ?_, ?_⟩
      · rw [registrationBlock, List.map_singleton, join, hsplit]
        rfl
      · rw [List.map_singleton, hread]
        rfl
      · exact List.forall_mem_singleton.mpr hopening
    | cons c' cases =>
      -- the line break in front of the next registration is read with it
      have hnewline : ∀ x ∈ ['<', '&', '"', ';'], x ∉ ['\n'] := by simp
      obtain ⟨pieces, hpieces, hreads, hopenings⟩ := ih hcases (List.cons_ne_nil c' cases) hnewline
      refine ⟨(lead ++ registrationBody c) :: pieces, ?_, ?_, ?_⟩
      · have hblock : registrationBlock (c :: c' :: cases) ++ rest =
            registration c ++ (['\n'] ++ (registrationBlock (c' :: cases) ++ rest)) := by
          simp [registrationBlock, join_cons_cons]
        rw [hblock, hsplit, hpieces]
        rfl
      · rw [List.map_cons, hread, hreads]
        rfl
      · exact List.forall_mem_cons.mpr ⟨hopening, hopenings⟩

/-- **Reading the registrations of a harness** gives one statement for each test case, in order. -/
theorem statements_registrationBlock {cases : List TestCase} (hcases : ∀ c ∈ cases, c.Plain) :
    statements (registrationBlock cases) = cases.map Statement.ofCase := by
  by_cases hne : cases = []
  · subst hne
    rfl
  · have hlead : ∀ x ∈ ['<', '&', '"', ';'], x ∉ ([] : List Char) := by simp
    obtain ⟨pieces, hpieces, hreads, -⟩ := exists_splitBy_registrationBlock hcases hne hlead []
    rw [List.nil_append, List.append_nil] at hpieces
    have hend : splitBy (· = ';') ([] : List Char) = [[]] := rfl
    rw [statements, hpieces, hend, List.dropLast_concat, hreads]

/-- The names in the statements are those that are listed. -/
theorem flatMap_names_ofCase (cases : List TestCase) :
    (cases.map Statement.ofCase).flatMap Statement.names = listTests cases := by
  rw [List.flatMap_map]
  rfl

end Harness
end HeaderSurvey
