import HeaderSurvey.Proofs.Declaration.ClassName
import HeaderSurvey.Proofs.TestCase.Collapse

/-!
# Exactly the test methods are found

A class body is written member by member, one on a line: inner types, and methods that are declared
or defined.  The test methods that are found in it are those that it has (`harvest_members`): a
method is found exactly if it returns `void`, takes no parameters and has a name with the prefix
(`Member.testName?`), and the names come in the order of the members.

The proof goes along the members as they are read, with a semicolon in place of each definition.
Where the pattern matches inside the text of a member, it matches at its start, and the member is a
test method (`Member.eq_nil_of_matchAt?`); and the text of a test method is matched to its end.
-/

namespace HeaderSurvey

open Pattern

/-! ### Members -/

/-- The characters that mark the parts of a member. -/
def memberMarks : List Char :=
  ['(', ')', '{', '}', ';']

/-- A return type: a text without marks, in which `void` is a word only if it is the whole text. -/
structure ReturnType where
  text : List Char
  marks_ok : ∀ x ∈ text, x ∉ memberMarks
  void_ok : "void".toList ∈ Text.runs text → text = "void".toList

/-- A method of a class. -/
structure Method where
  returnType : ReturnType
  name : Identifier
  params : List Char
  /-- The words behind the parameters. -/
  qualifiers : List (List Char)
  /-- What stands in front of the semicolon or the body. -/
  blanks : List Char
  /-- The body of a method that is defined, without its braces. -/
  body? : Option (List Char)
  params_ok : ∀ x ∈ params, x ∉ memberMarks
  params_trim : Text.trim params = params
  qualifiers_ok : List.Sublist qualifiers qualifierWords
  blanks_ok : ∀ x ∈ blanks, isBlank x = true
  body_ok : ∀ body ∈ body?, Balanced body

namespace Method

/-- What stands in front of the opening parenthesis. -/
def front (m : Method) : List Char :=
  m.returnType.text ++ ' ' :: m.name.text

/-- What stands between the closing parenthesis and the semicolon or the body. -/
def back (m : Method) : List Char :=
  (m.qualifiers.flatMap fun word => ' ' :: word) ++ m.blanks

/-- The method up to its semicolon or body. -/
def head (m : Method) : List Char :=
  m.front ++ '(' :: (m.params ++ ')' :: m.back)

def text (m : Method) : List Char :=
  match m.body? with
  | none => m.head ++ [';']
  | some body => m.head ++ '{' :: (body ++ ['}'])

end Method

/-- What a class body is made of. -/
inductive Member where
  /-- An inner type. -/
  | type (name : Identifier) (body : List Char) (body_ok : Balanced body)
  | method (m : Method)

namespace Member

/-- What stands in front of the body of an inner type. -/
def typeHead (name : Identifier) : List Char :=
  "struct ".toList ++ (name.text ++ [' '])

/-- The member as it is written. -/
def text : Member → List Char
  | type name body _ => typeHead name ++ '{' :: (body ++ ['}', ';'])
  | method m => m.text

/-- The member as it is read, with a semicolon in place of its body. -/
def read : Member → List Char
  | type name _ _ => typeHead name ++ [';', ';']
  | method m => m.head ++ [';']

/-- The name of a member that is a test method. -/
def testName? (start : List Char) : Member → Option (List Char)
  | type _ _ _ => none
  | method m =>
    if m.returnType.text = "void".toList ∧ start <+: m.name.text ∧
        (m.params = [] ∨ m.params = "void".toList) then
      some m.name.text
    else none

end Member

/-! ### The characters of a member -/

theorem notMem_memberMarks_of_isWordChar {x : Char} (hx : isWordChar x = true) :
    x ∉ memberMarks :=
  Text.notMem_of_class (by decide) hx

theorem notMem_memberMarks_of_isBlank {x : Char} (hx : isBlank x = true) : x ∉ memberMarks :=
  Text.notMem_of_class (by decide) hx

theorem isInner_of_notMem_memberMarks {x : Char} (hx : x ∉ memberMarks) : isInner x = true := by
  rw [isInner, decide_eq_true_iff]
  exact fun hmem => hx ((show ['(', ')', ';'] ⊆ memberMarks by decide) hmem)

theorem ne_brace_of_notMem_memberMarks {x : Char} (hx : x ∉ memberMarks) : x ≠ '{' ∧ x ≠ '}' := by
  constructor
  · rintro rfl
    exact hx (by decide)
  · rintro rfl
    exact hx (by decide)

theorem Identifier.notMem_memberMarks (n : Identifier) : ∀ x ∈ n.text, x ∉ memberMarks :=
  fun _ hx => notMem_memberMarks_of_isWordChar (n.isWordChar_of_mem hx)

/-- Every identifier can be a return type. -/
def Identifier.returnType (n : Identifier) : ReturnType where
  text := n.text
  marks_ok := n.notMem_memberMarks
  void_ok := by
    rw [Text.runs_of_forall fun x hx => n.isWordChar_of_mem hx, List.mem_singleton]
    exact Eq.symm

theorem Member.typeHead_ok (name : Identifier) : ∀ x ∈ typeHead name, x ∉ memberMarks := by
  intro x hx
  rcases List.mem_append.mp hx with hx | hx
  · exact (show ∀ x ∈ "struct ".toList, x ∉ memberMarks by decide) x hx
  · rcases List.mem_append.mp hx with hx | hx
    · exact name.notMem_memberMarks x hx
    · rw [List.mem_singleton.mp hx]
      decide

namespace Method

variable (m : Method)

theorem front_ok : ∀ x ∈ m.front, x ∉ memberMarks := by
  intro x hx
  rcases List.mem_append.mp hx with hx | hx
  · exact m.returnType.marks_ok x hx
  · rcases List.mem_cons.mp hx with rfl | hx
    · decide
    · exact m.name.notMem_memberMarks x hx

theorem back_ok : ∀ x ∈ m.back, x ∉ memberMarks := by
  intro x hx
  rcases List.mem_append.mp hx with hx | hx
  · obtain ⟨word, hword, hx⟩ := List.mem_flatMap.mp hx
    have hwords : ∀ word ∈ qualifierWords, ∀ x ∈ ' ' :: word, x ∉ memberMarks := by decide
    exact hwords word (m.qualifiers_ok.subset hword) x hx
  · exact notMem_memberMarks_of_isBlank (m.blanks_ok x hx)

theorem head_ne_brace : ∀ x ∈ m.head, x ≠ '{' ∧ x ≠ '}' := by
  intro x hx
  rcases List.mem_append.mp hx with hx | hx
  · exact ne_brace_of_notMem_memberMarks (m.front_ok x hx)
  · rcases List.mem_cons.mp hx with rfl | hx
    · decide
    · rcases List.mem_append.mp hx with hx | hx
      · exact ne_brace_of_notMem_memberMarks (m.params_ok x hx)
      · rcases List.mem_cons.mp hx with rfl | hx
        · decide
        · exact ne_brace_of_notMem_memberMarks (m.back_ok x hx)

end Method

/-! ### Members as they are read -/

/-- A text without braces is read as it is. -/
theorem collapseFrom_of_forall {s : List Char} (h : ∀ x ∈ s, x ≠ '{' ∧ x ≠ '}') :
    collapseFrom 0 s = s := by
  induction s with
  | nil => rfl
  | cons c s ih =>
    obtain ⟨hc, hs⟩ := List.forall_mem_cons.mp h
    rw [collapseFrom_zero_cons c s hc.1 hc.2, ih hs]

/-- A text whose braces match is read as if nothing stood behind it. -/
theorem collapseFrom_append_of_balanced {s : List Char} (hs : Balanced s) (t : List Char) :
    collapseFrom 0 (s ++ t) = collapseFrom 0 s ++ collapseFrom 0 t := by
  rw [collapseFrom_append, depthAfter_of_balanced hs]

/-- Braces behind a text without any, and a text without any behind them. -/
theorem collapseFrom_around {front inside back : List Char}
    (hfront : ∀ x ∈ front, x ≠ '{' ∧ x ≠ '}') (hinside : Balanced inside)
    (hback : ∀ x ∈ back, x ≠ '{' ∧ x ≠ '}') :
    Balanced (front ++ '{' :: (inside ++ '}' :: back)) ∧
      collapseFrom 0 (front ++ '{' :: (inside ++ '}' :: back)) = front ++ ';' :: back := by
  constructor
  · exact balanced_append (balanced_of_forall hfront)
      (balanced_block hinside (balanced_of_forall hback))
  · rw [collapseFrom_append_of_balanced (balanced_of_forall hfront), collapseFrom_of_forall hfront,
      collapseFrom_region hinside, collapseFrom_of_forall hback]
    rfl

/-- A member is read as it is, but for its body. -/
theorem Member.collapseFrom_text (m : Member) :
    Balanced m.text ∧ collapseFrom 0 m.text = m.read := by
  cases m with
  | type name body hbody =>
    exact collapseFrom_around
      (fun x hx => ne_brace_of_notMem_memberMarks (typeHead_ok name x hx)) hbody (by decide)
  | method m =>
    rw [Member.text, Member.read, Method.text]
    rcases hbody : m.body? with _ | body
    · have hplain : ∀ x ∈ m.head ++ [';'], x ≠ '{' ∧ x ≠ '}' := by
        intro x hx
        rcases List.mem_append.mp hx with hx | hx
        · exact m.head_ne_brace x hx
        · rw [List.mem_singleton.mp hx]
          decide
      exact ⟨balanced_of_forall hplain, collapseFrom_of_forall hplain⟩
    · exact collapseFrom_around m.head_ne_brace (m.body_ok body hbody) (by simp)

/-- A class body is read member by member. -/
theorem collapseBraces_join (ms : List Member) :
    collapseBraces (Text.join ['\n'] (ms.map Member.text)) =
      Text.join ['\n'] (ms.map Member.read) := by
  induction ms with
  | nil => rfl
  | cons m ms ih =>
    obtain ⟨hbalanced, hread⟩ := m.collapseFrom_text
    cases ms with
    | nil => exact hread
    | cons m' ms =>
      rw [List.map_cons, List.map_cons, List.map_cons, List.map_cons, Text.join_cons_cons,
        Text.join_cons_cons, List.append_assoc, List.append_assoc, collapseBraces,
        collapseFrom_append_of_balanced hbalanced, hread,
        collapseFrom_append_of_balanced (by decide)]
      exact congrArg (fun rest => m.read ++ ('\n' :: rest)) ih

/-! ### Where a match can begin -/

section Places

variable {start : List Char} (hstart : ∀ x ∈ start, isWordChar x = true) {p : MethodPieces}
  (hp : p.IsTest start)
include hstart hp

/-- The first mark in the text of a test method is the opening parenthesis, so the text does not
begin in a text without one that ends with a semicolon. -/
theorem not_text_of_notMem_open {s u v rest post : List Char} (hs : s ++ [';'] = u ++ v)
    (hv : v ≠ []) (hopen : '(' ∉ s) : p.text ++ rest ≠ v ++ post := by
  intro h
  rcases Text.forall_or_exists_first isInner v with hall | ⟨w, y, t, rfl, hw, hy⟩
  · -- the semicolon itself is in the way
    obtain ⟨v, z, rfl⟩ := (List.eq_nil_or_concat v).resolve_left hv
    rw [List.concat_eq_append] at hs hall
    have hlast : z = ';' := by
      rw [← List.append_assoc] at hs
      exact (List.append_singleton_inj.mp hs).2.symm
    rw [hlast] at hall
    exact absurd (hall ';' (by simp)) (by decide)
  · rw [p.text_eq] at h
    simp only [List.append_assoc, List.cons_append] at h
    obtain ⟨-, rfl, -⟩ := Text.append_cons_inj_of_class (hp.isInner_of_mem_head hstart) hw
      (by decide) hy h
    have hmem : '(' ∈ s ++ [';'] := by
      rw [hs]
      simp
    exact hopen (by simpa using hmem)

/-- The text of a test method that begins in the text of a method begins in front of the opening
parenthesis. -/
theorem Method.exists_of_text (m : Method) {u v rest post : List Char}
    (hsplit : m.head ++ [';'] = u ++ v) (hv : v ≠ []) (h : p.text ++ rest = v ++ post) :
    ∃ w, m.front = u ++ w ∧ p.head = w ∧ p.params = m.params := by
  have hback : '(' ∉ m.params ++ ')' :: m.back := by
    simp only [List.mem_append, List.mem_cons, not_or]
    refine ⟨fun hmem => m.params_ok _ hmem (by decide), by decide, fun hmem => ?_⟩
    exact m.back_ok _ hmem (by decide)
  rw [Method.head, List.append_assoc] at hsplit
  rcases List.append_eq_append_iff.mp hsplit with ⟨u', rfl, hrest⟩ | ⟨w, hfront, rfl⟩
  · cases u' with
    | nil =>
      -- it does not begin with the parenthesis
      rw [List.nil_append] at hrest
      rw [← hrest] at h
      have hhead : p.text = 'v' :: p.text.tail := rfl
      rw [hhead] at h
      exact absurd (List.cons.inj h).1 (by decide)
    | cons x u' =>
      obtain ⟨-, hrest⟩ := List.cons.inj hrest
      exact absurd h (not_text_of_notMem_open hstart hp hrest hv hback)
  · have hw : ∀ x ∈ w, isInner x = true := by
      intro x hx
      refine isInner_of_notMem_memberMarks (m.front_ok x ?_)
      rw [hfront]
      exact List.mem_append_right u hx
    have hmarks : p.text ++ rest = w ++ '(' :: (m.params ++ ')' :: (m.back ++ ';' :: post)) := by
      rw [h]
      simp
    obtain ⟨hhead, hparams, -, -⟩ := hp.of_append hstart hw
      (fun x hx => isInner_of_notMem_memberMarks (m.params_ok x hx))
      (fun x hx => isInner_of_notMem_memberMarks (m.back_ok x hx)) hmarks
    exact ⟨w, hfront, hhead, hparams⟩

/-- A method in front of whose parenthesis the text of a test method begins, where no word goes on,
returns `void` and has the name of the test method. -/
theorem Method.eq_nil_of_front (m : Method) {u : List Char} (hfront : m.front = u ++ p.head)
    (hu : Cursor.headIsWord u.reverse = false) :
    u = [] ∧ m.returnType.text = "void".toList ∧ p.name = m.name.text := by
  obtain ⟨b, blanks, hblanks⟩ := List.exists_cons_of_ne_nil hp.blanks_ne_nil
  have hb : isWordChar b = false :=
    isWordChar_of_isBlank (hp.blanks_ok b (by rw [hblanks]; exact List.mem_cons_self ..))
  have hhead : p.head = "void".toList ++ b :: (blanks ++ (p.name ++ p.gap)) := by
    rw [MethodPieces.head, hblanks, List.cons_append]
  have hvoid : ∀ x ∈ "void".toList, isWordChar x = true := by decide
  rw [Method.front] at hfront
  rcases List.append_eq_append_iff.mp hfront with ⟨u', rfl, hname⟩ | ⟨r, hreturn, hrest⟩
  · cases u' with
    | nil =>
      rw [List.nil_append, hhead] at hname
      exact absurd (List.cons.inj hname).1 (by decide)
    | cons x u' =>
      -- the blank behind the return type is none of a name
      obtain ⟨-, hname⟩ := List.cons.inj hname
      have hmem : b ∈ m.name.text := by
        rw [hname, hhead]
        simp
      exact absurd hmem (m.name.notMem hb)
  · rw [hrest] at hhead
    have hruns := Text.mem_runs_of_start hu hvoid (by decide) hb hhead
    rw [← hreturn] at hruns
    have hword := m.returnType.void_ok hruns
    rw [hword] at hreturn
    have hr : ∀ x ∈ r, isWordChar x = true := by
      intro x hx
      exact hvoid x (by rw [hreturn]; exact List.mem_append_right u hx)
    obtain ⟨rfl, -, -⟩ := Text.append_cons_inj_of_class hr hvoid (by decide) hb hhead
    refine ⟨List.append_left_eq_self.mp hreturn.symm, hword, ?_⟩
    have hblank : ∀ x ∈ [' '], isBlank x = true := by decide
    have htrim : Text.trim ([' '] ++ (m.name.text ++ [])) = m.name.text :=
      Text.trim_of_blanks hblank (fun x hx => m.name.isBlank_of_mem hx) (by simp)
    rw [List.append_nil] at htrim
    rw [← hp.name_eq hstart hrest]
    exact htrim

end Places

/-- **Where the pattern matches inside the text of a member**, it matches at its start, and the
member is a test method. -/
theorem Member.eq_nil_of_matchAt? {start : List Char} (hstart : ∀ x ∈ start, isWordChar x = true)
    (m : Member) {u v pre post : List Char} (hsplit : m.read = u ++ v) (hv : v ≠ []) {o : Match}
    (h : (testMethodPattern start).matchAt? (Cursor.between (pre ++ u) (v ++ post)) = some o) :
    u = [] ∧ ∃ name, m.testName? start = some name := by
  obtain ⟨hplace, p, hp, hleads, -⟩ := exists_pieces_of_matchAt? h
  obtain ⟨rest, htext, -⟩ := hleads.eq_between
  rw [htext, p.isWordBoundary_between_text, Bool.not_eq_true', List.reverse_append] at hplace
  cases m with
  | type name body hbody =>
    have hopen : '(' ∉ typeHead name ++ [';'] := by
      simp only [List.mem_append, List.mem_singleton, not_or]
      exact ⟨fun hmem => typeHead_ok name _ hmem (by decide), by decide⟩
    have hread : (typeHead name ++ [';']) ++ [';'] = u ++ v := by
      rw [← hsplit, Member.read, List.append_assoc]
      rfl
    exact absurd htext.symm (not_text_of_notMem_open hstart hp hread hv hopen)
  | method m =>
    obtain ⟨_, hfront, rfl, hparams⟩ := m.exists_of_text hstart hp hsplit hv htext.symm
    have hu : Cursor.headIsWord u.reverse = false := by
      cases hreverse : u.reverse with
      | nil => rfl
      | cons x u' =>
        rw [hreverse] at hplace
        exact hplace
    obtain ⟨rfl, hreturn, hname⟩ := m.eq_nil_of_front hstart hp hfront hu
    refine ⟨rfl, m.name.text, if_pos ⟨hreturn, ?_, ?_⟩⟩
    · obtain ⟨others, hothers, -⟩ := hp.name_ok
      exact ⟨others, by rw [← hname, hothers]⟩
    · have hlist := hp.params_ok.trim_eq
      rwa [hparams, m.params_trim] at hlist

/-- What a test method is written with behind its parameters may stand there. -/
theorem areQualifiers_of_sublist {words : List (List Char)} (h : words.Sublist qualifierWords)
    {blanks : List Char} (hblanks : ∀ x ∈ blanks, isBlank x = true) :
    AreQualifiers ((words.flatMap fun word => ' ' :: word) ++ blanks) := by
  have hselection : ∀ {words ws : List (List Char)}, words.Sublist ws →
      ∃ front rest, (words.flatMap fun word => ' ' :: word) ++ blanks = front ++ rest ∧
        (∀ x ∈ front, isBlank x = true) ∧ IsSelection ws rest := by
    intro words ws h
    induction h with
    | slnil => exact ⟨blanks, [], by simp, hblanks, rfl⟩
    | cons w _ ih =>
      obtain ⟨front, rest, heq, hfront, hrest⟩ := ih
      exact ⟨front, rest, heq, hfront, Or.inl hrest⟩
    | cons_cons w _ ih =>
      obtain ⟨front, rest, heq, hfront, hrest⟩ := ih
      refine ⟨[' '], w ++ (front ++ rest), ?_, by decide, Or.inr ⟨front, rest, rfl, hfront, hrest⟩⟩
      rw [List.flatMap_cons, ← heq]
      simp
  obtain ⟨front, rest, heq, hfront, hrest⟩ := hselection h
  exact ⟨front, rest, heq, hfront, hrest⟩

/-- **The text of a member that is a test method is matched**, to its end. -/
theorem Member.exists_matchAt? {start : List Char} (hstart : ∀ x ∈ start, isWordChar x = true)
    {m : Member} {name : List Char} (hname : m.testName? start = some name) {pre post : List Char}
    (hpre : Cursor.headIsWord pre.reverse = false) :
    ∃ o, (testMethodPattern start).matchAt? (Cursor.between pre (m.read ++ post)) = some o ∧
      o.stop = Cursor.between (pre ++ m.read) post ∧ o.captured? 1 = some name := by
  cases m with
  | type _ _ _ => exact absurd hname (by simp [testName?])
  | method m =>
    rw [testName?] at hname
    split_ifs at hname with htest
    obtain ⟨hvoid, ⟨others, hothers⟩, hparams⟩ := htest
    obtain rfl := Option.some.inj hname
    have hp : MethodPieces.IsTest start ⟨[' '], m.name.text, [], m.params, m.back⟩ := by
      refine ⟨List.cons_ne_nil ' ' [], by simp [isBlank], ⟨others, hothers.symm, fun x hx => ?_⟩,
        by simp, ?_, ?_⟩
      · exact m.name.isWordChar_of_mem (by rw [← hothers]; exact List.mem_append_right start hx)
      · exact ⟨[], m.params, [], by simp, by simp, hparams, by simp⟩
      · exact areQualifiers_of_sublist m.qualifiers_ok m.blanks_ok
    have htext : MethodPieces.text ⟨[' '], m.name.text, [], m.params, m.back⟩ =
        (Member.method m).read := by
      rw [Member.read, Method.head, Method.front, hvoid]
      simp [MethodPieces.text, MethodPieces.tail]
    have hfound := exists_matchAt?_testMethod hstart hp hpre post
    rwa [htext] at hfound

/-! ### From member to member -/

/-- The names of the test methods that are found from a place on. -/
def testNamesFrom (start : List Char) (c : Cursor) : List (List Char) :=
  ((testMethodPattern start).matchesFrom c).filterMap (·.captured? 1)

/-- Of a member its own name is found, if it is a test method, and nothing of what follows is
touched. -/
theorem testNamesFrom_member {start : List Char} (hstart : ∀ x ∈ start, isWordChar x = true)
    (m : Member) {pre : List Char} (hpre : Cursor.headIsWord pre.reverse = false)
    (post : List Char) :
    testNamesFrom start (Cursor.between pre (m.read ++ post)) =
      (m.testName? start).toList ++ testNamesFrom start (Cursor.between (pre ++ m.read) post) := by
  rcases hname : m.testName? start with _ | name
  · -- no match begins in the text of the member
    have hnone : ∀ e, Cursor.between pre (m.read ++ post) ≤ e →
        e < Cursor.between (pre ++ m.read) post → (testMethodPattern start).matchAt? e = none := by
      intro e hle hlt
      obtain ⟨u, v, hsplit, hv, rfl⟩ := Cursor.exists_append_of_le_of_lt hle hlt
      rw [Option.eq_none_iff_forall_ne_some]
      intro o ho
      obtain ⟨-, name, hsome⟩ := m.eq_nil_of_matchAt? hstart hsplit hv ho
      rw [hname] at hsome
      exact nomatch hsome
    rw [testNamesFrom, matchesFrom_of_le (Cursor.between_le_between pre m.read post) hnone]
    rfl
  · obtain ⟨o, ho, hstop, hcaptured⟩ := @Member.exists_matchAt? _ hstart m name hname pre post hpre
    have hne : m.read ≠ [] := by
      cases m with
      | type _ _ _ => exact List.cons_ne_nil _ _
      | method m => exact List.append_ne_nil_of_right_ne_nil _ (List.cons_ne_nil _ _)
    have hlt : o.start < o.stop := by
      rw [start_of_matchAt? ho, hstop]
      exact Cursor.between_lt_between pre post hne
    rw [testNamesFrom, matchesFrom_of_matchAt? ho hlt, hstop]
    exact List.filterMap_cons_some hcaptured

/-- No match begins at a newline. -/
theorem testNamesFrom_newline {start : List Char} (pre post : List Char) :
    testNamesFrom start (Cursor.between pre ('\n' :: post)) =
      testNamesFrom start (Cursor.between (pre ++ ['\n']) post) := by
  have hnone : (testMethodPattern start).matchAt? (Cursor.between pre ('\n' :: post)) = none := by
    rw [Option.eq_none_iff_forall_ne_some]
    intro o ho
    obtain ⟨-, p, -, hleads, -⟩ := exists_pieces_of_matchAt? ho
    obtain ⟨rest, htext, -⟩ := hleads.eq_between
    have hhead : p.text = 'v' :: p.text.tail := rfl
    rw [hhead] at htext
    exact absurd (List.cons.inj htext).1 (by decide)
  have hgo := matchesFrom_of_le (Cursor.between_le_between pre ['\n'] post)
    (matchAt?_eq_none_of_lt_next hnone)
  exact congrArg (List.filterMap (·.captured? 1)) hgo

/-- The names that are found in members on lines of their own are those of the test methods. -/
theorem testNamesFrom_join {start : List Char} (hstart : ∀ x ∈ start, isWordChar x = true)
    (ms : List Member) {pre : List Char} (hpre : Cursor.headIsWord pre.reverse = false) :
    testNamesFrom start (Cursor.between pre (Text.join ['\n'] (ms.map Member.read))) =
      ms.filterMap (Member.testName? start) := by
  induction ms generalizing pre with
  | nil => rfl
  | cons m ms ih =>
    have hm : (m :: ms).filterMap (Member.testName? start) =
        (m.testName? start).toList ++ ms.filterMap (Member.testName? start) := by
      rcases hname : m.testName? start with _ | name
      · exact List.filterMap_cons_none hname
      · exact List.filterMap_cons_some hname
    cases ms with
    | nil =>
      have hlast := testNamesFrom_member hstart m hpre []
      rw [List.append_nil] at hlast
      rw [hm]
      exact hlast
    | cons m' ms =>
      have hnext : Cursor.headIsWord (pre ++ m.read ++ ['\n']).reverse = false := by
        rw [List.reverse_append]
        exact show isWordChar '\n' = false by decide
      rw [hm, ← ih hnext, List.map_cons, List.map_cons, Text.join_cons_cons, List.append_assoc,
        testNamesFrom_member hstart m hpre, List.singleton_append, testNamesFrom_newline]

/-- **The test methods of a class body are found, and nothing else.**  For a prefix of word
characters and a body written member by member on lines of their own, the names of the test methods
are those of the methods that return `void`, take no parameters and have a name with the prefix, in
the order of the members and as often as they occur. -/
theorem harvest_members (testPrefix : String)
    (hletters : ∀ x ∈ testPrefix.toList, isWordChar x = true) (t : TypeDecl) (ms : List Member) :
    harvest testPrefix { t with body := String.ofList (Text.join ['\n'] (ms.map Member.text)) } =
      (ms.filterMap (Member.testName? testPrefix.toList)).map fun name =>
        ⟨t.name, String.ofList name⟩ := by
  have hnames := @testNamesFrom_join _ hletters ms [] rfl
  rw [harvest, String.toList_ofList, testNames, collapseBraces_join]
  rw [← hnames]
  rfl

/-- Of an inner type and four methods two are test methods. -/
theorem harvest_members_mixed :
    let void : ReturnType :=
      (⟨'v', "oid".toList, by decide, by decide⟩ : Identifier).returnType
    let unsignedInt : ReturnType := ⟨"unsigned int".toList, by decide, by decide⟩
    let declared : Method :=
      ⟨void, ⟨'t', "est_a".toList, by decide, by decide⟩, [], [], [], none, by decide, rfl,
        by decide, by decide, by decide⟩
    let inner : Member :=
      .type ⟨'S', [], by decide, by decide⟩ " void test_x(); ".toList (by decide)
    let number : Method :=
      ⟨unsignedInt, ⟨'t', "est_y".toList, by decide, by decide⟩, [], [], [], none, by decide, rfl,
        by decide, by decide, by decide⟩
    let defined : Method :=
      ⟨void, ⟨'t', "est_b".toList, by decide, by decide⟩, "void".toList,
        ["const".toList, "final".toList], [' '], some "\n void test_z();\n".toList, by decide,
        rfl, by decide, by decide, by decide⟩
    let applied : Method :=
      ⟨void, ⟨'t', "est_w".toList, by decide, by decide⟩, "int n".toList, [], [], some [],
        by decide, rfl, by decide, by decide, by decide⟩
    let members : List Member :=
      [.method declared, inner, .method number, .method defined, .method applied]
    let text := "void test_a();\nstruct S \x7b void test_x(); \x7d;\nunsigned int test_y();\n" ++
      "void test_b(void) const final \x7b\n void test_z();\n\x7d\nvoid test_w(int n)\x7b\x7d"
    let t : TypeDecl :=
      ⟨.structWord, "Foo", ["TestCase"], "a.h", 0, 1, ⟨0, 0⟩, ⟨0, 0⟩, ""⟩
    (∀ x ∈ "test_".toList, isWordChar x = true) ∧
    Text.join ['\n'] (members.map Member.text) = text.toList ∧
    harvest "test_" { t with body := String.ofList text.toList } =
      [⟨"Foo", "test_a"⟩, ⟨"Foo", "test_b"⟩] := by
  intro void unsignedInt declared inner number defined applied members text t
  have htext : Text.join ['\n'] (members.map Member.text) = text.toList := by decide +kernel
  have hletters : ∀ x ∈ "test_".toList, isWordChar x = true := by decide
  refine ⟨hletters, htext, ?_⟩
  rw [← htext, harvest_members "test_" hletters t members]
  decide +kernel

end HeaderSurvey
