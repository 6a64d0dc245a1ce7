import HeaderSurvey.Proofs.Declaration.ClassName
import HeaderSurvey.Proofs.Declaration.TypePieces
import HeaderSurvey.Proofs.Text.LowercaseWords
import HeaderSurvey.Proofs.Text.Replace
import HeaderSurvey.Proofs.Wrapper.Clash

/-!
# The parameter of the destroying function

The destroying function of a type takes a handle, and calls it as the type is called in lower case.
The parameter is read from the line that declares the function (`parameterOf?`); no other line of
the header has one (`filter_headerFile`).

A name of a type is an identifier, and so is the name in lower case (`exists_identifier_lowerName`).
But it may be a keyword where the name of the type is none: exactly if the name spells the keyword
with letters of any case (`lowerName_eq_iff`).  `parameters_usable` says so of the header for a
text, and `double_not_usable` has a type whose parameter is a keyword.
-/

namespace HeaderSurvey

/-! ### Names of types -/

/-- The name of a type is an identifier. -/
theorem SourceUnit.exists_identifier_of_mem_types {unit : SourceUnit} {mode : ParseMode}
    {d : Declarations} (h : unit.parse mode = .ok d) {t : TypeDecl} (ht : t ∈ d.types) :
    ∃ n : Identifier, n.text = t.name.toList := by
  obtain ⟨types, htypes, hkept⟩ := exists_types_of_parse h
  rw [hkept] at ht
  obtain ⟨bs, hbs, rfl⟩ := extractTypes_eq_ok_iff.mp htypes
  obtain ⟨b, hb, htype⟩ := List.mem_filterMap.mp (mem_of_mem_keepLast ht)
  have hreported := (Scanner.pairwise_of_blocks_eq_ok hbs).1 b hb
  obtain ⟨kw, blanks, name, tail, hpieces⟩ := exists_headPieces hreported.matchAt
  have hname := captured?_of_typeOfBlock? htype
  rw [hpieces.name_eq, Option.some.injEq] at hname
  obtain ⟨x, s, rfl, hx, hs⟩ := hpieces.name_ok
  exact ⟨⟨x, s, hx, hs⟩, hname⟩

/-- **The lower case of an identifier is an identifier.** -/
theorem Identifier.exists_lowercase (n : Identifier) :
    ∃ m : Identifier, m.text = Text.lowercase n.text := by
  have hascii : n.first.val < 128 := ascii_of_isNameChar (isNameChar_of_isNameStart n.first_ok)
  have hsigma : n.first ≠ 'Σ' := by
    intro h
    rw [h] at hascii
    exact absurd hascii (by decide)
  refine ⟨⟨n.first.toLower, Text.lowercaseFrom [n.first] n.others,
    isNameStart_toLower n.first_ok, Text.isWordChar_of_mem_lowercaseFrom n.others_ok⟩, ?_⟩
  show n.first.toLower :: _ = Text.lowercaseFrom [] (n.first :: n.others)
  rw [Text.lowercaseFrom, if_neg hsigma, Text.lowerChar, if_pos hascii, List.singleton_append]

namespace Wrapper

variable {settings : WrapperSettings} {types : List TypeDecl} {t : TypeDecl}

/-! ### Reading the parameter -/

/-- Whether a character belongs to the name of a parameter: neither a blank nor the parenthesis in
front of it. -/
def isParameterChar (x : Char) : Bool :=
  x ≠ ' ' && x ≠ '('

/-- The name of the last parameter in a line that declares a function, if it has one: what stands
between the last blank and the closing parenthesis, in front of a semicolon. -/
def parameterOf? (line : String) : Option String :=
  match Text.dropStart? [';', ')'] line.toList.reverse with
  | none => none
  | some front =>
    match front.takeWhile isParameterChar with
    | [] => none
    | x :: s => some (String.ofList (x :: s).reverse)

theorem parameterOf?_of_append {line : String} {front name : List Char} {x : Char}
    (hline : line.toList = front ++ x :: (name ++ [')', ';'])) (hx : isParameterChar x = false)
    (hname : ∀ y ∈ name, isParameterChar y = true) :
    parameterOf? line = if name = [] then none else some (String.ofList name) := by
  have hreverse : line.toList.reverse = [';', ')'] ++ (name.reverse ++ x :: front.reverse) := by
    rw [hline]
    simp
  have htake : (name.reverse ++ x :: front.reverse).takeWhile isParameterChar = name.reverse := by
    rw [List.takeWhile_append_of_pos fun y hy => hname y (List.mem_reverse.mp hy),
      List.takeWhile_cons_of_neg (by rw [hx]; exact Bool.false_ne_true), List.append_nil]
  rw [parameterOf?, hreverse, Text.dropStart?_append]
  dsimp only
  rw [htake]
  rcases hrev : name.reverse with _ | ⟨y, s⟩
  · rw [if_pos (List.reverse_eq_nil_iff.mp hrev)]
  · have hback : name = (y :: s).reverse := by
      rw [← hrev, List.reverse_reverse]
    have hne : name ≠ [] := by
      rintro rfl
      exact nomatch hrev
    rw [if_neg hne, hback]

/-- A line that ends otherwise declares no function. -/
theorem parameterOf?_of_not_endsWith {line : String} (h : ¬ EndsWith [')', ';'] line) :
    parameterOf? line = none := by
  rcases hdrop : Text.dropStart? [';', ')'] line.toList.reverse with _ | front
  · rw [parameterOf?, hdrop]
  · refine absurd ?_ h
    have hreverse := congrArg List.reverse (Text.eq_append_of_dropStart? hdrop)
    rw [List.reverse_reverse, List.reverse_append] at hreverse
    exact ⟨front.reverse, hreverse.symm⟩

/-- The creating function has no parameter. -/
theorem parameterOf?_createDeclaration : parameterOf? (createDeclaration settings t) = none := by
  have hline : (createDeclaration settings t).toList =
      ((Names.ofType settings t).handle ++ "* " ++ createName settings t).toList ++
        '(' :: ([] ++ [')', ';']) := by
    simp [createDeclaration]
  rw [parameterOf?_of_append hline (by decide) (by simp), if_pos rfl]

/-- The destroying function has a parameter that is called as the type is in lower case. -/
theorem parameterOf?_destroyDeclaration {n : Identifier} (hn : n.text = (lowerName t).toList) :
    parameterOf? (destroyDeclaration settings t) = some (lowerName t) := by
  have hline : (destroyDeclaration settings t).toList =
      ((Names.ofType settings t).handle ++ "* " ++ destroyName settings t ++ "(" ++
        (Names.ofType settings t).handle ++ "*").toList ++ ' ' :: (n.text ++ [')', ';']) := by
    rw [hn]
    simp [destroyDeclaration]
  have hchars : ∀ x ∈ n.text, isParameterChar x = true := by
    intro x hx
    rw [isParameterChar, Bool.and_eq_true]
    constructor
    · exact decide_eq_true fun h => n.notMem (by decide : isWordChar ' ' = false) (h ▸ hx)
    · exact decide_eq_true fun h => n.notMem (by decide : isWordChar '(' = false) (h ▸ hx)
  have hne : n.text ≠ [] := List.cons_ne_nil _ _
  rw [parameterOf?_of_append hline (by decide) hchars, if_neg hne, hn, String.ofList_toList]

/-- **The lines of the header with a parameter are those that declare the destroying functions**, one
for each type. -/
theorem filter_headerFile
    (hnames : ∀ t ∈ types, ∃ n : Identifier, n.text = (lowerName t).toList) :
    (headerFile settings types).filter (fun line => (parameterOf? line).isSome) =
      types.map (destroyDeclaration settings) := by
  have htop : headerTop.filter (fun line => (parameterOf? line).isSome) = [] := by decide
  have hbottom : headerBottom.filter (fun line => (parameterOf? line).isSome) = [] := by decide
  have hempty : parameterOf? "" = none := by decide
  rw [headerFile, List.filter_append, List.filter_append, htop, hbottom, List.append_nil,
    List.nil_append]
  -- of the five lines for a type only the fourth has a parameter
  induction types with
  | nil => rfl
  | cons t ts ih =>
    obtain ⟨⟨n, hn⟩, hrest⟩ := List.forall_mem_cons.mp hnames
    have hstruct := parameterOf?_of_not_endsWith (@struct_not_endsWith settings t)
    rw [List.flatMap_cons, List.filter_append, ih hrest, headerLines_eq, List.map_cons]
    simp only [List.filter_cons, List.filter_nil, hstruct, hempty, parameterOf?_createDeclaration,
      parameterOf?_destroyDeclaration hn, Option.isSome_none, Option.isSome_some, if_true,
      Bool.false_eq_true, if_false, List.singleton_append]

/-! ### Keywords -/

/-- The keywords of C++ and the words that stand for operators there. -/
def keywords : List String :=
  ["alignas", "alignof", "and", "and_eq", "asm", "auto", "bitand", "bitor", "bool", "break", "case",
    "catch", "char", "char8_t", "char16_t", "char32_t", "class", "co_await", "co_return",
    "co_yield", "compl", "concept", "const", "const_cast", "consteval", "constexpr", "constinit",
    "continue", "decltype", "default", "delete", "do", "double", "dynamic_cast", "else", "enum",
    "explicit", "export", "extern", "false", "float", "for", "friend", "goto", "if", "inline",
    "int", "long", "mutable", "namespace", "new", "noexcept", "not", "not_eq", "nullptr",
    "operator", "or", "or_eq", "private", "protected", "public", "register", "reinterpret_cast",
    "requires", "return", "short", "signed", "sizeof", "static", "static_assert", "static_cast",
    "struct", "switch", "template", "this", "thread_local", "throw", "true", "try", "typedef",
    "typeid", "typename", "union", "unsigned", "using", "virtual", "void", "volatile", "wchar_t",
    "while", "xor", "xor_eq"]

/-- A parameter can be called by the name: it is an identifier, and no keyword. -/
def IsUsable (name : String) : Prop :=
  (∃ n : Identifier, n.text = name.toList) ∧ name ∉ keywords

/-- What the name spells when the case of its letters is left out: capitals of ASCII count as small
letters, and the Kelvin sign as a k. -/
def spelling (name : String) : String :=
  String.ofList (name.toList.map smallLetter)

/-- **The parameter is a given word of ASCII exactly if the name of the type spells it.** -/
theorem lowerName_eq_iff {w : String} (hw : ∀ x ∈ w.toList, x.val < 128) (t : TypeDecl) :
    lowerName t = w ↔ spelling t.name = w := by
  rw [lowerName, spelling, ← String.toList_inj, ← String.toList_inj, String.toList_ofList,
    String.toList_ofList, Text.lowercase_eq_iff hw]

theorem ascii_of_mem_keywords : ∀ w ∈ keywords, ∀ x ∈ w.toList, x.val < 128 := by
  decide +kernel

theorem lowerName_mem_keywords_iff (t : TypeDecl) :
    lowerName t ∈ keywords ↔ spelling t.name ∈ keywords := by
  constructor
  · intro h
    rwa [(lowerName_eq_iff (ascii_of_mem_keywords _ h) t).mp rfl]
  · intro h
    rwa [(lowerName_eq_iff (ascii_of_mem_keywords _ h) t).mpr rfl]

theorem exists_identifier_lowerName (h : ∃ n : Identifier, n.text = t.name.toList) :
    ∃ n : Identifier, n.text = (lowerName t).toList := by
  obtain ⟨n, hn⟩ := h
  obtain ⟨m, hm⟩ := n.exists_lowercase
  exact ⟨m, by rw [hm, hn, lowerName, String.toList_ofList]⟩

/-- An identifier of ASCII stays one. -/
theorem isAsciiName_lowerName (h : IsAsciiName t.name.toList) :
    IsAsciiName (lowerName t).toList := by
  rw [lowerName, String.toList_ofList, Text.lowercase_of_isAsciiName h]
  exact h.map_toLower

/-! ### The header for a text -/

/-- **The parameters of the destroying functions.**  Whatever the text and the settings, the lines of
the header that declare a function with a parameter are those of the destroying functions, one for
each type, and the parameter is the name of the type in lower case.  It is an identifier, and one of
ASCII if the name is.  So it can be used unless it is a keyword, and it is one exactly if the name
of the type spells this keyword in whatever case. -/
theorem parameters_usable {unit : SourceUnit} {mode : ParseMode} {d : Declarations}
    (hparse : unit.parse mode = .ok d) (settings : WrapperSettings) :
    AreLines (headerFile settings d.types) (emitHeader settings d.types)
      ('\n' ∉ settings.symbolPrefix.toList) ∧
    (headerFile settings d.types).filter (fun line => (parameterOf? line).isSome) =
      d.types.map (destroyDeclaration settings) ∧
    ∀ t ∈ d.types, parameterOf? (destroyDeclaration settings t) = some (lowerName t) ∧
      (∃ n : Identifier, n.text = (lowerName t).toList) ∧
      (IsAsciiName t.name.toList → IsAsciiName (lowerName t).toList) ∧
      (∀ w ∈ keywords, lowerName t = w ↔ spelling t.name = w) ∧
      (IsUsable (lowerName t) ↔ spelling t.name ∉ keywords) := by
  have hnames : ∀ t ∈ d.types, ∃ n : Identifier, n.text = (lowerName t).toList :=
    fun t ht => exists_identifier_lowerName (SourceUnit.exists_identifier_of_mem_types hparse ht)
  have hnewline : ∀ t ∈ d.types, '\n' ∉ (lowerName t).toList := by
    intro t ht
    obtain ⟨n, hn⟩ := hnames t ht
    rw [← hn]
    exact n.notMem (by decide)
  refine ⟨⟨toList_emitHeader_eq settings d.types, fun hplain => ?_⟩, filter_headerFile hnames,
    fun t ht => ?_⟩
  · rw [toList_emitHeader_eq]
    exact splitBy_linesText (newline_notMem_headerFile hplain hnewline)
  · obtain ⟨n, hn⟩ := hnames t ht
    refine ⟨parameterOf?_destroyDeclaration hn, ⟨n, hn⟩, isAsciiName_lowerName,
      fun w hw => lowerName_eq_iff (ascii_of_mem_keywords w hw) t, ?_⟩
    rw [IsUsable, lowerName_mem_keywords_iff]
    exact ⟨fun h => h.2, fun h => ⟨⟨n, hn⟩, h⟩⟩

/-- Of two types one spells a keyword, with a Kelvin sign for the k. -/
theorem parameters_usable_kelvin :
    let unit : SourceUnit := ⟨"a.h", "class Widget \x7b \x7d;\nclass Brea\u212a \x7b \x7d;\n", 0⟩
    ∃ t u, unit.parse .typesAndRoutines = .ok ⟨[t, u], []⟩ ∧
      parameterOf? (destroyDeclaration {} t) = some "widget" ∧ IsUsable "widget" ∧
      parameterOf? (destroyDeclaration {} u) = some "break" ∧ ¬ IsUsable "break" := by
  intro unit
  let t : TypeDecl := ⟨.classWord, "Widget", [], "a.h", 0, 1, ⟨0, 16⟩, ⟨14, 15⟩, " "⟩
  let u : TypeDecl := ⟨.classWord, "Brea\u212a", [], "a.h", 0, 2, ⟨18, 35⟩, ⟨33, 34⟩, " "⟩
  have hparse : unit.parse .typesAndRoutines = .ok ⟨[t, u], []⟩ := by decide +kernel
  have hwidget : lowerName t = "widget" := by decide +kernel
  have hbreak : lowerName u = "break" := by decide +kernel
  obtain ⟨-, -, hall⟩ := parameters_usable hparse {}
  obtain ⟨hparameter, -, -, -, husable⟩ := hall t (by simp)
  obtain ⟨hparameter', -, -, -, husable'⟩ := hall u (by simp)
  rw [hwidget] at hparameter husable
  rw [hbreak] at hparameter' husable'
  exact ⟨t, u, hparse, hparameter, husable.mpr (by decide +kernel), hparameter',
    fun h => husable'.mp h (by decide +kernel)⟩

/-- **Where a parameter cannot be used.**  No keyword is spelled as the type is, but its name in
lower case is one, and the header declares a function with this parameter. -/
theorem double_not_usable :
    let unit : SourceUnit := ⟨"widget.h", "class Double \x7b\n\x7d;\n", 0⟩
    let line := "smlt_double_t* smlt_double_destroy(smlt_double_t* double);"
    ∃ d, unit.parse .typesAndRoutines = .ok d ∧ d.types.map TypeDecl.name = ["Double"] ∧
      "Double" ∉ keywords ∧
      line.toList ∈ Text.splitBy (· = '\n') (emitHeader {} d.types).toList ∧
      parameterOf? line = some "double" ∧ ¬ IsUsable "double" := by
  intro unit line
  let t : TypeDecl := ⟨.classWord, "Double", [], "widget.h", 0, 1, ⟨0, 16⟩, ⟨14, 15⟩, "\n"⟩
  have hparse : unit.parse .typesAndRoutines = .ok ⟨[t], []⟩ := by decide +kernel
  have hplain : ∀ l ∈ headerFile {} [t], '\n' ∉ l.toList := by decide +kernel
  have hline : line ∈ headerFile {} [t] := by decide +kernel
  have hkeyword : "double" ∈ keywords := by decide +kernel
  refine ⟨_, hparse, rfl, by decide +kernel, ?_, by decide +kernel, fun h => h.2 hkeyword⟩
  rw [toList_emitHeader_eq, splitBy_linesText hplain]
  exact List.mem_append_left _ (List.mem_map_of_mem hline)

end Wrapper
end HeaderSurvey
