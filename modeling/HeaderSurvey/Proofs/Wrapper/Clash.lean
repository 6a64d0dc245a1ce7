import HeaderSurvey.Proofs.Declaration.TypeName
import HeaderSurvey.Proofs.Text.Lowercase
import HeaderSurvey.Proofs.Wrapper.Lines
import Mathlib.Data.List.Nodup

/-!
# Which symbols clash

The functions of a wrapper are named after the type in lower case.  So two types have different
functions exactly if their names differ in lower case (`createName_eq_iff`), and types that differ
in the case of letters alone share them (`symbols_clash`).

The header of a file declares each function once for every type of its lower-case name, and the
source defines each creating function as often (`symbols_counted`): once exactly if no other type of
the file has this lower-case name.  What counts are whole lines, so nothing is assumed about the
symbol prefix.
-/

namespace HeaderSurvey.Wrapper

variable {settings : WrapperSettings} {types : List TypeDecl} {t u : TypeDecl} {path : String}

/-! ### Names -/

/-- The name of a type in lower case. -/
def lowerName (t : TypeDecl) : String :=
  String.ofList (Text.lowercase t.name.toList)

/-- The name of the creating function. -/
def createName (settings : WrapperSettings) (t : TypeDecl) : String :=
  (Names.ofType settings t).functionStem ++ "_create"

/-- The name of the destroying function. -/
def destroyName (settings : WrapperSettings) (t : TypeDecl) : String :=
  (Names.ofType settings t).functionStem ++ "_destroy"

theorem functionStem_eq (settings : WrapperSettings) (t : TypeDecl) :
    (Names.ofType settings t).functionStem = settings.symbolPrefix ++ lowerName t :=
  rfl

theorem functionStem_eq_iff : (Names.ofType settings t).functionStem =
    (Names.ofType settings u).functionStem ↔ lowerName t = lowerName u := by
  rw [functionStem_eq, functionStem_eq, String.append_right_inj]

theorem createName_eq_iff :
    createName settings t = createName settings u ↔ lowerName t = lowerName u := by
  rw [createName, createName, String.append_left_inj, functionStem_eq_iff]

theorem destroyName_eq_iff :
    destroyName settings t = destroyName settings u ↔ lowerName t = lowerName u := by
  rw [destroyName, destroyName, String.append_left_inj, functionStem_eq_iff]

/-- No function that creates has the name of one that destroys: the names end differently. -/
theorem createName_ne_destroyName : createName settings t ≠ destroyName settings u := by
  intro h
  have hlast := congrArg (fun s : String => s.toList.getLast?) h
  simp [createName, destroyName] at hlast

/-! ### Lines -/

/-- The line that declares the creating function. -/
def createDeclaration (settings : WrapperSettings) (t : TypeDecl) : String :=
  (Names.ofType settings t).handle ++ "* " ++ createName settings t ++ "();"

/-- The line that declares the destroying function. -/
def destroyDeclaration (settings : WrapperSettings) (t : TypeDecl) : String :=
  (Names.ofType settings t).handle ++ "* " ++ destroyName settings t ++ "(" ++
    (Names.ofType settings t).handle ++ "* " ++ lowerName t ++ ");"

/-- The line that begins the definition of the creating function. -/
def createDefinition (settings : WrapperSettings) (t : TypeDecl) : String :=
  (Names.ofType settings t).handle ++ "* " ++ createName settings t ++ "() \x7b"

/-- The lines of the header for the types of a file. -/
def headerFile (settings : WrapperSettings) (types : List TypeDecl) : List String :=
  headerTop ++ types.flatMap (headerLines settings) ++ headerBottom

/-- The lines of the source for the types of a file whose header is at the path. -/
def sourceFile (settings : WrapperSettings) (types : List TypeDecl) (path : String) :
    List String :=
  sourceTop settings path ++ types.flatMap (sourceLines settings)

theorem toList_emitHeader_eq (settings : WrapperSettings) (types : List TypeDecl) :
    (emitHeader settings types).toList = linesText (headerFile settings types) := by
  rw [toList_emitHeader, headerFile, linesText, linesText, linesText, List.flatMap_append,
    List.flatMap_append, List.flatMap_assoc]
  rfl

theorem toList_emitSource_eq (settings : WrapperSettings) (types : List TypeDecl) (path : String) :
    (emitSource settings types path).toList = linesText (sourceFile settings types path) := by
  rw [toList_emitSource, sourceFile, linesText, linesText, List.flatMap_append, List.flatMap_assoc]
  rfl

/-! ### How lines end

A declaration ends with a closing parenthesis and a semicolon, a definition with a brace.  No other
line does. -/

/-- The line ends with the given characters. -/
def EndsWith (ending : List Char) (line : String) : Prop :=
  ending <:+ line.toList

instance (ending : List Char) (line : String) : Decidable (EndsWith ending line) :=
  inferInstanceAs (Decidable (_ <:+ _))

/-- A text does not end in two ways. -/
theorem not_endsWith_append {ending other s : List Char} {line : String}
    (hline : line.toList = s ++ other) (hlength : ending.length = other.length)
    (hne : ending ≠ other) : ¬ EndsWith ending line := by
  rintro ⟨r, hr⟩
  rw [hline] at hr
  exact hne (List.append_inj' hr hlength).2

theorem toList_createDeclaration : (createDeclaration settings t).toList =
    (Names.ofType settings t).functionStem.toList ++ ("_t* ".toList ++
      ((Names.ofType settings t).functionStem.toList ++ "_create();".toList)) := by
  simp [createDeclaration, createName, Names.ofType]

theorem toList_destroyDeclaration : (destroyDeclaration settings t).toList =
    (Names.ofType settings t).functionStem.toList ++ ("_t* ".toList ++
      ((Names.ofType settings t).functionStem.toList ++ ("_destroy(".toList ++
        ((Names.ofType settings t).functionStem.toList ++ ("_t* ".toList ++
          ((lowerName t).toList ++ ");".toList)))))) := by
  simp [destroyDeclaration, destroyName, Names.ofType]

theorem toList_createDefinition : (createDefinition settings t).toList =
    (Names.ofType settings t).functionStem.toList ++ ("_t* ".toList ++
      ((Names.ofType settings t).functionStem.toList ++ "_create() \x7b".toList)) := by
  simp [createDefinition, createName, Names.ofType]

theorem headerLines_eq (settings : WrapperSettings) (t : TypeDecl) :
    headerLines settings t = ["struct " ++ (Names.ofType settings t).handle ++ ";", "",
      createDeclaration settings t, destroyDeclaration settings t, ""] := by
  have hcreate : (Names.ofType settings t).handle ++ "* " ++
      (Names.ofType settings t).functionStem ++ "_create();" = createDeclaration settings t := by
    rw [← String.toList_inj, toList_createDeclaration]
    simp [Names.ofType]
  have hdestroy : (Names.ofType settings t).handle ++ "* " ++
      (Names.ofType settings t).functionStem ++ "_destroy(" ++ (Names.ofType settings t).handle ++
        "* " ++ (Names.ofType settings t).parameter ++ ");" = destroyDeclaration settings t := by
    rw [← String.toList_inj, toList_destroyDeclaration]
    simp [Names.ofType, lowerName]
  rw [headerLines, hcreate, hdestroy]

theorem sourceLines_eq (settings : WrapperSettings) (t : TypeDecl) :
    sourceLines settings t = ["", createDefinition settings t,
      "    return new " ++ t.name ++ "();", "\x7d"] := by
  have hcreate : (Names.ofType settings t).handle ++ "* " ++
      (Names.ofType settings t).functionStem ++ "_create() \x7b" =
        createDefinition settings t := by
    rw [← String.toList_inj, toList_createDefinition]
    simp [Names.ofType]
  rw [sourceLines, hcreate]

theorem createDeclaration_endsWith : EndsWith [')', ';'] (createDeclaration settings t) := by
  rw [EndsWith, toList_createDeclaration]
  simp only [← List.append_assoc]
  exact (by decide : [')', ';'] <:+ "_create();".toList).trans (List.suffix_append _ _)

theorem destroyDeclaration_endsWith : EndsWith [')', ';'] (destroyDeclaration settings t) := by
  rw [EndsWith, toList_destroyDeclaration]
  simp only [← List.append_assoc]
  exact List.suffix_append _ _

theorem createDefinition_endsWith : EndsWith ['\x7b'] (createDefinition settings t) := by
  rw [EndsWith, toList_createDefinition]
  simp only [← List.append_assoc]
  exact (by decide : ['\x7b'] <:+ "_create() \x7b".toList).trans (List.suffix_append _ _)

theorem struct_not_endsWith :
    ¬ EndsWith [')', ';'] ("struct " ++ (Names.ofType settings t).handle ++ ";") := by
  have hline : ("struct " ++ (Names.ofType settings t).handle ++ ";").toList =
      ("struct " ++ (Names.ofType settings t).functionStem ++ "_").toList ++ ['t', ';'] := by
    simp [Names.ofType]
  exact not_endsWith_append hline rfl (by decide)

theorem return_not_endsWith : ¬ EndsWith ['\x7b'] ("    return new " ++ t.name ++ "();") := by
  have hline : ("    return new " ++ t.name ++ "();").toList =
      ("    return new " ++ t.name ++ "()").toList ++ [';'] := by
    simp
  exact not_endsWith_append hline rfl (by decide)

/-- What a text ends with stands in each of its endings but the empty one. -/
theorem mem_of_append_eq {r s t : List Char} {x : Char} (h : r ++ [x] = s ++ t) (ht : t ≠ []) :
    x ∈ t := by
  rcases List.eq_nil_or_concat t with rfl | ⟨t, y, rfl⟩
  · exact absurd rfl ht
  · rw [List.concat_eq_append, ← List.append_assoc] at h
    rw [(List.cons.inj (List.append_inj' h rfl).2).1]
    simp

/-- Behind the opening parenthesis of a declaration that creates stands nothing but the closing one;
the one that destroys has its parameter there. -/
theorem createDeclaration_ne_destroyDeclaration (hu : '(' ∉ (lowerName u).toList) :
    createDeclaration settings t ≠ destroyDeclaration settings u := by
  intro h
  have hcreate : (createDeclaration settings t).toList =
      ((Names.ofType settings t).handle ++ "* " ++ createName settings t).toList ++ ['('] ++
        [')', ';'] := by
    simp [createDeclaration]
  have hdestroy : (destroyDeclaration settings u).toList =
      ((Names.ofType settings u).handle ++ "* " ++ destroyName settings u ++ "(" ++
        (Names.ofType settings u).handle ++ "*").toList ++ ' ' :: (lowerName u).toList ++
          [')', ';'] := by
    simp [destroyDeclaration]
  rw [h, hdestroy] at hcreate
  have hmem := mem_of_append_eq (List.append_cancel_right hcreate).symm (List.cons_ne_nil _ _)
  rcases List.mem_cons.mp hmem with hblank | hmem
  · exact absurd hblank (by decide)
  · exact hu hmem

/-! ### Which lines are the same -/

/-- All names of a wrapper come from the lower-case name. -/
theorem ofType_eq_of_lowerName (h : lowerName t = lowerName u) :
    Names.ofType settings t = Names.ofType settings u := by
  have hnames : ∀ v, Names.ofType settings v = ⟨settings.symbolPrefix ++ lowerName v ++ "_t",
      settings.symbolPrefix ++ lowerName v, lowerName v⟩ := fun v => rfl
  rw [hnames, hnames, h]

theorem length_functionStem : (Names.ofType settings t).functionStem.toList.length =
    settings.symbolPrefix.toList.length + (lowerName t).toList.length := by
  rw [functionStem_eq, String.toList_append, List.length_append]

/-- A line that begins with the stem and has a length from which that of the stem can be told
determines the lower-case name. -/
theorem lowerName_eq_of_append {r s : List Char}
    (h : (Names.ofType settings t).functionStem.toList ++ r =
      (Names.ofType settings u).functionStem.toList ++ s)
    (hlength : (Names.ofType settings t).functionStem.toList.length =
      (Names.ofType settings u).functionStem.toList.length) : lowerName t = lowerName u :=
  functionStem_eq_iff.mp (String.toList_inj.mp (List.append_inj_left h hlength))

theorem createDeclaration_eq_iff :
    createDeclaration settings t = createDeclaration settings u ↔ lowerName t = lowerName u := by
  constructor
  · intro h
    have hlist := congrArg String.toList h
    rw [toList_createDeclaration, toList_createDeclaration] at hlist
    refine lowerName_eq_of_append hlist ?_
    have hlength := congrArg List.length hlist
    simp only [List.length_append] at hlength
    omega
  · intro h
    rw [createDeclaration, createDeclaration, createName, createName, ofType_eq_of_lowerName h]

theorem destroyDeclaration_eq_iff :
    destroyDeclaration settings t = destroyDeclaration settings u ↔
      lowerName t = lowerName u := by
  constructor
  · intro h
    have hlist := congrArg String.toList h
    rw [toList_destroyDeclaration, toList_destroyDeclaration] at hlist
    refine lowerName_eq_of_append hlist ?_
    have hlength := congrArg List.length hlist
    simp only [List.length_append, length_functionStem] at hlength ⊢
    omega
  · intro h
    rw [destroyDeclaration, destroyDeclaration, destroyName, destroyName,
      ofType_eq_of_lowerName h, h]

theorem createDefinition_eq_iff :
    createDefinition settings t = createDefinition settings u ↔ lowerName t = lowerName u := by
  constructor
  · intro h
    have hlist := congrArg String.toList h
    rw [toList_createDefinition, toList_createDefinition] at hlist
    refine lowerName_eq_of_append hlist ?_
    have hlength := congrArg List.length hlist
    simp only [List.length_append] at hlength
    omega
  · intro h
    rw [createDefinition, createDefinition, createName, createName, ofType_eq_of_lowerName h]

/-! ### How often a line stands in a file -/

/-- How many types have the lower-case name of the type. -/
def namesakes (types : List TypeDecl) (t : TypeDecl) : Nat :=
  types.countP fun u => lowerName u = lowerName t

/-- A line that stands once among the lines of each type with one lower-case name, and nowhere else,
stands in the file once for each of these types. -/
theorem count_flatMap_of {lines : TypeDecl → List String} {line : String}
    (h : ∀ u ∈ types, (lines u).count line = if lowerName u = lowerName t then 1 else 0) :
    (types.flatMap lines).count line = namesakes types t := by
  induction types with
  | nil => rfl
  | cons u types ih =>
    obtain ⟨hu, htypes⟩ := List.forall_mem_cons.mp h
    rw [List.flatMap_cons, List.count_append, hu, ih htypes, namesakes, namesakes,
      List.countP_cons]
    simp only [decide_eq_true_eq]
    omega

theorem count_eq_zero_of_endsWith {ending : List Char} {line : String} {lines : List String}
    (hline : EndsWith ending line) (hlines : ∀ l ∈ lines, ¬ EndsWith ending l) :
    lines.count line = 0 :=
  List.count_eq_zero.mpr fun hmem => hlines line hmem hline

theorem count_headerFile {line : String} (hline : EndsWith [')', ';'] line)
    (h : ∀ u ∈ types, (headerLines settings u).count line =
      if lowerName u = lowerName t then 1 else 0) :
    (headerFile settings types).count line = namesakes types t := by
  rw [headerFile, List.count_append, List.count_append, count_flatMap_of h,
    count_eq_zero_of_endsWith hline (by decide), count_eq_zero_of_endsWith hline (by decide)]
  omega

theorem count_createDeclaration (hu : '(' ∉ (lowerName u).toList) :
    (headerLines settings u).count (createDeclaration settings t) =
      if lowerName u = lowerName t then 1 else 0 := by
  have hstruct : "struct " ++ (Names.ofType settings u).handle ++ ";" ≠
      createDeclaration settings t := fun h =>
    struct_not_endsWith (h ▸ createDeclaration_endsWith)
  have hempty : "" ≠ createDeclaration settings t := fun h =>
    (by decide : ¬ EndsWith [')', ';'] "") (h ▸ createDeclaration_endsWith)
  have hdestroy : destroyDeclaration settings u ≠ createDeclaration settings t :=
    (createDeclaration_ne_destroyDeclaration hu).symm
  rw [headerLines_eq, List.count_cons_of_ne hstruct, List.count_cons_of_ne hempty, List.count_cons,
    List.count_cons_of_ne hdestroy, List.count_cons_of_ne hempty, List.count_nil]
  simp only [beq_iff_eq, createDeclaration_eq_iff, Nat.zero_add]

theorem count_destroyDeclaration (ht : '(' ∉ (lowerName t).toList) :
    (headerLines settings u).count (destroyDeclaration settings t) =
      if lowerName u = lowerName t then 1 else 0 := by
  have hstruct : "struct " ++ (Names.ofType settings u).handle ++ ";" ≠
      destroyDeclaration settings t := fun h =>
    struct_not_endsWith (h ▸ destroyDeclaration_endsWith)
  have hempty : "" ≠ destroyDeclaration settings t := fun h =>
    (by decide : ¬ EndsWith [')', ';'] "") (h ▸ destroyDeclaration_endsWith)
  have hcreate : createDeclaration settings u ≠ destroyDeclaration settings t :=
    createDeclaration_ne_destroyDeclaration ht
  rw [headerLines_eq, List.count_cons_of_ne hstruct, List.count_cons_of_ne hempty,
    List.count_cons_of_ne hcreate, List.count_cons, List.count_cons_of_ne hempty, List.count_nil]
  simp only [beq_iff_eq, destroyDeclaration_eq_iff, Nat.zero_add]

theorem count_createDefinition : (sourceLines settings u).count (createDefinition settings t) =
    if lowerName u = lowerName t then 1 else 0 := by
  have hother : ∀ l, ¬ EndsWith ['\x7b'] l → l ≠ createDefinition settings t :=
    fun l hl h => hl (h ▸ createDefinition_endsWith)
  rw [sourceLines_eq, List.count_cons_of_ne (hother _ (by decide)), List.count_cons,
    List.count_cons_of_ne (hother _ return_not_endsWith),
    List.count_cons_of_ne (hother _ (by decide)), List.count_nil]
  simp only [beq_iff_eq, createDefinition_eq_iff, Nat.zero_add]

theorem count_sourceFile : (sourceFile settings types path).count (createDefinition settings t) =
    namesakes types t := by
  have htop : ∀ l ∈ sourceTop settings path, ¬ EndsWith ['\x7b'] l := by
    intro l hl
    rw [sourceTop, List.mem_cons, List.mem_singleton] at hl
    rcases hl with rfl | rfl
    · exact not_endsWith_append ((String.toList_append ..).trans rfl) rfl
        (by decide : ['\x7b'] ≠ ['>'])
    · exact not_endsWith_append ((String.toList_append ..).trans rfl) rfl
        (by decide : ['\x7b'] ≠ ['"'])
  rw [sourceFile, List.count_append, count_eq_zero_of_endsWith createDefinition_endsWith htop,
    count_flatMap_of fun u _ => count_createDefinition, Nat.zero_add]

/-- Among types with different names the type is the only one of its lower-case name exactly if no
other name is the same in lower case. -/
theorem namesakes_eq_one_iff (hnodup : (types.map TypeDecl.name).Nodup) (ht : t ∈ types) :
    namesakes types t = 1 ↔ ∀ u ∈ types, u.name ≠ t.name → lowerName u ≠ lowerName t := by
  obtain ⟨front, back, rfl⟩ := List.append_of_mem ht
  have hother : ∀ u ∈ front ++ back, u.name ≠ t.name := by
    rw [List.map_append, List.map_cons, List.nodup_middle, List.nodup_cons, ← List.map_append]
      at hnodup
    intro u hu heq
    exact hnodup.1 (heq ▸ List.mem_map_of_mem hu)
  have hsplit : namesakes (front ++ t :: back) t = namesakes (front ++ back) t + 1 := by
    rw [namesakes, namesakes, List.countP_append, List.countP_append, List.countP_cons,
      if_pos (decide_eq_true rfl), Nat.add_assoc]
  rw [hsplit, Nat.add_eq_right, namesakes, List.countP_eq_zero]
  constructor
  · intro hnone u hu hne heq
    have hmem : u ∈ front ++ back := by
      rcases List.mem_append.mp hu with hu | hu
      · exact List.mem_append_left _ hu
      · rcases List.mem_cons.mp hu with rfl | hu
        · exact absurd rfl hne
        · exact List.mem_append_right _ hu
    exact hnone u hmem (decide_eq_true heq)
  · intro hall u hu heq
    have hmem : u ∈ front ++ t :: back := by
      rcases List.mem_append.mp hu with hu | hu
      · exact List.mem_append_left _ hu
      · exact List.mem_append_right _ (List.mem_cons_of_mem t hu)
    exact hall u hmem (hother u hu) (of_decide_eq_true heq)

/-! ### The lines of a text -/

/-- Lines without newlines are found again between the newlines of their text. -/
theorem splitBy_linesText {lines : List String} (h : ∀ l ∈ lines, '\n' ∉ l.toList) :
    Text.splitBy (· = '\n') (linesText lines) = lines.map String.toList ++ [[]] := by
  induction lines with
  | nil => rfl
  | cons l lines ih =>
    obtain ⟨hl, hlines⟩ := List.forall_mem_cons.mp h
    have hline : ∀ x ∈ l.toList, decide (x = '\n') = false := by
      intro x hx
      exact decide_eq_false fun heq => hl (heq ▸ hx)
    have hcons : linesText (l :: lines) = l.toList ++ '\n' :: linesText lines := by
      rw [linesText, List.flatMap_cons, List.append_assoc]
      rfl
    rw [hcons, Text.splitBy_append_cons (decide_eq_true rfl), Text.splitBy_of_forall hline,
      ih hlines]
    rfl

theorem notMem_lowerName {x : Char} (hascii : x.val < 128) (hlower : x.isLower = false)
    (hword : isWordChar x = false) (ht : ∀ y ∈ t.name.toList, isWordChar y = true) :
    x ∉ (lowerName t).toList := by
  intro h
  rw [lowerName, String.toList_ofList] at h
  rw [ht x (Text.mem_of_mem_lowercase hascii hlower h)] at hword
  exact absurd hword (by decide)

theorem newline_notMem_headerFile (hsymbol : '\n' ∉ settings.symbolPrefix.toList)
    (hnames : ∀ t ∈ types, '\n' ∉ (lowerName t).toList) :
    ∀ l ∈ headerFile settings types, '\n' ∉ l.toList := by
  have hstem : ∀ t ∈ types, '\n' ∉ (Names.ofType settings t).functionStem.toList := by
    intro t ht
    rw [functionStem_eq, String.toList_append, List.mem_append, not_or]
    exact ⟨hsymbol, hnames t ht⟩
  intro l hl
  rw [headerFile, List.mem_append, List.mem_append, List.mem_flatMap] at hl
  rcases hl with (hl | ⟨t, ht, hl⟩) | hl
  · exact (by decide : ∀ l ∈ headerTop, '\n' ∉ l.toList) l hl
  · have hs := hstem t ht
    have hn := hnames t ht
    rw [headerLines_eq] at hl
    simp only [List.mem_cons, List.not_mem_nil, or_false] at hl
    rcases hl with rfl | rfl | rfl | rfl | rfl
    · simpa [Names.ofType] using hs
    · simp
    · rw [toList_createDeclaration]
      simp [hs]
    · rw [toList_destroyDeclaration]
      simp [hs, hn]
    · simp
  · exact (by decide : ∀ l ∈ headerBottom, '\n' ∉ l.toList) l hl

theorem newline_notMem_sourceFile (hsymbol : '\n' ∉ settings.symbolPrefix.toList)
    (humbrella : '\n' ∉ settings.umbrellaHeader.toList) (hpath : '\n' ∉ path.toList)
    (hnames : ∀ t ∈ types, '\n' ∉ t.name.toList ∧ '\n' ∉ (lowerName t).toList) :
    ∀ l ∈ sourceFile settings types path, '\n' ∉ l.toList := by
  intro l hl
  rw [sourceFile, List.mem_append, List.mem_flatMap] at hl
  rcases hl with hl | ⟨t, ht, hl⟩
  · rw [sourceTop, List.mem_cons, List.mem_singleton] at hl
    rcases hl with rfl | rfl
    · simp [humbrella]
    · -- the path has slashes put in, and nothing else
      have hslashes : '\n' ∉ Text.replaceChar '\\' '/' path.toList := by
        rw [Text.replaceChar, List.mem_map]
        rintro ⟨x, hx, heq⟩
        split_ifs at heq
        · exact absurd heq (by decide)
        · exact hpath (heq ▸ hx)
      simp [hslashes]
  · obtain ⟨hname, hlower⟩ := hnames t ht
    have hs : '\n' ∉ (Names.ofType settings t).functionStem.toList := by
      rw [functionStem_eq, String.toList_append, List.mem_append, not_or]
      exact ⟨hsymbol, hlower⟩
    rw [sourceLines_eq] at hl
    simp only [List.mem_cons, List.not_mem_nil, or_false] at hl
    rcases hl with rfl | rfl | rfl | rfl
    · simp
    · rw [toList_createDefinition]
      simp [hs]
    · simp [hname]
    · simp

/-! ### The functions of the types of a text -/

/-- The functions of the type are declared so many times in the header for some types, and the
creating one is defined so many times in the source. -/
structure Occur (settings : WrapperSettings) (types : List TypeDecl) (path : String)
    (t : TypeDecl) (n : Nat) : Prop where
  createDeclared : (headerFile settings types).count (createDeclaration settings t) = n
  destroyDeclared : (headerFile settings types).count (destroyDeclaration settings t) = n
  createDefined : (sourceFile settings types path).count (createDefinition settings t) = n

/-- The lines are those of the text: each has a newline behind it, and they are what stands between
the newlines if there is no other newline in what they are made of. -/
structure AreLines (lines : List String) (text : String) (plain : Prop) : Prop where
  toList_eq : text.toList = linesText lines
  split : plain → Text.splitBy (· = '\n') text.toList = lines.map String.toList ++ [[]]

/-- **The functions of two types are the same exactly if the names of the types are the same in
lower case.**  Whatever the text and the settings, the functions of a type are declared and defined
once for each type of the text with its lower-case name: exactly once if and only if no other name
in the text is the same in lower case. -/
theorem symbols_counted {unit : SourceUnit} {mode : ParseMode} {d : Declarations}
    (hparse : unit.parse mode = .ok d) (settings : WrapperSettings) (path : String) :
    (∀ t ∈ d.types, ∀ u ∈ d.types,
      (createName settings t = createName settings u ↔ lowerName t = lowerName u) ∧
      (destroyName settings t = destroyName settings u ↔ lowerName t = lowerName u) ∧
      createName settings t ≠ destroyName settings u) ∧
    (∀ t ∈ d.types, Occur settings d.types path t (namesakes d.types t) ∧
      (namesakes d.types t = 1 ↔
        ∀ u ∈ d.types, u.name ≠ t.name → lowerName u ≠ lowerName t)) ∧
    AreLines (headerFile settings d.types) (emitHeader settings d.types)
      ('\n' ∉ settings.symbolPrefix.toList) ∧
    AreLines (sourceFile settings d.types path) (emitSource settings d.types path)
      ('\n' ∉ settings.symbolPrefix.toList ∧ '\n' ∉ settings.umbrellaHeader.toList ∧
        '\n' ∉ path.toList) := by
  have hwords : ∀ t ∈ d.types, ∀ x ∈ t.name.toList, isWordChar x = true :=
    fun t ht => SourceUnit.isWordChar_of_mem_types hparse ht
  have hparen : ∀ t ∈ d.types, '(' ∉ (lowerName t).toList := fun t ht =>
    notMem_lowerName (by decide) (by decide) (by decide) (hwords t ht)
  have hnewline : ∀ t ∈ d.types, '\n' ∉ (lowerName t).toList := fun t ht =>
    notMem_lowerName (by decide) (by decide) (by decide) (hwords t ht)
  refine ⟨?_, ?_, ?_, ?_⟩
  · intro t _ u _
    exact ⟨createName_eq_iff, destroyName_eq_iff, createName_ne_destroyName⟩
  · intro t ht
    refine ⟨⟨?_, ?_, count_sourceFile⟩,
      namesakes_eq_one_iff (SourceUnit.nodup_names hparse) ht⟩
    · exact count_headerFile createDeclaration_endsWith fun u hu =>
        count_createDeclaration (hparen u hu)
    · exact count_headerFile destroyDeclaration_endsWith fun u _ =>
        count_destroyDeclaration (hparen t ht)
  · refine ⟨toList_emitHeader_eq settings d.types, fun hplain => ?_⟩
    rw [toList_emitHeader_eq]
    exact splitBy_linesText (newline_notMem_headerFile hplain hnewline)
  · refine ⟨toList_emitSource_eq settings d.types path, ?_⟩
    rintro ⟨hsymbol, humbrella, hpath⟩
    have hnames : ∀ t ∈ d.types, '\n' ∉ t.name.toList ∧ '\n' ∉ (lowerName t).toList := by
      intro t ht
      refine ⟨fun hmem => ?_, hnewline t ht⟩
      exact absurd (hwords t ht _ hmem) (by decide)
    rw [toList_emitSource_eq]
    exact splitBy_linesText (newline_notMem_sourceFile hsymbol humbrella hpath hnames)

/-- Of three types two are the same in lower case. -/
theorem symbols_counted_mixed :
    let unit : SourceUnit :=
      ⟨"a.h", "class Foo \x7b \x7d;\nclass Bar \x7b \x7d;\nclass FOO \x7b \x7d;\n", 0⟩
    ∃ d, unit.parse .typesAndRoutines = .ok d ∧ d.types.map TypeDecl.name = ["Foo", "Bar", "FOO"] ∧
      d.types.map (namesakes d.types) = [2, 1, 2] ∧
      ∀ t ∈ d.types, Occur {} d.types "a.h" t (namesakes d.types t) := by
  intro unit
  have hread : (unit.parse .typesAndRoutines).toOption.map
      (fun d => (d.types.map TypeDecl.name, d.types.map (namesakes d.types))) =
        some (["Foo", "Bar", "FOO"], [2, 1, 2]) := by
    decide +kernel
  rcases hparse : unit.parse .typesAndRoutines with e | d
  · rw [hparse] at hread
    cases hread
  · rw [hparse] at hread
    obtain ⟨hnames, hcounts⟩ := Prod.mk.inj (Option.some.inj hread)
    have hcounted := symbols_counted hparse {} "a.h"
    exact ⟨d, rfl, hnames, hcounts, fun t ht => (hcounted.2.1 t ht).1⟩

/-- **Where symbols clash.**  Two types whose names differ in the case of their letters alone have
the same functions: each is declared twice, and the creating one is defined twice. -/
theorem symbols_clash :
    let unit : SourceUnit := ⟨"widget.h", "class Foo \x7b \x7d;\nclass FOO \x7b \x7d;\n", 0⟩
    ∃ d, unit.parse .typesAndRoutines = .ok d ∧ ∃ t ∈ d.types, ∃ u ∈ d.types, t.name ≠ u.name ∧
      createName {} t = createName {} u ∧ destroyName {} t = destroyName {} u ∧
      (headerFile {} d.types).count "smlt_foo_t* smlt_foo_create();" = 2 ∧
      (headerFile {} d.types).count "smlt_foo_t* smlt_foo_destroy(smlt_foo_t* foo);" = 2 ∧
      (sourceFile {} d.types "widget.h").count "smlt_foo_t* smlt_foo_create() \x7b" = 2 := by
  intro unit
  let first : TypeDecl := ⟨.classWord, "Foo", [], "widget.h", 0, 1, ⟨0, 13⟩, ⟨11, 12⟩, " "⟩
  let second : TypeDecl := ⟨.classWord, "FOO", [], "widget.h", 0, 2, ⟨15, 28⟩, ⟨26, 27⟩, " "⟩
  have hparse : unit.parse .typesAndRoutines = .ok ⟨[first, second], []⟩ := by decide +kernel
  exact ⟨_, hparse, first, by simp, second, by simp, by decide +kernel⟩

end HeaderSurvey.Wrapper
