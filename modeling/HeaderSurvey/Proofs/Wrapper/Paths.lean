import HeaderSurvey.Proofs.Disk.Depth
import HeaderSurvey.Wrapper.Tree

/-!
# The paths of headers and of their wrappers

An entry of the walk is known by the names that lead to it from the source directory.  The names of
a header end in `stem.old`, and its wrapper goes to the same names with `stem.h` and `stem.cpp` at
the end (`renamed`), below the destination (`headerPath_eq`, `sourcePath_eq`).  A stem of one dot is
an exception: the path of its wrapper ends in two dots, where no file can be put
(`place_eq_none_of_dots`).
-/

namespace HeaderSurvey.Wrapper

/-- The path of the entry to which the names lead from the source directory. -/
def entryPath (src : String) (names : List String) : String :=
  names.foldl (fun path name => String.ofList (Path.join path.toList name.toList)) src

/-- Whether the name of the file to which the names lead has the extension of a header behind its
last dot, and something in front of it. -/
def HasHeaderExtension (settings : WrapperSettings) (names : List String) : Prop :=
  ∃ dir stem old, names = dir ++ [stem ++ "." ++ old] ∧ stem ≠ "" ∧ '.' ∉ old.toList ∧
    old ∈ settings.headerExtensions

/-- The names with another extension at the end. -/
def renamed (names : List String) (extension : String) : List String :=
  match names.getLast? with
  | none => []
  | some name => names.dropLast ++
      [String.ofList (Path.splitName name.toList).1 ++ "." ++ extension]

/-- The path below the destination to which the names lead with another extension. -/
def outputPath (dest : String) (names : List String) (extension : String) : String :=
  String.ofList (Path.join dest.toList ("/".intercalate (renamed names extension)).toList)

variable {settings : WrapperSettings} {d : Disk} {src dest stem old : String}
  {names dir : List String} {root : Location}

/-! ### Entries -/

theorem entryPath_append_singleton (src : String) (names : List String) (name : String) :
    entryPath src (names ++ [name]) =
      String.ofList (Path.join (entryPath src names).toList name.toList) := by
  rw [entryPath, entryPath, List.foldl_append]
  rfl

/-- The path of an entry leads to it. -/
theorem locate_entryPath (hd : d.WellFormed) (hsrc : d.locate src.toList = .ok root)
    {n : Node} (hn : d.node? (root ++ names) = some n) :
    d.locate (entryPath src names).toList = .ok (root ++ names) := by
  induction names using List.reverseRecOn generalizing n with
  | nil => simpa [entryPath] using hsrc
  | append_singleton names name ih =>
    rw [← List.append_assoc] at hn
    have hdir := hd.isDir_of_prefix (List.cons_ne_nil name []) hn
    have hname : IsNodeName name := hd.isNodeName hn (by simp)
    rw [entryPath_append_singleton, String.toList_ofList, ← List.append_assoc]
    exact Disk.locate_join (ih hdir) hdir hname

theorem toList_dotted (stem extension : String) :
    (stem ++ "." ++ extension).toList = stem.toList ++ '.' :: extension.toList := by
  rw [String.toList_append, String.toList_append, List.append_assoc]
  rfl

/-- The files that the walk takes for headers are those with the extension of a header. -/
theorem isHeader_entryPath (hnames : ∀ name ∈ names, IsNodeName name) (hne : names ≠ []) :
    isHeader settings (entryPath src names) = true ↔ HasHeaderExtension settings names := by
  obtain ⟨dir, name, rfl⟩ := (List.eq_nil_or_concat names).resolve_left hne
  rw [List.concat_eq_append] at hnames ⊢
  have hname : IsNodeName name := hnames name (by simp)
  obtain ⟨front, hfront, hjoin⟩ := Path.exists_join_eq (entryPath src dir).toList
  rw [isHeader, entryPath_append_singleton, String.toList_ofList, hjoin _ hname.isAbsolute,
    Path.extension?_append hfront hname.isPiece]
  constructor
  · intro h
    cases hsplit : (Path.splitName name.toList).2 with
    | none => simp [hsplit] at h
    | some old =>
      obtain ⟨stem, hstem, hne, hold⟩ := Path.eq_of_splitName hsplit
      simp only [hsplit] at h
      refine ⟨dir, String.ofList stem, String.ofList old, ?_, ?_, ?_, ?_⟩
      · congr 2
        rw [← String.toList_inj, toList_dotted, String.toList_ofList, String.toList_ofList, hstem]
      · intro hempty
        exact hne (by simpa using congrArg String.toList hempty)
      · rwa [String.toList_ofList]
      · simpa using h
  · rintro ⟨dir', stem, old, heq, hstem, hold, hmem⟩
    obtain ⟨rfl, hlast⟩ := List.append_inj' heq rfl
    have hstem' : stem.toList ≠ [] := fun hnil => hstem (String.toList_inj.mp hnil)
    rw [(List.cons.inj hlast).1, toList_dotted, Path.splitName_append hstem' hold]
    simpa using hmem

/-! ### Wrappers -/

theorem renamed_append (dir : List String) (hstem : stem ≠ "") (hold : '.' ∉ old.toList)
    (extension : String) :
    renamed (dir ++ [stem ++ "." ++ old]) extension = dir ++ [stem ++ "." ++ extension] := by
  have hstem' : stem.toList ≠ [] := fun hnil => hstem (String.toList_inj.mp hnil)
  rw [renamed, List.getLast?_concat]
  simp only [List.dropLast_concat]
  rw [toList_dotted, Path.splitName_append hstem' hold, String.ofList_toList]

/-- An extension that makes a name of any stem: something in it is not a dot, and nothing is a
slash. -/
structure IsExtension (extension : String) : Prop where
  not_dots : ∃ x ∈ extension.toList, x ≠ '.'
  no_slash : '/' ∉ extension.toList

theorem isExtension_h : IsExtension "h" :=
  ⟨⟨'h', by decide, by decide⟩, by decide⟩

theorem isExtension_cpp : IsExtension "cpp" :=
  ⟨⟨'c', by decide, by decide⟩, by decide⟩

/-- A name with another extension is a name. -/
theorem IsExtension.isNodeName_dotted {extension : String} (hextension : IsExtension extension)
    (hname : IsNodeName (stem ++ "." ++ old)) : IsNodeName (stem ++ "." ++ extension) := by
  obtain ⟨x, hx, hdot⟩ := hextension.not_dots
  have hpiece := hname.isPiece
  rw [toList_dotted] at hpiece
  have hmem : x ∈ (stem ++ "." ++ extension).toList := by
    rw [toList_dotted]
    exact List.mem_append_right _ (List.mem_cons_of_mem _ hx)
  have hfree : '/' ∉ (stem ++ "." ++ extension).toList := by
    rw [toList_dotted, List.mem_append, List.mem_cons]
    rintro (h | h | h)
    · exact hpiece.no_slash (List.mem_append_left _ h)
    · exact absurd h (by decide)
    · exact hextension.no_slash h
  have hdotted := Path.isPiece_of_mem hmem hdot hfree
  have hnode := isNodeName_ofList hdotted.not_idle hdotted.not_dots hdotted.no_slash
  rwa [String.ofList_toList] at hnode

/-- A path below the destination is put together in front of its last name. -/
theorem exists_join_names (dest : List Char) (hdir : ∀ name ∈ dir, IsNodeName name) :
    ∃ front, Path.IsFront front ∧ ∀ last, IsNodeName last →
      Path.join dest ("/".intercalate (dir ++ [last])).toList = front ++ last.toList := by
  obtain ⟨front, hfront, hjoin⟩ := Path.exists_join_eq dest
  have hnames : ∀ last, IsNodeName last → ∀ name ∈ dir ++ [last], IsNodeName name := by
    intro last hlast name hname
    rcases List.mem_append.mp hname with hname | hname
    · exact hdir name hname
    · rw [List.mem_singleton.mp hname]
      exact hlast
  by_cases hnil : dir = []
  · refine ⟨front, hfront, fun last hlast => ?_⟩
    rw [hjoin _ (isAbsolute_names (hnames last hlast) (by simp)), hnil, List.nil_append,
      toList_intercalate_slash]
    rfl
  · refine ⟨front ++ Text.join ['/'] (dir.map (·.toList)) ++ ['/'], Or.inr ⟨_, rfl⟩,
      fun last hlast => ?_⟩
    have hne : dir.map (·.toList) ≠ [] := by simpa using hnil
    rw [hjoin _ (isAbsolute_names (hnames last hlast) (by simp)), toList_intercalate_slash,
      List.map_append, List.map_singleton, Text.join_append_singleton hne]
    simp only [List.append_assoc]

/-- The wrapper of a header goes to the place of the header with the extensions of a wrapper. -/
theorem headerPath_eq (hdir : ∀ name ∈ dir, IsNodeName name)
    (hname : IsNodeName (stem ++ "." ++ old)) (hstem : stem ≠ "") (hdot : stem ≠ ".")
    (hold : '.' ∉ old.toList) :
    headerPath dest ("/".intercalate (dir ++ [stem ++ "." ++ old])) =
        outputPath dest (dir ++ [stem ++ "." ++ old]) "h" ∧
      sourcePath (headerPath dest ("/".intercalate (dir ++ [stem ++ "." ++ old]))) =
        outputPath dest (dir ++ [stem ++ "." ++ old]) "cpp" := by
  have hstem' : stem.toList ≠ [] := fun hnil => hstem (String.toList_inj.mp hnil)
  have hdot' : stem.toList ≠ ['.'] := fun heq =>
    hdot (String.toList_inj.mp (heq.trans (rfl : ['.'] = ".".toList)))
  have hheader : IsNodeName (stem ++ "." ++ "h") := isExtension_h.isNodeName_dotted hname
  have hsource : IsNodeName (stem ++ "." ++ "cpp") := isExtension_cpp.isNodeName_dotted hname
  obtain ⟨front, hfront, hjoin⟩ := exists_join_names dest.toList hdir
  have hpiece : ∀ extension : String, IsNodeName (stem ++ "." ++ extension) →
      IsPiece (stem.toList ++ '.' :: extension.toList) := by
    intro extension h
    rw [← toList_dotted]
    exact h.isPiece
  have hheaderPath : headerPath dest ("/".intercalate (dir ++ [stem ++ "." ++ old])) =
      String.ofList (front ++ (stem.toList ++ '.' :: "h".toList)) := by
    rw [headerPath, hjoin _ hname, toList_dotted,
      Path.withExtension_append _ hfront (hpiece old hname) hstem' hdot' hold]
    rfl
  have houtput : ∀ extension : String, IsNodeName (stem ++ "." ++ extension) →
      outputPath dest (dir ++ [stem ++ "." ++ old]) extension =
        String.ofList (front ++ (stem.toList ++ '.' :: extension.toList)) := by
    intro extension h
    rw [outputPath, renamed_append dir hstem hold, hjoin _ h, toList_dotted]
  refine ⟨hheaderPath.trans (houtput "h" hheader).symm, ?_⟩
  rw [hheaderPath, houtput "cpp" hsource, sourcePath, String.toList_ofList,
    Path.withExtension_append _ hfront (hpiece "h" hheader) hstem' hdot' (by decide)]
  rfl

/-- The paths of a wrapper have at most one slash for each character of the destination and for each
name, and one more. -/
theorem count_wrapperPaths (dest : String) (hnames : ∀ name ∈ names, IsNodeName name) :
    (headerPath dest ("/".intercalate names)).toList.count '/' ≤ dest.length + names.length + 1 ∧
      (sourcePath (headerPath dest ("/".intercalate names))).toList.count '/' ≤
        dest.length + names.length + 1 := by
  have hrelative : ("/".intercalate names).toList.count '/' ≤ names.length := by
    have hpieces : ∀ piece ∈ names.map (·.toList), '/' ∉ piece := by
      intro piece hpiece
      obtain ⟨name, hname, rfl⟩ := List.mem_map.mp hpiece
      exact (hnames name hname).isPiece.no_slash
    rw [toList_intercalate_slash, Path.count_join_pieces hpieces, List.length_map]
    exact Nat.sub_le _ _
  have hdest : dest.toList.count '/' ≤ dest.length := List.count_le_length
  have hjoin := Path.count_join_le dest.toList ("/".intercalate names).toList
  have hheader := Path.count_withExtension (show '/' ∉ ['h'] by decide)
    (Path.join dest.toList ("/".intercalate names).toList)
  have hsource := Path.count_withExtension (show '/' ∉ ['c', 'p', 'p'] by decide)
    (headerPath dest ("/".intercalate names)).toList
  rw [headerPath, sourcePath, String.toList_ofList, String.toList_ofList] at *
  omega

/-- No file can be put where two dots lead. -/
theorem place_eq_none_of_dots {front : List Char} {path : String} {bytes : List UInt8}
    (hd : d.WellFormed) (hfront : Path.IsFront front) (hpath : path.toList = front ++ ['.', '.']) :
    d.place path bytes = none := by
  by_contra hne
  obtain ⟨e, hplace⟩ := Option.ne_none_iff_exists'.mp hne
  obtain ⟨he, -, hnode, hloc⟩ := hd.of_place hplace
  obtain ⟨-, hfollow⟩ := Disk.locate_eq_ok_iff.mp hloc
  have hdots : Text.splitBy (· = '/') ['.', '.'] = [['.', '.']] := by decide
  obtain ⟨pieces, hpieces⟩ : ∃ pieces, Text.splitBy (· = '/') path.toList =
      pieces ++ [['.', '.']] := by
    rw [hpath]
    rcases hfront with rfl | ⟨s, rfl⟩
    · exact ⟨[], hdots⟩
    · refine ⟨Text.splitBy (· = '/') s, ?_⟩
      rw [List.append_assoc, List.singleton_append, Text.splitBy_append_cons (by simp), hdots]
  -- what two dots lead to is the directory above a directory
  rw [hpieces, Disk.follow_append] at hfollow
  cases hmiddle : e.follow (e.origin path.toList) pieces with
  | error cause => simp [hmiddle] at hfollow
  | ok l =>
    rw [hmiddle] at hfollow
    have hdir := Disk.isDir_of_follow_cons hfollow
    have hlead := Disk.follow_eq_lead hfollow
    have habove : Disk.lead l [['.', '.']] = l.dropLast := rfl
    rw [hlead, habove, he.isDir_dropLast hdir] at hnode
    simp at hnode

/-- The wrapper of a header whose stem is a dot cannot be put anywhere. -/
theorem place_headerPath_of_dot (hd : d.WellFormed) (hdir : ∀ name ∈ dir, IsNodeName name)
    (hname : IsNodeName ("." ++ "." ++ old)) (hold : '.' ∉ old.toList) (bytes : List UInt8) :
    d.place (headerPath dest ("/".intercalate (dir ++ ["." ++ "." ++ old]))) bytes = none := by
  obtain ⟨front, hfront, hjoin⟩ := exists_join_names dest.toList hdir
  have hpiece := hname.isPiece
  have hdotted : ("." ++ "." ++ old).toList = '.' :: '.' :: old.toList := toList_dotted "." old
  rw [hdotted] at hpiece
  refine place_eq_none_of_dots hd hfront ?_
  rw [headerPath, String.toList_ofList, hjoin _ hname, hdotted]
  exact Path.withExtension_append_dots _ hfront hpiece hold

/-- The path of an output names the place below the destination to which the names lead. -/
theorem aim_outputPath (hnames : ∀ name ∈ renamed names old, IsNodeName name)
    (hne : renamed names old ≠ []) :
    d.aim (outputPath dest names old).toList = d.aim dest.toList ++ renamed names old := by
  rw [outputPath, String.toList_ofList, Disk.aim_join _ hnames hne]

end HeaderSurvey.Wrapper
