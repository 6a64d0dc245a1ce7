import HeaderSurvey.Proofs.Wrapper.Walk

/-!
# The tree of wrappers

A run over a tree leaves behind the wrappers of the headers below the source directory, and changes
no other file (`Mirror`).  The main result, `generateTree_mirror`, says so of every run that does
not end in a fault, if the source directory and the destination are apart from each other.

Headers that differ in their extensions alone have their wrappers at the same places.  There the
wrapper of the last of them stays.
-/

namespace HeaderSurvey.Wrapper

variable {settings : WrapperSettings} {src dest : String} {d e : Disk} {root : Location}
  {g h : Header} {headers : List Header}

/-! ### The wrapper of a header -/

/-- The text of a header parses under one number if it does under another. -/
theorem Header.parses_iff (n : ℕ) :
    h.parses src = true ↔ ∃ d, (h.unit src n).parse .typesAndRoutines = .ok d := by
  have hunit : h.unit src n = (h.unit src 0).renumber n := rfl
  rw [hunit, SourceUnit.parse_renumber, Header.parses]
  cases (h.unit src 0).parse .typesAndRoutines with
  | error cause => simp
  | ok d => simp

/-- The wrapper of a header that parses, under whatever number. -/
theorem Header.wrapper_of_parse {n : ℕ} {declarations : Declarations}
    (hparse : (h.unit src n).parse .typesAndRoutines = .ok declarations) :
    h.wrapper settings src dest =
      [(outputPath dest h.names "h", Utf8.encode (emitHeader settings declarations.types)),
        (outputPath dest h.names "cpp",
          Utf8.encode (emitSource settings declarations.types h.relative))] := by
  have hunit : h.unit src n = (h.unit src 0).renumber n := rfl
  rw [hunit, SourceUnit.parse_renumber] at hparse
  rw [Header.wrapper]
  cases horiginal : (h.unit src 0).parse .typesAndRoutines with
  | error cause =>
    rw [horiginal] at hparse
    cases hparse
  | ok original =>
    rw [horiginal] at hparse
    obtain rfl := Except.ok.inj hparse
    obtain ⟨hheader, hsource⟩ := @emit_renumber settings original n h.relative
    simp only
    rw [hheader, hsource]

/-- A header that does not parse has no wrapper. -/
theorem Header.wrapper_of_not_parses (hparse : h.parses src = false) :
    h.outputs settings src dest = [] ∧ h.wrapper settings src dest = [] := by
  rw [Header.parses] at hparse
  rw [Header.outputs, Header.wrapper]
  cases horiginal : (h.unit src 0).parse .typesAndRoutines with
  | error cause => exact ⟨rfl, rfl⟩
  | ok original => simp [horiginal] at hparse

/-- Only headers that parse have wrappers. -/
theorem flatMap_wrapper_filter (headers : List Header) :
    headers.flatMap (·.wrapper settings src dest) =
      (headers.filter (·.parses src)).flatMap (·.wrapper settings src dest) :=
  (flatMap_filter_of_eq_nil fun _ hparse => (Header.wrapper_of_not_parses hparse).2).symm

/-- The paths of the wrappers. -/
theorem map_fst_flatMap_wrapper (headers : List Header) :
    (headers.flatMap (·.wrapper settings src dest)).map (·.1) =
      (headers.filter (·.parses src)).flatMap fun h =>
        [outputPath dest h.names "h", outputPath dest h.names "cpp"] := by
  rw [flatMap_wrapper_filter, List.map_flatMap]
  refine List.flatMap_congr fun h hh => ?_
  obtain ⟨declarations, hparse⟩ := (Header.parses_iff 0).mp (List.mem_filter.mp hh).2
  rw [Header.wrapper_of_parse hparse]
  rfl

/-! ### Places that are the same -/

/-- The names of a header file and those of a source file are different. -/
theorem renamed_ne {names names' : List String} (hne : renamed names "h" ≠ []) :
    renamed names "h" ≠ renamed names' "cpp" := by
  rw [renamed] at hne ⊢
  cases hlast : names.getLast? with
  | none => simp [hlast] at hne
  | some name =>
    rw [renamed]
    cases hlast' : names'.getLast? with
    | none => simp
    | some name' =>
      intro heq
      -- the last characters of the last names differ
      have hname := congrArg List.getLast? heq
      rw [List.getLast?_concat, List.getLast?_concat] at hname
      have hend := congrArg (fun s : String => s.toList.getLast?) (Option.some.inj hname)
      simp only [toList_dotted] at hend
      have hh : "h".toList = ['h'] := rfl
      have hcpp : "cpp".toList = ['c', 'p', 'p'] := rfl
      rw [hh, hcpp] at hend
      simp at hend

/-- Outputs of headers lead to one location only by one path. -/
theorem outputPath_of_aim (hd : d.WellFormed) (hg : g.IsIn settings d root)
    (hh : h.IsIn settings d root) {output output' : String × List UInt8}
    (houtput : output ∈ g.wrapper settings src dest)
    (houtput' : output' ∈ h.wrapper settings src dest)
    (haim : d.aim output.1.toList = d.aim output'.1.toList) : output.1 = output'.1 := by
  obtain ⟨extension, hpath, hloc⟩ := hg.aim_output hd d houtput
  obtain ⟨extension', hpath', hloc'⟩ := hh.aim_output hd d houtput'
  have hnames : renamed g.names extension = renamed h.names extension' := by
    rw [hloc, hloc'] at haim
    exact List.append_cancel_left haim
  rw [hpath, hpath', outputPath, outputPath, hnames]

/-! ### The tree -/

/-- The disk `after` is `d` with the wrappers of the headers below the source directory, and the
report lists them. -/
structure Mirror (settings : WrapperSettings) (src dest : String) (d : Disk) (root : Location)
    (headers : List Header) (report : Report) (after : Disk) : Prop where
  /-- The failures are the headers that do not parse, in order. -/
  failures : (report.failures.map fun f => (f.unit.path, f.unit.text)) =
    (headers.filter (!·.parses src)).map fun h =>
      (entryPath src h.names, Utf8.decodeLossy h.bytes)
  /-- Each failure comes with the error of parsing its text. -/
  errors : ∀ f ∈ report.failures, f.unit.parse .typesAndRoutines = .error f.error
  /-- For each other header a header file and a source file are listed, in order. -/
  generated : report.generated = (headers.filter (·.parses src)).flatMap fun h =>
    [outputPath dest h.names "h", outputPath dest h.names "cpp"]
  /-- A header file declares the functions of the last header that has it as its own. -/
  headerFile : ∀ front h back, headers.filter (·.parses src) = front ++ h :: back →
    (∀ g ∈ back, outputPath dest g.names "h" ≠ outputPath dest h.names "h") →
    ∀ fileId declarations, (h.unit src fileId).parse .typesAndRoutines = .ok declarations →
      after.read (outputPath dest h.names "h").toList =
        .ok (Utf8.encode (emitHeader settings declarations.types))
  /-- A source file defines the functions of the last header that has it as its own. -/
  sourceFile : ∀ front h back, headers.filter (·.parses src) = front ++ h :: back →
    (∀ g ∈ back, outputPath dest g.names "cpp" ≠ outputPath dest h.names "cpp") →
    ∀ fileId declarations, (h.unit src fileId).parse .typesAndRoutines = .ok declarations →
      after.read (outputPath dest h.names "cpp").toList =
        .ok (Utf8.encode (emitSource settings declarations.types h.relative))
  /-- Every other file stays, and there are no others. -/
  others : ∀ loc, (∀ path ∈ report.generated, after.locate path.toList ≠ .ok loc) →
    ∀ bytes, after.node? loc = some (.file bytes) ↔ d.node? loc = some (.file bytes)
  /-- What is below the source directory stays. -/
  source : ∀ loc, root <+: loc →
    ∀ bytes, after.node? loc = some (.file bytes) ↔ d.node? loc = some (.file bytes)
  /-- Directories stay. -/
  directories : ∀ loc, d.node? loc = some .dir → after.node? loc = some .dir

/-- The headers that parse are headers of the tree, however they are split. -/
theorem isIn_of_filter_eq (hin : ∀ h ∈ headers, h.IsIn settings d root) {front back : List Header}
    (hsplit : headers.filter (·.parses src) = front ++ h :: back) :
    h.IsIn settings d root ∧ ∀ g ∈ back, g.IsIn settings d root := by
  have hfrom : ∀ g ∈ front ++ h :: back, g.IsIn settings d root := by
    intro g hg
    rw [← hsplit] at hg
    exact hin g (List.mem_filter.mp hg).1
  exact ⟨hfrom h (by simp), fun g hg => hfrom g (by simp [hg])⟩

/-- What is read at the place of an output of the last header that has it. -/
theorem read_output (hd : d.WellFormed) (hin : ∀ h ∈ headers, h.IsIn settings d root)
    (hplace : d.placeAll (headers.flatMap (·.wrapper settings src dest)) = some e)
    {front back : List Header} (hsplit : headers.filter (·.parses src) = front ++ h :: back)
    {before behind : List (String × List UInt8)} {path : String} {bytes : List UInt8}
    (hwrapper : h.wrapper settings src dest = before ++ (path, bytes) :: behind)
    (hself : ∀ output ∈ behind, output.1 ≠ path)
    (hlast : ∀ g ∈ back, ∀ output ∈ g.wrapper settings src dest, output.1 ≠ path) :
    e.read path.toList = .ok bytes := by
  obtain ⟨hh, hback⟩ := isIn_of_filter_eq hin hsplit
  have houtput : (path, bytes) ∈ h.wrapper settings src dest := by simp [hwrapper]
  rw [flatMap_wrapper_filter, hsplit, List.flatMap_append, List.flatMap_cons, hwrapper,
    List.append_assoc, List.cons_append, ← List.append_assoc] at hplace
  -- what is put behind it is its own other file, or belongs to a header behind it
  refine hd.read_of_placeAll hplace fun output hbehind haim => ?_
  rcases List.mem_append.mp hbehind with hbehind | hbehind
  · have hmine : output ∈ h.wrapper settings src dest := by simp [hwrapper, hbehind]
    exact hself output hbehind (outputPath_of_aim hd hh hh hmine houtput haim)
  · obtain ⟨g, hg, hbelongs⟩ := List.mem_flatMap.mp hbehind
    exact hlast g hg output hbelongs (outputPath_of_aim hd (hback g hg) hh hbelongs houtput haim)

/-- The paths of the two files of a wrapper are different, also from header to header. -/
theorem outputPath_ne (hd : d.WellFormed) (hg : g.IsIn settings d root)
    (hh : h.IsIn settings d root) :
    outputPath dest g.names "h" ≠ outputPath dest h.names "cpp" := by
  obtain ⟨hgnames, hgne⟩ := hg.isNodeName_renamed hd isExtension_h
  obtain ⟨hhnames, hhne⟩ := hh.isNodeName_renamed hd isExtension_cpp
  intro heq
  have haim := congrArg (fun path : String => d.aim path.toList) heq
  simp only [aim_outputPath hgnames hgne, aim_outputPath hhnames hhne] at haim
  exact renamed_ne hgne (List.append_cancel_left haim)

/-- What putting the wrappers of the listed headers makes of the disk. -/
theorem IsListing.mirror (hlisting : IsListing settings d root headers) (hd : d.WellFormed)
    (hapart : Apart root (d.aim dest.toList))
    (hplace : d.placeAll (headers.flatMap (·.outputs settings src dest)) = some e)
    {report : Report} (hreported : Reported settings src dest headers ⟨[], [], 0⟩ report) :
    Mirror settings src dest d root headers report e := by
  have hin : ∀ h ∈ headers, h.IsIn settings d root := fun h => hlisting.mem_iff_isIn.mp
  obtain ⟨houtputs, hgrows⟩ := outputs_eq_of_apart hd hapart hd rfl hin hplace
  rw [houtputs] at hplace
  obtain ⟨-, hwritten⟩ := hd.of_placeAll hplace
  obtain ⟨failures, hfailures, hmap, herrors⟩ := hreported.failures
  rw [List.nil_append] at hfailures
  have hgenerated : report.generated =
      (headers.flatMap (·.wrapper settings src dest)).map (·.1) := by
    rw [hreported.generated, List.nil_append, ← houtputs, List.map_flatMap]
  constructor
  case failures =>
    rw [hfailures]
    exact hmap
  case errors =>
    rw [hfailures]
    exact herrors
  case generated => rw [hgenerated, map_fst_flatMap_wrapper]
  case headerFile =>
    intro front h back hsplit hlast fileId declarations hparse
    obtain ⟨hh, hback⟩ := isIn_of_filter_eq hin hsplit
    refine @read_output _ _ _ _ _ _ _ _ hd hin hplace _ _ hsplit [] _ _ _
      (Header.wrapper_of_parse hparse) ?_ ?_
    · intro output houtput
      rw [List.mem_singleton.mp houtput]
      exact (outputPath_ne hd hh hh).symm
    · intro g hg output houtput
      rcases Header.path_of_mem_wrapper houtput with hpath | hpath
      · exact hpath ▸ hlast g hg
      · exact hpath ▸ (outputPath_ne hd hh (hback g hg)).symm
  case sourceFile =>
    intro front h back hsplit hlast fileId declarations hparse
    obtain ⟨hh, hback⟩ := isIn_of_filter_eq hin hsplit
    refine @read_output _ _ _ _ _ _ _ _ hd hin hplace _ _ hsplit [_] [] _ _
      (Header.wrapper_of_parse hparse) (by simp) ?_
    intro g hg output houtput
    rcases Header.path_of_mem_wrapper houtput with hpath | hpath
    · exact hpath ▸ outputPath_ne hd (hback g hg) hh
    · exact hpath ▸ hlast g hg
  case others =>
    -- a file that is not at the place of an output is not written
    intro loc hloc bytes
    refine hwritten.files ?_ bytes
    rintro ⟨output, houtput, rfl⟩
    refine hloc output.1 ?_ (hd.locate_of_placeAll hplace houtput)
    rw [hgenerated]
    exact List.mem_map_of_mem houtput
  case source =>
    intro loc hloc bytes
    exact hgrows.files (not_not.mpr hloc) bytes
  case directories =>
    intro loc hloc
    exact hgrows.dirs hloc

/-- **The tree of wrappers.**  If the source directory and the destination are apart from each
other, then a run that ends without a fault leaves the wrappers of all headers below the source
directory that parse under the same names below the destination, reports the others with their
errors, and leaves every other file as it was. -/
theorem generateTree_mirror (hd : d.WellFormed) (hsrc : d.locate src.toList = .ok root)
    (hroot : d.node? root = some .dir) (hapart : Apart root (d.aim dest.toList))
    {events : List Event} {report : Report} {after : World}
    (hrun : (generateTree settings src dest).result ⟨d, events⟩ = (.ok report, after)) :
    ∃ headers, IsListing settings d root headers ∧
      Mirror settings src dest d root headers report after.disk := by
  obtain ⟨headers, hlisting, hwrites⟩ :=
    @writes_generateTree settings src dest ⟨d, events⟩ root hd hsrc hroot hapart
  obtain ⟨hplace, hreported⟩ := hwrites.of_ok hrun
  exact ⟨headers, hlisting, hlisting.mirror hd hapart hplace hreported⟩

/-- A tree with two headers for one wrapper, one that does not parse and one in a directory. -/
theorem generateTree_mirror_shared :
    let settings : WrapperSettings := { headerExtensions := ["h", "hpp"] }
    let d : Disk := ⟨[(["src"], .dir),
      (["src", "a.h"], .file (Utf8.encode "class A \x7b \x7d;\n")),
      (["src", "a.hpp"], .file (Utf8.encode "class B \x7b \x7d;\n")),
      (["src", "bad.h"], .file (Utf8.encode "class C \x7b\n")),
      (["src", "gui"], .dir),
      (["src", "gui", "c.h"], .file (Utf8.encode "int f();\n"))], []⟩
    ∃ report after headers,
      (generateTree settings "src" "out").result ⟨d, []⟩ = (.ok report, after) ∧
      report.generated = ["out/a.h", "out/a.cpp", "out/a.h", "out/a.cpp", "out/gui/c.h",
        "out/gui/c.cpp"] ∧
      report.failures.map (·.unit.path) = ["src/bad.h"] ∧
      IsListing settings d ["src"] headers ∧
      Mirror settings "src" "out" d ["src"] headers report after.disk := by
  intro settings d
  have hd : d.WellFormed := ⟨by decide, by decide⟩
  have hok : ((generateTree settings "src" "out").result ⟨d, []⟩).1.toOption.map
      (fun report => (report.generated, report.failures.map (·.unit.path))) =
        some (["out/a.h", "out/a.cpp", "out/a.h", "out/a.cpp", "out/gui/c.h", "out/gui/c.cpp"],
          ["src/bad.h"]) := by
    decide +kernel
  rcases hrun : (generateTree settings "src" "out").result ⟨d, []⟩ with ⟨fault | report, after⟩
  · rw [hrun] at hok
    cases hok
  · rw [hrun] at hok
    have hreport := Prod.mk.inj (Option.some.inj hok)
    obtain ⟨headers, hlisting, hmirror⟩ := @generateTree_mirror settings "src" "out" d ["src"] hd
      (by decide) (by decide) (by decide) [] report after hrun
    exact ⟨report, after, headers, rfl, hreport.1, hreport.2, hlisting, hmirror⟩

end HeaderSurvey.Wrapper
