import HeaderSurvey.Proofs.Wrapper.Mirror
import Mathlib.Data.List.Nodup

/-!
# Wrappers at one path

A wrapper is named after its header without the extension.  Headers of one directory whose names
differ in their extensions alone (`SameStem`) have their wrappers at the same paths
(`outputPath_eq_iff`), where one overwrites the other (`generateTree_overwrites`).  In a tree
without such headers every path is listed once and every wrapper stays (`generateTree_keeps`), and
there are none if headers have one extension (`distinct_of_one_extension`).
-/

namespace HeaderSurvey.Wrapper

variable {settings : WrapperSettings} {src dest : String} {d e : Disk} {root : Location}
  {g h : Header} {headers : List Header} {names names' : List String}

/-! ### Names -/

/-- The names lead to files of one directory that differ in their extensions at most. -/
def SameStem (names names' : List String) : Prop :=
  ∃ dir stem old old', stem ≠ "" ∧ '.' ∉ old.toList ∧ '.' ∉ old'.toList ∧
    names = dir ++ [stem ++ "." ++ old] ∧ names' = dir ++ [stem ++ "." ++ old']

/-- A name is made of one stem and one extension. -/
theorem dotted_inj {stem stem' old old' : String} (hstem : stem ≠ "") (hstem' : stem' ≠ "")
    (hold : '.' ∉ old.toList) (hold' : '.' ∉ old'.toList)
    (heq : stem ++ "." ++ old = stem' ++ "." ++ old') : stem = stem' ∧ old = old' := by
  have hnil : ∀ s : String, s ≠ "" → s.toList ≠ [] := fun s hs hempty =>
    hs (String.toList_inj.mp hempty)
  have hsplit := congrArg (fun s : String => Path.splitName s.toList) heq
  simp only [toList_dotted, Path.splitName_append (hnil _ hstem) hold,
    Path.splitName_append (hnil _ hstem') hold', Prod.mk.injEq, Option.some.injEq,
    String.toList_inj] at hsplit
  exact hsplit

theorem renamed_eq_iff (hnames : HasHeaderExtension settings names)
    (hnames' : HasHeaderExtension settings names') (extension : String) :
    renamed names extension = renamed names' extension ↔ SameStem names names' := by
  constructor
  · obtain ⟨dir, stem, old, rfl, hstem, hold, -⟩ := hnames
    obtain ⟨dir', stem', old', rfl, hstem', hold', -⟩ := hnames'
    rw [renamed_append dir hstem hold, renamed_append dir' hstem' hold']
    intro heq
    obtain ⟨rfl, hlast⟩ := List.append_inj' heq rfl
    have hname : stem ++ "." ++ extension = stem' ++ "." ++ extension := (List.cons.inj hlast).1
    rw [← String.toList_inj, toList_dotted, toList_dotted] at hname
    obtain rfl : stem = stem' := String.toList_inj.mp (List.append_cancel_right hname)
    exact ⟨dir, stem, old, old', hstem, hold, hold', rfl, rfl⟩
  · rintro ⟨dir, stem, old, old', hstem, hold, hold', rfl, rfl⟩
    rw [renamed_append dir hstem hold, renamed_append dir hstem hold']

/-- Names with one extension that lead to files with one stem are the same. -/
theorem SameStem.eq_of_one_extension (hsame : SameStem names names')
    (hnames : HasHeaderExtension settings names) (hnames' : HasHeaderExtension settings names')
    (hone : ∀ x ∈ settings.headerExtensions, ∀ y ∈ settings.headerExtensions, x = y) :
    names = names' := by
  obtain ⟨dir, stem, old, old', hstem, hold, hold', rfl, rfl⟩ := hsame
  have hmem : ∀ old : String, '.' ∉ old.toList →
      HasHeaderExtension settings (dir ++ [stem ++ "." ++ old]) →
        old ∈ settings.headerExtensions := by
    rintro old hold ⟨dir₂, stem₂, old₂, heq, hstem₂, hold₂, hmem⟩
    have hlast := (List.cons.inj (List.append_inj' heq rfl).2).1
    rw [(dotted_inj hstem hstem₂ hold hold₂ hlast).2]
    exact hmem
  rw [hone old (hmem old hold hnames) old' (hmem old' hold' hnames')]

/-! ### Paths -/

/-- Wrappers have their files at one path just when the headers differ in their extensions at
most. -/
theorem outputPath_eq_iff (hd : d.WellFormed) (hg : g.IsIn settings d root)
    (hh : h.IsIn settings d root) {extension : String} (hextension : IsExtension extension) :
    outputPath dest g.names extension = outputPath dest h.names extension ↔
      SameStem g.names h.names := by
  rw [← renamed_eq_iff hg.extension hh.extension extension]
  constructor
  · intro heq
    obtain ⟨hgnames, hgne⟩ := hg.isNodeName_renamed hd hextension
    obtain ⟨hhnames, hhne⟩ := hh.isNodeName_renamed hd hextension
    have haim := congrArg (fun path : String => d.aim path.toList) heq
    simp only [aim_outputPath hgnames hgne, aim_outputPath hhnames hhne] at haim
    exact List.append_cancel_left haim
  · intro heq
    rw [outputPath, outputPath, heq]

/-- The wrappers of two headers have no path in common just when the headers differ in more than
their extensions. -/
theorem disjoint_paths_iff (hd : d.WellFormed) (hg : g.IsIn settings d root)
    (hh : h.IsIn settings d root) :
    List.Disjoint [outputPath dest g.names "h", outputPath dest g.names "cpp"]
        [outputPath dest h.names "h", outputPath dest h.names "cpp"] ↔
      ¬ SameStem g.names h.names := by
  have hcross := @outputPath_ne settings dest _ _ _ _ hd hg hh
  have hcross' := @outputPath_ne settings dest _ _ _ _ hd hh hg
  have hheader := @outputPath_eq_iff settings dest _ _ _ _ hd hg hh _ isExtension_h
  have hsource := @outputPath_eq_iff settings dest _ _ _ _ hd hg hh _ isExtension_cpp
  simp only [List.disjoint_cons_left, List.disjoint_nil_left, List.mem_cons, List.not_mem_nil,
    hheader, hsource, hcross, hcross'.symm, or_false, false_or, and_true, and_self]

/-! ### Trees -/

/-- No two of the headers that parse differ in their extensions alone. -/
def Distinct (src : String) (headers : List Header) : Prop :=
  ∀ g ∈ headers, ∀ h ∈ headers, g.parses src = true → h.parses src = true →
    SameStem g.names h.names → g = h

theorem distinct_of_one_extension (hlisting : IsListing settings d root headers)
    (hone : ∀ x ∈ settings.headerExtensions, ∀ y ∈ settings.headerExtensions, x = y) :
    Distinct src headers := by
  intro g hg h hh _ _ hsame
  have hgin := hlisting.mem_iff_isIn.mp hg
  have hhin := hlisting.mem_iff_isIn.mp hh
  exact hgin.eq_of_names hhin (hsame.eq_of_one_extension hgin.extension hhin.extension hone)

/-- The paths of the wrappers of the listed headers are different ones just when no two of the
headers that parse differ in their extensions alone. -/
theorem IsListing.nodup_paths_iff (hlisting : IsListing settings d root headers)
    (hd : d.WellFormed) :
    ((headers.filter (·.parses src)).flatMap fun h =>
      [outputPath dest h.names "h", outputPath dest h.names "cpp"]).Nodup ↔
        Distinct src headers := by
  have hmem : ∀ h, h ∈ headers.filter (·.parses src) ↔ h ∈ headers ∧ h.parses src = true :=
    fun h => List.mem_filter
  have hin : ∀ h ∈ headers.filter (·.parses src), h.IsIn settings d root := fun h hh =>
    hlisting.mem_iff_isIn.mp ((hmem h).mp hh).1
  -- so it does not matter which of two headers comes first in the list
  have hsymm : Std.Symm (Function.onFun List.Disjoint fun h : Header =>
      [outputPath dest h.names "h", outputPath dest h.names "cpp"]) :=
    ⟨fun _ _ => List.disjoint_symm⟩
  rw [List.nodup_flatMap]
  constructor
  · rintro ⟨-, hdisjoint⟩ g hg h hh hgparse hhparse hsame
    by_contra hne
    have hg' := (hmem g).mpr ⟨hg, hgparse⟩
    have hh' := (hmem h).mpr ⟨hh, hhparse⟩
    exact (disjoint_paths_iff hd (hin g hg') (hin h hh')).mp (hdisjoint.forall hg' hh' hne) hsame
  · intro hdistinct
    refine ⟨fun h hh => ?_, (hlisting.nodup.filter _).pairwise_of_forall_ne ?_⟩
    · simpa using outputPath_ne hd (hin h hh) (hin h hh)
    · intro g hg h hh hne
      obtain ⟨hg', hgparse⟩ := (hmem g).mp hg
      obtain ⟨hh', hhparse⟩ := (hmem h).mp hh
      exact (disjoint_paths_iff hd (hin g hg) (hin h hh)).mpr fun hsame =>
        hne (hdistinct g hg' h hh' hgparse hhparse hsame)

/-- The disk has the files of the wrapper of the header. -/
structure Kept (settings : WrapperSettings) (src dest : String) (h : Header) (after : Disk) :
    Prop where
  headerFile : ∀ fileId declarations,
    (h.unit src fileId).parse .typesAndRoutines = .ok declarations →
      after.read (outputPath dest h.names "h").toList =
        .ok (Utf8.encode (emitHeader settings declarations.types))
  sourceFile : ∀ fileId declarations,
    (h.unit src fileId).parse .typesAndRoutines = .ok declarations →
      after.read (outputPath dest h.names "cpp").toList =
        .ok (Utf8.encode (emitSource settings declarations.types h.relative))

/-- Wrappers at paths of their own stay. -/
theorem Mirror.kept {report : Report} (hmirror : Mirror settings src dest d root headers report e)
    (hlisting : IsListing settings d root headers) (hd : d.WellFormed)
    (hdistinct : Distinct src headers) (hmem : h ∈ headers) : Kept settings src dest h e := by
  -- no header behind it in the listing has its stem
  have hsplit : ∀ fileId declarations,
      (h.unit src fileId).parse .typesAndRoutines = .ok declarations →
        ∃ front back, headers.filter (·.parses src) = front ++ h :: back ∧
          ∀ g ∈ back, g.IsIn settings d root ∧ ¬ SameStem g.names h.names := by
    intro fileId declarations hparse
    have hparses : h.parses src = true := (Header.parses_iff fileId).mpr ⟨_, hparse⟩
    obtain ⟨front, back, hfilter⟩ :=
      List.append_of_mem (List.mem_filter.mpr ⟨hmem, hparses⟩)
    refine ⟨front, back, hfilter, fun g hg => ?_⟩
    have hg' : g ∈ headers.filter (·.parses src) := by
      rw [hfilter]
      simp [hg]
    refine ⟨hlisting.mem_iff_isIn.mp (List.mem_filter.mp hg').1, fun hsame => ?_⟩
    obtain rfl := hdistinct g (List.mem_filter.mp hg').1 h hmem (List.mem_filter.mp hg').2 hparses
      hsame
    have hnodup : (headers.filter (·.parses src)).Nodup := hlisting.nodup.filter _
    rw [hfilter] at hnodup
    exact (List.nodup_cons.mp (List.nodup_append.mp hnodup).2.1).1 hg
  have hin := hlisting.mem_iff_isIn.mp hmem
  constructor
  · intro fileId declarations hparse
    obtain ⟨front, back, hfilter, hback⟩ := hsplit fileId declarations hparse
    refine hmirror.headerFile front h back hfilter (fun g hg => ?_) fileId declarations hparse
    exact mt (outputPath_eq_iff hd (hback g hg).1 hin isExtension_h).mp (hback g hg).2
  · intro fileId declarations hparse
    obtain ⟨front, back, hfilter, hback⟩ := hsplit fileId declarations hparse
    refine hmirror.sourceFile front h back hfilter (fun g hg => ?_) fileId declarations hparse
    exact mt (outputPath_eq_iff hd (hback g hg).1 hin isExtension_cpp).mp (hback g hg).2

/-- **Where wrappers are kept.**  Every path is listed once just when no two headers that parse
differ in their extensions alone.  Then every wrapper stays.  It is so if headers have one
extension. -/
theorem generateTree_keeps (hd : d.WellFormed) (hsrc : d.locate src.toList = .ok root)
    (hroot : d.node? root = some .dir) (hapart : Apart root (d.aim dest.toList))
    {events : List Event} {report : Report} {after : World}
    (hrun : (generateTree settings src dest).result ⟨d, events⟩ = (.ok report, after)) :
    ∃ headers, IsListing settings d root headers ∧
      (report.generated.Nodup ↔ Distinct src headers) ∧
      (Distinct src headers → ∀ h ∈ headers, Kept settings src dest h after.disk) ∧
      ((∀ x ∈ settings.headerExtensions, ∀ y ∈ settings.headerExtensions, x = y) →
        Distinct src headers) := by
  obtain ⟨headers, hlisting, hwrites⟩ :=
    @writes_generateTree settings src dest ⟨d, events⟩ root hd hsrc hroot hapart
  obtain ⟨hplace, hreported⟩ := hwrites.of_ok hrun
  have hmirror := hlisting.mirror hd hapart hplace hreported
  refine ⟨headers, hlisting, ?_, fun hdistinct h hmem => ?_, distinct_of_one_extension hlisting⟩
  · rw [hmirror.generated]
    exact hlisting.nodup_paths_iff hd
  · exact hmirror.kept hlisting hd hdistinct hmem

/-- Two headers with different stems have four files. -/
theorem generateTree_keeps_stems :
    let settings : WrapperSettings := { headerExtensions := ["h", "hpp"] }
    let d : Disk := ⟨[(["src"], .dir),
      (["src", "a.h"], .file (Utf8.encode "class A \x7b\x7d;")),
      (["src", "b.hpp"], .file (Utf8.encode "class B \x7b\x7d;"))], []⟩
    ∃ report after headers,
      (generateTree settings "src" "dest").result ⟨d, []⟩ = (.ok report, after) ∧
      report.generated = ["dest/a.h", "dest/a.cpp", "dest/b.h", "dest/b.cpp"] ∧
      IsListing settings d ["src"] headers ∧
      Distinct "src" headers ∧ ∀ h ∈ headers, Kept settings "src" "dest" h after.disk := by
  intro settings d
  have hd : d.WellFormed := ⟨by decide, by decide⟩
  have hok : ((generateTree settings "src" "dest").result ⟨d, []⟩).1.toOption.map (·.generated) =
      some ["dest/a.h", "dest/a.cpp", "dest/b.h", "dest/b.cpp"] := by
    decide +kernel
  rcases hrun : (generateTree settings "src" "dest").result ⟨d, []⟩ with ⟨fault | report, after⟩
  · rw [hrun] at hok
    cases hok
  · rw [hrun] at hok
    have hgenerated : report.generated = _ := Option.some.inj hok
    obtain ⟨headers, hlisting, hnodup, hkept, -⟩ := @generateTree_keeps settings "src" "dest" d
      ["src"] hd (by decide) (by decide) (by decide) [] report after hrun
    have hdistinct : Distinct "src" headers := hnodup.mp (by rw [hgenerated]; decide)
    exact ⟨report, after, headers, rfl, hgenerated, hlisting, hdistinct, hkept hdistinct⟩

/-- **Where a wrapper is lost.**  Two headers that differ in their extensions alone are reported
without a failure, and the source file of the first one is not found at its path. -/
theorem generateTree_overwrites :
    let settings : WrapperSettings := { headerExtensions := ["h", "hpp"] }
    let first : Header := ⟨["a.h"], Utf8.encode "class A \x7b\x7d;"⟩
    let second : Header := ⟨["a.hpp"], Utf8.encode "class B \x7b\x7d;"⟩
    let d : Disk := ⟨[(["src"], .dir), (["src", "a.h"], .file first.bytes),
      (["src", "a.hpp"], .file second.bytes)], []⟩
    let run := (generateTree settings "src" "dest").result ⟨d, []⟩
    run.1.toOption.map (fun report => (report.generated, report.failures)) =
        some (["dest/a.h", "dest/a.cpp", "dest/a.h", "dest/a.cpp"], []) ∧
      (first.outputs settings "src" "dest").map (·.1) = ["dest/a.h", "dest/a.cpp"] ∧
      ∀ output ∈ first.outputs settings "src" "dest",
        output.1 = "dest/a.cpp" → run.2.disk.read output.1.toList ≠ .ok output.2 := by
  decide +kernel

end HeaderSurvey.Wrapper
