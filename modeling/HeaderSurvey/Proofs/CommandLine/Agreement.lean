import HeaderSurvey.Proofs.CommandLine.Failures
import HeaderSurvey.Proofs.Declaration.Renumber
import HeaderSurvey.Proofs.Harness.Plain
import HeaderSurvey.Proofs.Harness.Program
import HeaderSurvey.Proofs.Run.Prints
import HeaderSurvey.Proofs.Wrapper.Isolation

/-!
# Listing tests and writing a harness agree

The tests of a set of files can be listed, and a harness for them can be written.  Both runs read
the same files and find the same test cases, and then each goes its own way.  The main result,
`listing_agrees_with_generating`, says of any two command lines that ask for the one and for the
other: the exit codes are the same, the lines of the first are the names in the program that the
second leaves, and neither does anything else.
-/

namespace HeaderSurvey

open Run

variable {d e : Disk} {files : List String} {path : String} {w : World}

/-! ### Files -/

/-- The file can be read. -/
def Readable (d : Disk) (path : String) : Prop :=
  ∃ bytes, d.read path.toList = .ok bytes

/-- Some file can be put at the path. -/
def Writable (d : Disk) (path : String) : Prop :=
  ∃ bytes e, d.place path bytes = some e

/-- The file can be read, and its types can be. -/
def Scans (d : Disk) (path : String) : Prop :=
  ∃ bytes decls, d.read path.toList = .ok bytes ∧
    (SourceUnit.ofBytes path 0 bytes).parse .types = .ok decls

/-- The bytes of a file, none if it cannot be read. -/
def bytesOf (d : Disk) (path : String) : List UInt8 :=
  (d.read path.toList).toOption.getD []

/-- The units of the files, numbered in order. -/
def unitsOf (d : Disk) (files : List String) : List SourceUnit :=
  files.zipIdx.map fun (path, fileId) => SourceUnit.ofBytes path fileId (bytesOf d path)

theorem Readable.read_eq (h : Readable d path) : d.read path.toList = .ok (bytesOf d path) := by
  obtain ⟨bytes, hread⟩ := h
  rw [bytesOf, hread]
  rfl

theorem Readable.ne_empty (h : Readable d path) : path ≠ "" := by
  rintro rfl
  obtain ⟨bytes, hread⟩ := h
  cases hread

/-- Where one file can be put, any file can. -/
theorem Writable.exists_place (h : Writable d path) (bytes : List UInt8) :
    ∃ e, d.place path bytes = some e := by
  obtain ⟨bytes', e, hplace⟩ := h
  obtain ⟨d', hparents, hwrite⟩ := Disk.place_eq_some_iff.mp hplace
  obtain ⟨loc, hloc, hslash, hn, -⟩ := Disk.write_eq_ok_iff.mp hwrite
  exact ⟨_, Disk.place_eq_some_iff.mpr
    ⟨d', hparents, Disk.write_eq_ok_iff.mpr ⟨loc, hloc, hslash, hn, rfl⟩⟩⟩

theorem Writable.ne_empty (h : Writable d path) : path ≠ "" := by
  rintro rfl
  obtain ⟨bytes, e, hplace⟩ := h
  cases hplace

/-- Whether the types of a unit can be read does not depend on its number. -/
theorem parses_ofBytes (fileId : Nat) (h : Readable d path) :
    Harness.parses (SourceUnit.ofBytes path fileId (bytesOf d path)) = true ↔ Scans d path := by
  have hrenumber : SourceUnit.ofBytes path fileId (bytesOf d path) =
      (SourceUnit.ofBytes path 0 (bytesOf d path)).renumber fileId := rfl
  rw [Harness.parses, hrenumber, SourceUnit.parse_renumber]
  constructor
  · intro hparses
    cases hparse : (SourceUnit.ofBytes path 0 (bytesOf d path)).parse .types with
    | error cause => simp [hparse] at hparses
    | ok decls => exact ⟨_, decls, h.read_eq, hparse⟩
  · rintro ⟨bytes, decls, hread, hparse⟩
    rw [h.read_eq] at hread
    obtain rfl := Except.ok.inj hread
    rw [hparse]

/-- Nothing is reported exactly if every file scans. -/
theorem isEmpty_failures_iff (settings : HarnessSettings) (hread : ∀ f ∈ files, Readable d f) :
    (Harness.discover settings (unitsOf d files)).failures.isEmpty = true ↔
      ∀ f ∈ files, Scans d f := by
  have hfailures := (Harness.discover_isolated settings (unitsOf d files)).failures
  rw [List.isEmpty_iff, ← List.map_eq_nil_iff, hfailures, List.filter_eq_nil_iff]
  constructor
  · intro hall f hf
    obtain ⟨i, hi, rfl⟩ := List.mem_iff_getElem.mp hf
    have hmem : SourceUnit.ofBytes files[i] i (bytesOf d files[i]) ∈ unitsOf d files :=
      List.mem_map.mpr ⟨(files[i], i), List.mem_zipIdx_iff_getElem?.mpr (by simp [hi]), rfl⟩
    exact (parses_ofBytes i (hread _ hf)).mp (by simpa using hall _ hmem)
  · intro hall unit hunit
    obtain ⟨⟨f, i⟩, hmem, rfl⟩ := List.mem_map.mp hunit
    have hf : f ∈ files := (List.mem_zipIdx hmem).2.2 ▸ List.getElem_mem _
    simpa using (parses_ofBytes i (hread f hf)).mpr (hall f hf)

/-! ### The runs -/

theorem prints_showFailures (failures : List ScanFailure) (hdisk : w.disk = d) :
    Prints (showFailures failures) w [] d (· = if failures.isEmpty then 0 else 1) := by
  refine ⟨_, _, result_showFailures failures w, hdisk, ?_, rfl⟩
  rw [outputLines_append, List.append_nil]
  refine List.append_right_eq_self.mpr ?_
  rw [outputLines, List.filterMap_map, List.filterMap_eq_nil_iff]
  intro text _
  rfl

theorem prints_discoverFiles (settings : HarnessSettings) (hread : ∀ f ∈ files, Readable d f)
    (hdisk : w.disk = d) :
    Prints (Harness.discoverFiles settings files) w [] d
      (· = Harness.discover settings (unitsOf d files)) := by
  have hload : Prints (Harness.loadFiles files) w [] d (· = unitsOf d files) := by
    refine prints_mapM (fun ⟨f, i⟩ hmem w' hdisk' => ?_) hdisk
    have hf : f ∈ files := (List.mem_zipIdx hmem).2.2 ▸ List.getElem_mem _
    exact prints_loadUnit i (hread f hf).read_eq hdisk'
  rw [Harness.discoverFiles]
  refine hload.bind_silent fun units w' hdisk' hunits => ?_
  subst hunits
  exact (prints_log _ hdisk').bind_pure rfl

/-- What listing prints. -/
theorem prints_generateHarness_list (settings : Settings) (output : Option String)
    (hread : ∀ f ∈ files, Readable d f) (hdisk : w.disk = d) :
    let scan := Harness.discover settings.harness (unitsOf d files)
    Prints (generateHarness settings output true files) w (listTests scan.cases) d
      (· = if scan.failures.isEmpty then 0 else 1) := by
  intro scan
  rw [generateHarness]
  refine (prints_discoverFiles settings.harness hread hdisk).bind_silent
    fun found w₁ hdisk₁ hfound => ?_
  obtain rfl : found = scan := hfound
  refine (prints_showFailures scan.failures hdisk₁).bind_silent fun code w₂ hdisk₂ hcode => ?_
  have hlines : outputLines ((listTests scan.cases).map Event.output) = listTests scan.cases := by
    rw [outputLines, List.filterMap_map]
    exact List.filterMap_some
  have hlisted := prints_forM Event.output (listTests scan.cases) hdisk₂
  rw [hlines] at hlisted
  exact hlisted.bind_pure hcode

/-- What writing a harness prints, which is nothing. -/
theorem prints_generateHarness_write (settings : Settings) (hread : ∀ f ∈ files, Readable d f)
    (hdisk : w.disk = d)
    (hplace : d.place path (Utf8.encode (Harness.emit settings.harness
      (Harness.discover settings.harness (unitsOf d files)).cases)) = some e) :
    let scan := Harness.discover settings.harness (unitsOf d files)
    Prints (generateHarness settings (some path) false files) w [] e
      (· = if scan.failures.isEmpty then 0 else 1) := by
  intro scan
  rw [generateHarness]
  refine (prints_discoverFiles settings.harness hread hdisk).bind_silent
    fun found w₁ hdisk₁ hfound => ?_
  obtain rfl : found = scan := hfound
  refine (prints_showFailures scan.failures hdisk₁).bind_silent fun code w₂ hdisk₂ hcode => ?_
  have hwrite : Prints (writeHarness settings scan path) w₂ [] e fun _ => True := by
    rw [writeHarness]
    refine (prints_writeOutput hplace hdisk₂).bind_silent fun _ w₃ hdisk₃ _ => ?_
    exact prints_log _ hdisk₃
  exact hwrite.bind_pure hcode

/-! ### The command lines -/

/-- The arguments ask for a list of the tests, with the default settings. -/
def AsksForList (args files : List String) : Prop :=
  ∃ verbose, Arguments.parse args = .ok ⟨verbose, none, .generateHarness none true files⟩

/-- The arguments ask for a harness at the path, with the default settings. -/
def AsksForHarness (args : List String) (path : String) (files : List String) : Prop :=
  ∃ verbose, Arguments.parse args = .ok ⟨verbose, none, .generateHarness (some path) false files⟩

namespace Arguments

theorem takeOperands_eq_ok {args : List String} (hargs : ∀ arg ∈ args, arg ≠ "") (t : Taken) :
    takeOperands t args = .ok { t with operands := t.operands ++ args } := by
  induction args generalizing t with
  | nil =>
    rw [List.append_nil]
    rfl
  | cons arg args ih =>
    obtain ⟨harg, hargs⟩ := List.forall_mem_cons.mp hargs
    have hadd : t.addOperand arg = .ok { t with operands := t.operands ++ [arg] } := by
      rw [Taken.addOperand, if_neg (by simpa using harg)]
    rw [takeOperands, hadd]
    change takeOperands _ args = _
    rw [ih hargs, List.append_assoc]
    rfl

/-- What stands behind the end of the options is taken as operands, all of it. -/
theorem read_endOfOptions (more : List (String × OptionKind)) (t : Taken) {files : List String}
    (hfiles : ∀ f ∈ files, f ≠ "") :
    read (commandSide more) t ("--" :: files) =
      .ok ({ t with operands := t.operands ++ files }, []) := by
  have hword : wordOf "--" = .endOfOptions := by decide
  have hside : (commandSide more).endsAtOperand = false := rfl
  rw [read, hword]
  simp only [hside, Bool.false_eq_true, if_false]
  rw [takeOperands_eq_ok hfiles]
  rfl

theorem wordOf_output (path : String) :
    wordOf ("--output=" ++ path) = .long "output" (some path) := by
  have hchars : ("--output=" ++ path).toList =
      '-' :: '-' :: 'o' :: 'u' :: 't' :: 'p' :: 'u' :: 't' :: '=' :: path.toList := by
    rw [String.toList_append]
    rfl
  rw [wordOf, hchars]
  simp

/-- What stands behind the name of the command decides. -/
theorem parse_generateHarness {args : List String} {t : Taken}
    (hread : read (commandSide harnessOptions) ⟨[], [], []⟩ args = .ok (t, []))
    (hoperands : t.operands ≠ []) :
    parse ("generate-harness" :: args) = .ok (invocation ⟨[], [], []⟩ t
      (.generateHarness (t.values.lookup "output") (t.flags.contains "list-tests") t.operands)) := by
  have hname : wordOf "generate-harness" = .operand := by decide
  have hfront : read mainSide ⟨[], [], []⟩ ("generate-harness" :: args) =
      .ok (⟨[], [], []⟩, "generate-harness" :: args) := by
    rw [read, hname]
    rfl
  have hsome : t.operands.isEmpty = false := by simpa using hoperands
  rw [parse, hfront]
  change readCommand ⟨[], [], []⟩ "generate-harness" args = _
  rw [readCommand, hread]
  simp [bind, Except.bind, hsome]
  rfl

theorem asksForList_of_ne_nil (hne : files ≠ []) (hfiles : ∀ f ∈ files, f ≠ "") :
    AsksForList (["generate-harness", "--list-tests", "--"] ++ files) files := by
  have hword : wordOf "--list-tests" = .long "list-tests" none := by decide
  have hvalue : needsValue (commandSide harnessOptions) (.long "list-tests" none) = none := by
    decide
  have htake : takeLong (commandSide harnessOptions) ⟨[], [], []⟩ "list-tests" none =
      .ok ⟨["list-tests"], [], []⟩ := by
    decide
  have hread : read (commandSide harnessOptions) ⟨[], [], []⟩ ("--list-tests" :: "--" :: files) =
      .ok (⟨["list-tests"], [], files⟩, []) := by
    rw [read, hword]
    simp only [hvalue, htake]
    exact read_endOfOptions harnessOptions ⟨["list-tests"], [], []⟩ hfiles
  exact ⟨false, parse_generateHarness hread hne⟩

theorem asksForHarness_of_ne_nil (hpath : path ≠ "") (hne : files ≠ [])
    (hfiles : ∀ f ∈ files, f ≠ "") :
    AsksForHarness (["generate-harness", "--output=" ++ path, "--"] ++ files) path files := by
  have hvalue : needsValue (commandSide harnessOptions) (.long "output" (some path)) = none := rfl
  have htake : takeLong (commandSide harnessOptions) ⟨[], [], []⟩ "output" (some path) =
      .ok ⟨[], [("output", path)], []⟩ := by
    rw [takeLong]
    · simp [Taken.addValue, hpath]
    · decide
  have hread : read (commandSide harnessOptions) ⟨[], [], []⟩
      (("--output=" ++ path) :: "--" :: files) = .ok (⟨[], [("output", path)], files⟩, []) := by
    rw [read, wordOf_output]
    simp only [hvalue, htake]
    exact read_endOfOptions harnessOptions ⟨[], [("output", path)], []⟩ hfiles
  exact ⟨false, parse_generateHarness hread hne⟩

end Arguments

/-! ### The whole program -/

/-- What the program prints and leaves is what its run does. -/
theorem runProgram_of_prints {args : List String} {i : Invocation} {lines : List String}
    {code : Nat} (hparse : Arguments.parse args = .ok i)
    (h : Prints i.perform ⟨d, []⟩ lines e (· = code)) (logSpec : Option String) :
    (runProgram args logSpec d).code = code ∧
      (runProgram args logSpec d).stdout = printed lines ∧
      (runProgram args logSpec d).disk = e := by
  obtain ⟨a, w', hresult, hdisk, hlines, rfl⟩ := h
  have hrun : (i.perform.run.run ⟨d, []⟩).run = (.ok a, w') := hresult
  rw [runProgram, hparse]
  simp only [hrun, true_and]
  refine ⟨?_, hdisk⟩
  rw [stdoutOf_eq, hlines]
  rfl

/-- Without a file of settings the default ones count. -/
theorem prints_perform {verbose : Bool} {output : Option String} {listOnly : Bool}
    {lines : List String} {Q : Nat → Prop}
    (h : ∀ w : World, w.disk = d →
      Prints (generateHarness {} output listOnly files) w lines e Q) :
    Prints (Invocation.perform ⟨verbose, none, .generateHarness output listOnly files⟩) ⟨d, []⟩
      lines e Q := by
  have hsettings : Prints (loadSettings none) ⟨d, []⟩ [] d (· = {}) := prints_pure rfl rfl
  rw [Invocation.perform]
  refine hsettings.bind_silent fun settings w' hdisk hdefault => ?_
  subst hdefault
  exact h w' hdisk

/-- What the two runs have in common, and what each of them does. -/
structure Agree (d : Disk) (files : List String) (path : String) (listed generated : Outcome) :
    Prop where
  code_eq : listed.code = generated.code
  /-- The exit code is zero exactly if every file scans, and else one. -/
  code_zero : listed.code = 0 ↔ ∀ f ∈ files, Scans d f
  code_one : listed.code = 1 ↔ ¬ ∀ f ∈ files, Scans d f
  /-- Listing changes nothing. -/
  unchanged : listed.disk = d
  /-- The lines of the list are the names in the registrations of the program, in order. -/
  names : ∃ program, generated.disk.read path.toList = .ok (Utf8.encode program) ∧
    listed.stdout = printed (Harness.displayNames program)
  /-- Writing the harness changes no other file. -/
  others : Disk.Grows (· = d.aim path.toList) d generated.disk
  silent : generated.stdout = ""

/-- **Listing the tests and writing the harness agree**, for any readable files and any path where
a file can be put: whether some of the files fail to scan or not, and whether there are any test
cases or none.  Every list of files but the empty one can be asked for in both ways; what agrees are
the outcomes of any two command lines that do. -/
theorem listing_agrees_with_generating (hd : d.WellFormed) (hread : ∀ f ∈ files, Readable d f)
    (hwrite : Writable d path) :
    (files ≠ [] → (∃ args, AsksForList args files) ∧ ∃ args, AsksForHarness args path files) ∧
    ∀ args args', AsksForList args files → AsksForHarness args' path files →
      ∀ logSpec logSpec', Agree d files path (runProgram args logSpec d)
        (runProgram args' logSpec' d) := by
  have hnames : ∀ f ∈ files, f ≠ "" := fun f hf => (hread f hf).ne_empty
  refine ⟨fun hne => ⟨⟨_, Arguments.asksForList_of_ne_nil hne hnames⟩,
    ⟨_, Arguments.asksForHarness_of_ne_nil hwrite.ne_empty hne hnames⟩⟩, ?_⟩
  rintro args args' ⟨verbose, hparse⟩ ⟨verbose', hparse'⟩ logSpec logSpec'
  let scan := Harness.discover {} (unitsOf d files)
  let program := Harness.emit {} scan.cases
  obtain ⟨e, hplace⟩ := hwrite.exists_place (Utf8.encode program)
  obtain ⟨hcode, hstdout, hdisk⟩ := runProgram_of_prints hparse
    (prints_perform fun w hw => prints_generateHarness_list {} none hread hw) logSpec
  obtain ⟨hcode', hstdout', hdisk'⟩ := runProgram_of_prints hparse'
    (prints_perform fun w hw => prints_generateHarness_write {} hread hw hplace)
    logSpec'
  obtain ⟨-, hgrows, hnode, hloc⟩ := hd.of_place hplace
  have hplain : ∀ c ∈ scan.cases, c.Plain := Harness.plain_of_mem_discover (by decide)
  have hfailures := isEmpty_failures_iff {} hread
  refine ⟨hcode.trans hcode'.symm, ?_, ?_, hdisk, ⟨program, ?_, ?_⟩, ?_, hstdout'⟩
  · rw [hcode, ← hfailures]
    simp
  · rw [hcode, ← hfailures]
    simp
  · rw [hdisk']
    exact Disk.read_of_node? hloc hnode
  · rw [hstdout, Harness.displayNames_emit hplain]
  · rw [hdisk']
    exact hgrows

/-- Of three files one does not scan and one declares no test case; the harness goes to a directory
that is not there. -/
theorem listing_agrees_with_generating_mixed :
    let d : Disk := ⟨[
      (["a.h"], .file (Utf8.encode "class A : public TestCase \x7b void test_a(); \x7d;")),
      (["b.h"], .file (Utf8.encode "class B : public TestCase \x7b")),
      (["c.h"], .file (Utf8.encode "class C \x7b \x7d;"))], []⟩
    let args := ["generate-harness", "--list-tests", "a.h", "b.h", "c.h"]
    let args' := ["generate-harness", "--output", "out/tests.cpp", "a.h", "b.h", "c.h"]
    (runProgram args none d).code = 1 ∧ (runProgram args none d).stdout = "A::test_a\n" ∧
      Agree d ["a.h", "b.h", "c.h"] "out/tests.cpp" (runProgram args none d)
        (runProgram args' none d) := by
  intro d args args'
  have hd : d.WellFormed := ⟨by decide, by decide⟩
  have hread : ∀ f ∈ ["a.h", "b.h", "c.h"], Readable d f := by
    have hone : ∀ f ∈ ["a.h", "b.h", "c.h"], (d.read f.toList).toOption.isSome = true := by
      decide +kernel
    intro f hf
    rcases hfile : d.read f.toList with cause | bytes
    · have := hone f hf
      rw [hfile] at this
      cases this
    · exact ⟨bytes, hfile⟩
  have hwrite : Writable d "out/tests.cpp" := by
    have hsome : (d.place "out/tests.cpp" []).isSome = true := by decide +kernel
    obtain ⟨e, he⟩ := Option.isSome_iff_exists.mp hsome
    exact ⟨[], e, he⟩
  have hlist : AsksForList args ["a.h", "b.h", "c.h"] := ⟨false, by decide +kernel⟩
  have hharness : AsksForHarness args' "out/tests.cpp" ["a.h", "b.h", "c.h"] :=
    ⟨false, by decide +kernel⟩
  exact ⟨by decide +kernel, by decide +kernel,
    (listing_agrees_with_generating hd hread hwrite).2 args args' hlist hharness none none⟩

end HeaderSurvey
