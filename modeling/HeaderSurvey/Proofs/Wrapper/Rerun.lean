import HeaderSurvey.Proofs.Disk.Again
import HeaderSurvey.Proofs.Wrapper.Walk

/-!
# Running over a tree again

A run over a tree reads what it finds, and that may be what it wrote itself: nothing keeps the
destination out of the source directory.  Then a second run finds more headers than the first one
did (`generateTree_rereads`).

If no generated file is at the place of a header, every header that the run comes to was there at
the start (`clear_of_walk`, which rests on the report only growing), and it is there afterwards.  So
a second run comes to the same headers, writes the same files to the same places, and leaves every
node of the disk as the first run left it (`generateTree_again`), however the two trees overlap.
-/

namespace HeaderSurvey.Wrapper

open Run (Gives Writes)

variable {settings : WrapperSettings} {src dest : String} {root : Location} {before d e : Disk}

/-! ### The report grows -/

/-- What has been generated stays listed. -/
def Report.Extends (report report' : Report) : Prop :=
  report.generated <+: report'.generated

theorem gives_wrapHeader (report : Report) (e : Entry) :
    Gives (wrapHeader settings dest report e) report.Extends := by
  rw [wrapHeader]
  refine Run.gives_bind fun unit => ?_
  cases unit.parse .typesAndRoutines with
  | error cause => exact Run.gives_bind fun _ => Run.gives_pure List.prefix_rfl
  | ok declarations =>
    refine Run.gives_bind fun _ => Run.gives_bind fun _ => Run.gives_bind fun _ => ?_
    exact Run.gives_bind fun _ => Run.gives_pure (List.prefix_append _ _)

theorem gives_walk (depth : ℕ) (report : Report) (entries : List Entry) :
    Gives (walk settings dest depth report entries) report.Extends := by
  induction depth generalizing report entries with
  | zero =>
    cases entries with
    | nil => exact Run.gives_pure List.prefix_rfl
    | cons e entries => exact Run.gives_throw _
  | succ depth ih =>
    rw [walk_succ]
    refine Run.gives_foldlM (R := Report.Extends) (fun _ => List.prefix_rfl)
      (fun h h' => h.trans h') (fun report e => ?_) entries report
    rw [visit]
    split_ifs with hdir hheader
    · exact Run.gives_bind fun d => ih { report with visited := report.visited + 1 } _
    · exact (gives_wrapHeader report e).bind fun report' h => Run.gives_pure h
    · exact (Run.gives_pure List.prefix_rfl : Gives (pure report) report.Extends).bind
        fun report' h => Run.gives_pure h

/-! ### Generated files that are not read -/

/-- Whether the wrapper of a header goes to no place of a header. -/
def Header.Clear (settings : WrapperSettings) (src dest : String) (root : Location) (d : Disk)
    (h : Header) : Prop :=
  ∀ output ∈ h.outputs settings src dest,
    ¬ IsHeaderPlace settings src root (d.aim output.1.toList)

/-- Whether no generated file of the report is at the place of a header. -/
def Report.Clear (settings : WrapperSettings) (src : String) (root : Location) (d : Disk)
    (report : Report) : Prop :=
  ∀ path ∈ report.generated, ¬ IsHeaderPlace settings src root (d.aim path.toList)

theorem Header.Clear.spares {h : Header} {n : Node} (hclear : h.Clear settings src dest root before)
    (hbefore : before.WellFormed) (hn : before.node? (root ++ h.names) = some n) :
    h.Spares settings src dest root before := by
  intro d e hd hplace
  obtain ⟨he, hgrows⟩ := hd.wellFormed.of_placeAll hplace
  refine ⟨he, hd.grows.trans (hgrows.mono ?_), hd.within_of_placeAll hbefore hn hplace⟩
  rintro l ⟨output, houtput, rfl⟩
  rw [Disk.aim_congr hd.grows.workDir]
  exact hclear output houtput

/-- Listed headers that are clear leave the headers alone. -/
theorem spares_of_clear {depth : ℕ} {names : List String} (hbefore : before.WellFormed)
    (hclear : ∀ h ∈ headersAt settings src before root depth names,
      h.Clear settings src dest root before) :
    ∀ h ∈ headersAt settings src before root depth names, h.Spares settings src dest root before :=
  fun h hh => (hclear h hh).spares hbefore ((mem_headersAt hbefore).mp hh).2.2.1

theorem Report.Clear.of_extends {report report' : Report}
    (hclear : report'.Clear settings src root before) (h : report.Extends report') :
    report.Clear settings src root before :=
  fun path hpath => hclear path (h.subset hpath)

/-- The headers whose wrappers are reported are clear if the report is. -/
theorem Reported.clear {report report' : Report} {headers : List Header}
    (hreported : Reported settings src dest headers report report')
    (hclear : report'.Clear settings src root before) :
    ∀ h ∈ headers, h.Clear settings src dest root before := by
  intro h hh output houtput
  refine hclear output.1 ?_
  rw [hreported.generated]
  refine List.mem_append_right _ (List.mem_flatMap.mpr ⟨h, hh, ?_⟩)
  exact List.mem_map_of_mem houtput

variable {report report' : Report} {w w' : World}

/-- What the walk comes to at one entry is clear, if what it comes to below a directory is. -/
theorem clear_of_visit {depth : ℕ} {e : Entry} (hbefore : before.WellFormed)
    (hsrc : before.locate src.toList = .ok root)
    (hbelow : ∀ report entries, (∀ e ∈ entries, e.IsAt src root w.disk) →
      (∀ e ∈ entries, reach before dest < e.names.length + depth) →
      (walk settings dest depth report entries).result w = (.ok report', w') →
        ∀ h ∈ entries.flatMap fun e => headersAt settings src before root depth e.names,
          h.Clear settings src dest root before)
    (hw : Untouched settings src dest root before w.disk) (he : e.IsAt src root w.disk)
    (hdepth : reach before dest < e.names.length + (depth + 1))
    (hresult : (visit settings dest (walk settings dest depth) report e).result w =
      (.ok report', w'))
    (hclear : report'.Clear settings src root before) :
    ∀ h ∈ headersAt settings src before root (depth + 1) e.names,
      h.Clear settings src dest root before := by
  rw [visit] at hresult
  by_cases hdir : e.isDir = true
  · rw [if_pos hdir] at hresult
    obtain ⟨d, w₁, hdisk, hwalk⟩ := Run.exists_of_result_bind hresult
    cases hdisk
    obtain ⟨hchildren, hdeep⟩ := hw.children hsrc he hdir hdepth
    rw [← flatMap_children hbefore hsrc hw he hdir]
    exact hbelow _ _ hchildren hdeep hwalk
  · rw [if_neg hdir] at hresult
    rcases headersAt_of_isAt hsrc hw he hdir depth with
      ⟨hheader, bytes, hread, hheaders⟩ | ⟨-, hheaders⟩
    · rw [if_pos hheader] at hresult
      obtain ⟨report₁, w₁, hfirst, hlast⟩ := Run.exists_of_result_bind hresult
      rw [Run.result_pure] at hlast
      cases hlast
      have hwrap := @writes_wrapHeader settings src dest w report e ⟨e.names, bytes⟩ he.path rfl
        hread
      rw [hheaders]
      exact (hwrap.of_ok hfirst).2.clear hclear
    · rw [hheaders]
      simp

/-- **What the walk comes to is clear** if its report is: no wrapper of these headers goes to the
place of one. -/
theorem clear_of_walk (hbefore : before.WellFormed) (hsrc : before.locate src.toList = .ok root)
    (depth : ℕ) {entries : List Entry} (hw : Untouched settings src dest root before w.disk)
    (hentries : ∀ e ∈ entries, e.IsAt src root w.disk)
    (hdepth : ∀ e ∈ entries, reach before dest < e.names.length + depth)
    (hresult : (walk settings dest depth report entries).result w = (.ok report', w'))
    (hclear : report'.Clear settings src root before) :
    ∀ h ∈ entries.flatMap fun e => headersAt settings src before root depth e.names,
      h.Clear settings src dest root before := by
  induction depth generalizing report report' entries w w' with
  | zero =>
    intro h hh
    obtain ⟨e, -, hnone⟩ := List.mem_flatMap.mp hh
    exact absurd hnone (List.not_mem_nil)
  | succ depth ih =>
    induction entries generalizing report w with
    | nil => simp
    | cons e entries ihEntries =>
      obtain ⟨he, hrest⟩ := List.forall_mem_cons.mp hentries
      obtain ⟨hdeep, hdepth'⟩ := List.forall_mem_cons.mp hdepth
      rw [walk_cons] at hresult
      obtain ⟨report₁, w₁, hfirst, hlater⟩ := Run.exists_of_result_bind hresult
      -- what was reported up to here is still reported in the end
      have hclear₁ := hclear.of_extends (gives_walk _ _ _ _ _ _ hlater)
      have hheaders := clear_of_visit hbefore hsrc
        (fun report entries hentries hdepth hwalk => ih hw hentries hdepth hwalk hclear₁) hw he hdeep
        hfirst hclear₁
      -- so the headers are still as they were before
      obtain ⟨hw₁, hstill⟩ := hw.of_visit hbefore hsrc he hdeep (spares_of_clear hbefore hheaders)
        hfirst
      have hbehind := ihEntries hw₁ (fun e he => hstill e (hrest e he)) hdepth' hlater
      rw [List.flatMap_cons]
      exact List.forall_mem_append.mpr ⟨hheaders, hbehind⟩

/-! ### The second run -/

/-- As long as the headers are untouched, a walk that goes deep enough comes to the same ones. -/
theorem headersAt_eq_of_untouched {depth depth' : ℕ} (hd : d.WellFormed)
    (he : Untouched settings src dest root d e) (hdepth : d.nodes.length < depth)
    (hdepth' : e.nodes.length < depth') :
    headersAt settings src e root depth' [] = headersAt settings src d root depth [] := by
  have hsame : ∀ h : Header, isHeader settings (entryPath src h.names) = true →
      (e.node? (root ++ h.names) = some (.file h.bytes) ↔
        d.node? (root ++ h.names) = some (.file h.bytes)) := fun h hheader =>
    he.grows.files (not_not.mpr ⟨h.names, rfl, hheader⟩) h.bytes
  have hdeep : ∀ {c : Disk} {h : Header} {n : Node}, c.WellFormed →
      c.node? (root ++ h.names) = some n → h.names.length ≤ c.nodes.length := by
    intro c h n hc hn
    have hle := hc.length_le hn
    rw [List.length_append] at hle
    omega
  refine eq_of_pairwise_of_mem_iff (pairwise_headersAt he.wellFormed) (pairwise_headersAt hd)
    fun h => ?_
  rw [mem_headersAt he.wellFormed, mem_headersAt hd, List.length_nil]
  constructor
  · rintro ⟨hpre, -, hfile, hheader⟩
    have hfile' := (hsame h hheader).mp hfile
    have hle := hdeep hd hfile'
    exact ⟨hpre, by omega, hfile', hheader⟩
  · rintro ⟨hpre, -, hfile, hheader⟩
    have hfile' := (hsame h hheader).mpr hfile
    have hle := hdeep he.wellFormed hfile'
    exact ⟨hpre, by omega, hfile', hheader⟩

/-- A run over a tree that does not end in a fault has found its source and walked from there. -/
theorem exists_walk_of_generateTree
    (hrun : (generateTree settings src dest).result w = (.ok report, w')) :
    ∃ root n, w.disk.locate src.toList = .ok root ∧ w.disk.node? root = some n ∧
      (walk settings dest (depthBound w.disk dest) ⟨[], [], 0⟩ [⟨src, [], n = .dir⟩]).result w =
        (.ok report, w') := by
  rw [result_generateTree] at hrun
  cases hlookup : w.disk.lookup src.toList with
  | error cause =>
    rw [hlookup] at hrun
    cases hrun
  | ok n =>
    rw [hlookup] at hrun
    obtain ⟨root, hloc, hnode⟩ := Disk.lookup_eq_ok_iff.mp hlookup
    exact ⟨root, n, hloc, hnode, hrun⟩

/-- Whether a run over the tree at the source takes a file at the path for a header. -/
def IsInput (settings : WrapperSettings) (src : String) (d : Disk) (path : String) : Prop :=
  ∃ root names, d.locate src.toList = .ok root ∧ d.aim path.toList = root ++ names ∧
    isHeader settings (entryPath src names) = true

/-- **Running again.**  If no file that a run over a tree generates is one that such a run takes for
a header, then a second run generates the same files and leaves every node of the disk as the first
one left it.  Nothing is assumed of the places of the source and the destination. -/
theorem generateTree_again (hd : d.WellFormed) {events : List Event} {after : World}
    (hrun : (generateTree settings src dest).result ⟨d, events⟩ = (.ok report, after))
    (hinputs : ∀ path ∈ report.generated, ¬ IsInput settings src d path) :
    ∃ report' after', (generateTree settings src dest).result after = (.ok report', after') ∧
      report'.generated = report.generated ∧
        ∀ loc, after'.disk.node? loc = after.disk.node? loc := by
  obtain ⟨root, n, hsrc, hroot, hwalk⟩ := exists_walk_of_generateTree hrun
  have hreport : report.Clear settings src root d := by
    rintro path hpath ⟨names, haim, hheader⟩
    exact hinputs path hpath ⟨root, names, hsrc, haim, hheader⟩
  -- the first run wrote the wrappers of the headers that were there at the start
  have hclear := clear_of_walk hd hsrc _ (Untouched.refl hd root)
    (by simpa using Entry.isAt_root hroot) (by simpa using reach_lt_depthBound d dest) hwalk hreport
  rw [List.flatMap_singleton] at hclear
  have hspares := spares_of_clear hd hclear
  have hfirst := @writes_generateTree_of_spares settings src dest ⟨d, events⟩ root n hd hsrc hroot
    hspares
  obtain ⟨hplace, hreported⟩ := hfirst.of_ok hrun
  have hafter := (Untouched.refl hd root).placeAll hspares hplace
  -- the second run comes to the same headers
  have hheaders := headersAt_eq_of_untouched hd hafter (length_lt_depthBound d dest)
    (length_lt_depthBound after.disk dest)
  obtain ⟨m, hroot', -⟩ := hafter.grows.exists_node? hroot
  have hsecond := @writes_generateTree_of_spares settings src dest after root m hafter.wellFormed
    (hafter.grows.locate hsrc) hroot' <| spares_of_clear hafter.wellFormed fun h hh => by
      rw [hheaders] at hh
      intro output houtput
      rw [Disk.aim_congr hafter.grows.workDir]
      exact hclear h hh output houtput
  rw [hheaders] at hsecond
  obtain ⟨g, hagain, hsame⟩ := hd.placeAll_again hplace
  obtain ⟨report', after', hrun', rfl, hreported'⟩ := hsecond.exists_result hagain
  exact ⟨report', after', hrun', hreported'.generated.trans hreported.generated.symm, hsame⟩

/-- The destination is the source, and beside the header there is a file at the place of its
wrapper, which is no header. -/
theorem generateTree_again_inside :
    let settings : WrapperSettings := { headerExtensions := ["hpp"] }
    let d : Disk := ⟨[(["src"], .dir),
      (["src", "a.h"], .file (Utf8.encode "class Old \x7b \x7d;\n")),
      (["src", "a.hpp"], .file (Utf8.encode "class A \x7b \x7d;\n"))], []⟩
    ∃ report after report' after',
      (generateTree settings "src" "src").result ⟨d, []⟩ = (.ok report, after) ∧
      report.generated = ["src/a.h", "src/a.cpp"] ∧
      (generateTree settings "src" "src").result after = (.ok report', after') ∧
      report'.generated = report.generated ∧
      ∀ loc, after'.disk.node? loc = after.disk.node? loc := by
  intro settings d
  have hd : d.WellFormed := ⟨by decide, by decide⟩
  have hok : ((generateTree settings "src" "src").result ⟨d, []⟩).1.toOption.map (·.generated) =
      some ["src/a.h", "src/a.cpp"] := by
    decide +kernel
  rcases hrun : (generateTree settings "src" "src").result ⟨d, []⟩ with ⟨fault | report, after⟩
  · rw [hrun] at hok
    cases hok
  · rw [hrun] at hok
    have hgenerated : report.generated = ["src/a.h", "src/a.cpp"] := Option.some.inj hok
    -- the names behind the source are those of the generated files, which end otherwise
    have hinputs : ∀ path ∈ report.generated, ¬ IsInput settings "src" d path := by
      rintro path hpath ⟨root, names, hsrc, haim, hheader⟩
      obtain rfl : ["src"] = root := Except.ok.inj (Eq.trans (by decide) hsrc)
      rw [hgenerated] at hpath
      simp only [List.mem_cons, List.not_mem_nil, or_false] at hpath
      rcases hpath with rfl | rfl
      · have hnames : ["src"] ++ ["a.h"] = ["src"] ++ names := Eq.trans (by decide) haim
        obtain rfl := List.append_cancel_left hnames
        exact absurd hheader (by decide)
      · have hnames : ["src"] ++ ["a.cpp"] = ["src"] ++ names := Eq.trans (by decide) haim
        obtain rfl := List.append_cancel_left hnames
        exact absurd hheader (by decide)
    obtain ⟨report', after', hrun', hsame, hnodes⟩ := generateTree_again hd hrun hinputs
    exact ⟨report, after, report', after', rfl, hgenerated, hrun', hsame, hnodes⟩

/-- The destination is inside the source directory, and the second run takes a wrapper for a
header. -/
theorem generateTree_rereads :
    let d : Disk := ⟨[(["src"], .dir),
      (["src", "a.h"], .file (Utf8.encode "class A \x7b \x7d;\n"))], []⟩
    d.WellFormed ∧ ∃ report after report' after',
      (generateTree {} "src" "src/gen").result ⟨d, []⟩ = (.ok report, after) ∧
      (generateTree {} "src" "src/gen").result after = (.ok report', after') ∧
      report.generated = ["src/gen/a.h", "src/gen/a.cpp"] ∧
      report'.generated =
        ["src/gen/a.h", "src/gen/a.cpp", "src/gen/gen/a.h", "src/gen/gen/a.cpp"] := by
  intro d
  have hok : ((generateTree {} "src" "src/gen").result ⟨d, []⟩).1.toOption.map (·.generated) =
      some ["src/gen/a.h", "src/gen/a.cpp"] := by
    decide +kernel
  have hagain : ((generateTree {} "src" "src/gen").result
      ((generateTree {} "src" "src/gen").result ⟨d, []⟩).2).1.toOption.map (·.generated) =
        some ["src/gen/a.h", "src/gen/a.cpp", "src/gen/gen/a.h", "src/gen/gen/a.cpp"] := by
    decide +kernel
  refine ⟨⟨by decide, by decide⟩, ?_⟩
  rcases hrun : (generateTree {} "src" "src/gen").result ⟨d, []⟩ with ⟨fault | report, after⟩
  · rw [hrun] at hok
    cases hok
  · rw [hrun] at hok hagain
    simp only at hagain
    rcases hrun' : (generateTree {} "src" "src/gen").result after with ⟨fault | report', after'⟩
    · rw [hrun'] at hagain
      cases hagain
    · rw [hrun'] at hagain
      exact ⟨report, after, report', after', rfl, hrun', Option.some.inj hok,
        Option.some.inj hagain⟩

end HeaderSurvey.Wrapper
