import HeaderSurvey.Proofs.Declaration.Renumber
import HeaderSurvey.Proofs.Disk.Depth
import HeaderSurvey.Proofs.Run.Writes
import HeaderSurvey.Proofs.Wrapper.Headers

/-!
# What the walk writes

While the walk goes on, the headers below the source directory are those of the start (`Untouched`),
as long as no wrapper goes to the place of a header (`Header.Spares`).  So whenever the walk comes to
a directory it finds the headers that were there at the start, and it writes their wrappers, in the
order of the listing, and reports those that do not parse (`writes_walk`).  A directory that came
into being meanwhile holds none, and no location gets deeper than the wrappers of these headers lead,
so the walk ends before its depth does (`reach_lt_depthBound`).  If the destination is apart from the
source directory, no wrapper goes there (`Header.IsIn.spares`).
-/

namespace HeaderSurvey.Wrapper

open Run (Writes)

/-! ### Headers and their wrappers -/

namespace Header

variable (settings : WrapperSettings) (src dest : String) (h : Header)

/-- The path of the header below the source directory. -/
def relative : String :=
  "/".intercalate h.names

/-- The header as a unit. -/
def unit (fileId : ℕ) : SourceUnit :=
  .ofBytes (entryPath src h.names) fileId h.bytes

/-- Whether the text of the header parses. -/
def parses : Bool :=
  (h.unit src 0).parse .typesAndRoutines matches .ok _

/-- The files of the wrapper of the header, if it parses. -/
def outputs : List (String × List UInt8) :=
  match (h.unit src 0).parse .typesAndRoutines with
  | .error _ => []
  | .ok d =>
    [(headerPath dest h.relative, Utf8.encode (emitHeader settings d.types)),
      (sourcePath (headerPath dest h.relative),
        Utf8.encode (emitSource settings d.types h.relative))]

end Header

/-- What a report says after some headers, beyond what it said before. -/
structure Reported (settings : WrapperSettings) (src dest : String) (headers : List Header)
    (before after : Report) : Prop where
  generated : after.generated = before.generated ++
    headers.flatMap fun h => (h.outputs settings src dest).map (·.1)
  failures : ∃ failures, after.failures = before.failures ++ failures ∧
    (failures.map fun f => (f.unit.path, f.unit.text)) =
      ((headers.filter (!·.parses src)).map fun h => ((h.unit src 0).path, (h.unit src 0).text)) ∧
    ∀ f ∈ failures, f.unit.parse .typesAndRoutines = .error f.error

namespace Reported

variable {settings : WrapperSettings} {src dest : String} {headers headers' : List Header}
  {r r' r'' : Report}

/-- A report that says the same. -/
theorem nil (hgenerated : r'.generated = r.generated) (hfailures : r'.failures = r.failures) :
    Reported settings src dest [] r r' :=
  ⟨by simp [hgenerated], [], by simp [hfailures], rfl, by simp⟩

theorem append (h : Reported settings src dest headers r r')
    (h' : Reported settings src dest headers' r' r'') :
    Reported settings src dest (headers ++ headers') r r'' := by
  obtain ⟨fs, hfs, hmap, herror⟩ := h.failures
  obtain ⟨fs', hfs', hmap', herror'⟩ := h'.failures
  refine ⟨?_, fs ++ fs', ?_, ?_, fun f hf => ?_⟩
  · rw [h'.generated, h.generated, List.append_assoc, List.flatMap_append]
  · rw [hfs', hfs, List.append_assoc]
  · rw [List.map_append, hmap, hmap', List.filter_append, List.map_append]
  · rcases List.mem_append.mp hf with hf | hf
    · exact herror f hf
    · exact herror' f hf

end Reported

variable {settings : WrapperSettings} {src dest : String} {w : World} {report : Report}

/-! ### One header -/

/-- The wrapper depends on the types by their names alone. -/
theorem emit_renumber (d : Declarations) (n : ℕ) (header : String) :
    emitHeader settings (d.renumber n).types = emitHeader settings d.types ∧
      emitSource settings (d.renumber n).types header = emitSource settings d.types header := by
  have htypes : (d.renumber n).types = d.types.map (TypeDecl.renumber n) := rfl
  have hheader : ∀ t : TypeDecl, headerLines settings (t.renumber n) = headerLines settings t :=
    fun t => rfl
  have hsource : ∀ t : TypeDecl, sourceLines settings (t.renumber n) = sourceLines settings t :=
    fun t => rfl
  rw [emitHeader, emitHeader, emitSource, emitSource, htypes, List.flatMap_map, List.flatMap_map]
  simp only [hheader, hsource, and_self]

/-- The walk writes the wrapper of a header, or reports that it does not parse. -/
theorem writes_wrapHeader {e : Entry} {h : Header} (hpath : e.path = entryPath src h.names)
    (hnames : e.names = h.names) (hread : w.disk.read e.path.toList = .ok h.bytes) :
    Writes (wrapHeader settings dest report e) w (h.outputs settings src dest)
      (Reported settings src dest [h] report) := by
  have hrelative : e.relative = h.relative := by
    rw [Entry.relative, hnames, Header.relative]
  rw [wrapHeader]
  -- the unit bears the number of the entry, on which neither the parse nor the wrapper depends
  refine (Run.writes_loadUnit report.visited hread).bind_nil fun unit w' hunit _ => ?_
  have hrenumber : unit = (h.unit src 0).renumber report.visited := by
    rw [hunit, hpath]
    rfl
  have hparse := (h.unit src 0).parse_renumber report.visited .typesAndRoutines
  rw [← hrenumber] at hparse
  cases horiginal : (h.unit src 0).parse .typesAndRoutines with
  | error cause =>
    rw [horiginal] at hparse
    simp only at hparse
    -- the header is reported, and nothing is written for it
    have hfails : h.parses src = false := by
      rw [Header.parses, horiginal]
    have houtputs : h.outputs settings src dest = [] := by
      rw [Header.outputs, horiginal]
    rw [houtputs, hparse]
    refine (Run.writes_log _).bind_nil fun _ w'' _ _ => Writes.pure ⟨?_, _, rfl, ?_, ?_⟩
    · simp [houtputs]
    · simp only [List.map_cons, List.map_nil, List.filter_cons, hfails, Bool.not_false, if_true,
        List.filter_nil, hrenumber]
      rfl
    · intro f hf
      rw [List.mem_singleton.mp hf]
      exact hparse
  | ok d =>
    rw [horiginal] at hparse
    simp only at hparse
    have hparses : h.parses src = true := by
      rw [Header.parses, horiginal]
    obtain ⟨hheader, hsource⟩ :=
      @emit_renumber settings d report.visited h.relative
    have houtputs : h.outputs settings src dest =
        [(headerPath dest h.relative, Utf8.encode (emitHeader settings d.types))] ++
          [(sourcePath (headerPath dest h.relative),
            Utf8.encode (emitSource settings d.types h.relative))] := by
      rw [Header.outputs, horiginal]
      rfl
    rw [hparse, houtputs, hrelative]
    simp only
    rw [hheader, hsource]
    refine (Run.writes_log _).bind_nil fun _ w₁ _ _ => ?_
    refine (Run.writes_writeOutput _ _).bind fun _ w₂ _ _ => ?_
    refine (Run.writes_writeOutput _ _).bind_pure fun _ w₃ _ => ?_
    refine (Run.writes_log _).bind_nil fun _ w₄ _ _ => Writes.pure ⟨?_, [], ?_, ?_, by simp⟩
    · simp [houtputs]
    · simp
    · simp [hparses]

/-! ### The places of wrappers -/

/-- The files of the wrapper of a header, at the places to which its names lead. -/
def Header.wrapper (settings : WrapperSettings) (src dest : String) (h : Header) :
    List (String × List UInt8) :=
  match (h.unit src 0).parse .typesAndRoutines with
  | .error _ => []
  | .ok d =>
    [(outputPath dest h.names "h", Utf8.encode (emitHeader settings d.types)),
      (outputPath dest h.names "cpp", Utf8.encode (emitSource settings d.types h.relative))]

/-- A file below the directory at `root` with the extension of a header. -/
structure Header.IsIn (settings : WrapperSettings) (d : Disk) (root : Location) (h : Header) :
    Prop where
  file : d.node? (root ++ h.names) = some (.file h.bytes)
  extension : HasHeaderExtension settings h.names

theorem IsListing.mem_iff_isIn {d : Disk} {root : Location} {headers : List Header} {h : Header}
    (hlisting : IsListing settings d root headers) :
    h ∈ headers ↔ h.IsIn settings d root :=
  (hlisting.mem_iff h).trans ⟨fun ⟨hfile, hextension⟩ => ⟨hfile, hextension⟩,
    fun hin => ⟨hin.file, hin.extension⟩⟩

namespace Header

variable {d e : Disk} {root : Location} {h : Header}

/-- The names lead to one header. -/
theorem IsIn.eq_of_names {g : Header} (hg : g.IsIn settings d root) (hh : h.IsIn settings d root)
    (hnames : g.names = h.names) : g = h := by
  have hfile := hg.file
  rw [hnames, hh.file] at hfile
  obtain ⟨names, bytes⟩ := g
  obtain ⟨names', bytes'⟩ := h
  obtain rfl : names = names' := hnames
  obtain rfl : bytes' = bytes := Node.file.inj (Option.some.inj hfile)
  rfl

theorem IsIn.isNodeName (hd : d.WellFormed) (hin : h.IsIn settings d root) {name : String}
    (hname : name ∈ h.names) : IsNodeName name :=
  hd.isNodeName hin.file (List.mem_append_right _ hname)

/-- The names of a header, with the extension of the last one. -/
theorem IsIn.exists_names (hd : d.WellFormed) (hin : h.IsIn settings d root) :
    ∃ dir stem old, h.names = dir ++ [stem ++ "." ++ old] ∧ stem ≠ "" ∧ '.' ∉ old.toList ∧
      (∀ name ∈ dir, IsNodeName name) ∧ IsNodeName (stem ++ "." ++ old) := by
  obtain ⟨dir, stem, old, hnames, hstem, hold, -⟩ := hin.extension
  exact ⟨dir, stem, old, hnames, hstem, hold,
    fun name hmem => hin.isNodeName hd (by simp [hnames, hmem]),
    hin.isNodeName hd (by simp [hnames])⟩

/-- The names of a wrapper are names. -/
theorem IsIn.isNodeName_renamed (hd : d.WellFormed) (hin : h.IsIn settings d root)
    {extension : String} (hextension : IsExtension extension) :
    (∀ name ∈ renamed h.names extension, IsNodeName name) ∧ renamed h.names extension ≠ [] := by
  obtain ⟨dir, stem, old, hnames, hstem, hold, hdir, hname⟩ := hin.exists_names hd
  rw [hnames, renamed_append dir hstem hold]
  refine ⟨fun name hmem => ?_, by simp⟩
  rcases List.mem_append.mp hmem with hmem | hmem
  · exact hdir name hmem
  · rw [List.mem_singleton.mp hmem]
    exact hextension.isNodeName_dotted hname

/-- The two files of a wrapper. -/
theorem path_of_mem_wrapper {output : String × List UInt8}
    (houtput : output ∈ h.wrapper settings src dest) :
    output.1 = outputPath dest h.names "h" ∨ output.1 = outputPath dest h.names "cpp" := by
  rw [wrapper] at houtput
  cases hparse : (h.unit src 0).parse .typesAndRoutines with
  | error cause => simp [hparse] at houtput
  | ok declarations =>
    simp only [hparse, List.mem_cons, List.not_mem_nil, or_false] at houtput
    exact houtput.imp (congrArg Prod.fst) (congrArg Prod.fst)

/-- The names of a wrapper lead below the destination. -/
theorem IsIn.aim_output (hd : d.WellFormed) (hin : h.IsIn settings d root) (e : Disk)
    {output : String × List UInt8} (houtput : output ∈ h.wrapper settings src dest) :
    ∃ extension, output.1 = outputPath dest h.names extension ∧
      e.aim output.1.toList = e.aim dest.toList ++ renamed h.names extension := by
  obtain ⟨hnames, hne⟩ := hin.isNodeName_renamed hd isExtension_h
  obtain ⟨hnames', hne'⟩ := hin.isNodeName_renamed hd isExtension_cpp
  rcases path_of_mem_wrapper houtput with hpath | hpath
  · exact ⟨"h", hpath, hpath ▸ aim_outputPath hnames hne⟩
  · exact ⟨"cpp", hpath, hpath ▸ aim_outputPath hnames' hne'⟩

/-- If the wrapper of a header can be put at all, it goes to its places. -/
theorem IsIn.outputs_eq (hd : d.WellFormed) (hin : h.IsIn settings d root) (he : e.WellFormed)
    {f : Disk} (hplace : e.placeAll (h.outputs settings src dest) = some f) :
    h.outputs settings src dest = h.wrapper settings src dest := by
  obtain ⟨dir, stem, old, hnames, hstem, hold, hdir, hname⟩ := hin.exists_names hd
  rw [outputs, wrapper] at *
  cases hparse : (h.unit src 0).parse .typesAndRoutines with
  | error cause => rfl
  | ok declarations =>
    rw [hparse] at hplace
    simp only at hplace ⊢
    -- the wrapper of a header with a dot for a stem cannot be put anywhere
    have hdot : stem ≠ "." := by
      rintro rfl
      rw [Disk.placeAll_cons, relative, hnames,
        place_headerPath_of_dot he hdir hname hold] at hplace
      cases hplace
    obtain ⟨hheader, hsource⟩ := @headerPath_eq dest _ _ _ hdir hname hstem hdot hold
    rw [relative, hnames, hsource, hheader]

/-- The paths of a wrapper have at most one slash for each character of the destination and for each
name of its header, and one more. -/
theorem count_of_mem_outputs {output : String × List UInt8}
    (hnames : ∀ name ∈ h.names, IsNodeName name)
    (houtput : output ∈ h.outputs settings src dest) :
    output.1.toList.count '/' ≤ dest.length + h.names.length + 1 := by
  obtain ⟨hheader, hsource⟩ := count_wrapperPaths dest hnames
  rw [outputs] at houtput
  split at houtput
  · cases houtput
  · rcases List.mem_cons.mp houtput with rfl | houtput
    · exact hheader
    · rw [List.mem_singleton.mp houtput]
      exact hsource

end Header

/-! ### The disk during the walk -/

/-- Neither of the locations is the other one or below it. -/
def Apart (l l' : Location) : Prop :=
  ¬ l <+: l' ∧ ¬ l' <+: l

instance (l l' : Location) : Decidable (Apart l l') :=
  inferInstanceAs (Decidable (_ ∧ _))

section Walk

variable {root : Location} {before : Disk}

/-- The wrappers of headers go to their places, outside the source directory, if the destination is
apart from it. -/
theorem outputs_eq_of_apart (hbefore : before.WellFormed)
    (hapart : Apart root (before.aim dest.toList)) {d e : Disk} (hd : d.WellFormed)
    (hworkDir : d.workDir = before.workDir) {headers : List Header}
    (hin : ∀ h ∈ headers, h.IsIn settings before root)
    (hplace : d.placeAll (headers.flatMap (·.outputs settings src dest)) = some e) :
    headers.flatMap (·.outputs settings src dest) = headers.flatMap (·.wrapper settings src dest) ∧
      d.Grows (fun l => ¬ root <+: l) e := by
  induction headers generalizing d with
  | nil =>
    obtain rfl := Option.some.inj hplace
    exact ⟨rfl, Disk.Grows.refl _ _⟩
  | cons h headers ih =>
    obtain ⟨hh, hrest⟩ := List.forall_mem_cons.mp hin
    rw [List.flatMap_cons, Disk.placeAll_append] at hplace
    obtain ⟨f, hfirst, hbehind⟩ := Option.bind_eq_some_iff.mp hplace
    have heq := hh.outputs_eq hbefore hd hfirst
    rw [heq] at hfirst
    obtain ⟨hf, hgrows⟩ := hd.of_placeAll hfirst
    have hgrows' : d.Grows (fun l => ¬ root <+: l) f := by
      refine hgrows.mono ?_
      rintro l ⟨output, houtput, rfl⟩ hroot
      obtain ⟨extension, -, haim⟩ := hh.aim_output hbefore d houtput
      rw [haim, Disk.aim_congr hworkDir] at hroot
      -- the destination would be below the source directory, or above it
      rcases List.prefix_or_prefix_of_prefix hroot (List.prefix_append _ _) with h | h
      · exact hapart.1 h
      · exact hapart.2 h
    obtain ⟨heq', hgrows''⟩ := ih hf (hgrows.workDir.trans hworkDir) hrest hbehind
    refine ⟨?_, hgrows'.trans hgrows''⟩
    rw [List.flatMap_cons, List.flatMap_cons, heq, heq']

/-- A place at which the walk takes a file for a header. -/
def IsHeaderPlace (settings : WrapperSettings) (src : String) (root loc : Location) : Prop :=
  ∃ names, loc = root ++ names ∧ isHeader settings (entryPath src names) = true

/-- How deep a location can be while the headers of a disk are wrapped. -/
def reach (d : Disk) (dest : String) : ℕ :=
  d.workDir.length + d.nodes.length + dest.length + 2

/-- The headers below the source directory are those that were there before, and no location is
deeper than their wrappers lead. -/
structure Untouched (settings : WrapperSettings) (src dest : String) (root : Location)
    (before d : Disk) : Prop where
  wellFormed : d.WellFormed
  grows : before.Grows (fun l => ¬ IsHeaderPlace settings src root l) d
  within : d.Within (reach before dest)

theorem Untouched.refl (hbefore : before.WellFormed) (root : Location) :
    Untouched settings src dest root before before := by
  refine ⟨hbefore, Disk.Grows.refl _ _, fun loc n hn => ?_⟩
  have hle := hbefore.length_le hn
  rw [reach]
  omega

/-- The wrapper of a header leads no deeper than this. -/
theorem Untouched.within_of_placeAll {d e : Disk} {h : Header} {n : Node}
    (hbefore : before.WellFormed) (hd : Untouched settings src dest root before d)
    (hn : before.node? (root ++ h.names) = some n)
    (hplace : d.placeAll (h.outputs settings src dest) = some e) :
    e.Within (reach before dest) := by
  refine hd.within.placeAll (fun output houtput => ?_) hplace
  have hcount := Header.count_of_mem_outputs
    (fun name hname => hbefore.isNodeName hn (List.mem_append_right _ hname)) houtput
  have hle := hbefore.length_le hn
  rw [List.length_append] at hle
  rw [hd.grows.workDir, reach]
  omega

/-- Whether the wrapper of a header leaves the headers as they were before. -/
def Header.Spares (settings : WrapperSettings) (src dest : String) (root : Location)
    (before : Disk) (h : Header) : Prop :=
  ∀ d e, Untouched settings src dest root before d →
    d.placeAll (h.outputs settings src dest) = some e → Untouched settings src dest root before e

theorem Untouched.placeAll {d e : Disk} {headers : List Header}
    (hd : Untouched settings src dest root before d)
    (hspares : ∀ h ∈ headers, h.Spares settings src dest root before)
    (hplace : d.placeAll (headers.flatMap (·.outputs settings src dest)) = some e) :
    Untouched settings src dest root before e := by
  induction headers generalizing d with
  | nil =>
    obtain rfl := Option.some.inj hplace
    exact hd
  | cons h headers ih =>
    obtain ⟨hh, hrest⟩ := List.forall_mem_cons.mp hspares
    rw [List.flatMap_cons, Disk.placeAll_append] at hplace
    obtain ⟨f, hfirst, hbehind⟩ := Option.bind_eq_some_iff.mp hplace
    exact ih (hh d f hd hfirst) hrest hbehind

/-- Wrappers leave the headers alone if the destination is apart from the source directory. -/
theorem Header.IsIn.spares {h : Header} (hin : h.IsIn settings before root)
    (hbefore : before.WellFormed) (hapart : Apart root (before.aim dest.toList)) :
    h.Spares settings src dest root before := by
  intro d e hd hplace
  have hwithin := hd.within_of_placeAll hbefore hin.file hplace
  have hone : ∀ g ∈ [h], g.IsIn settings before root := by simpa using hin
  rw [← List.flatMap_singleton (f := fun g : Header => g.outputs settings src dest)] at hplace
  have hgrows := (outputs_eq_of_apart hbefore hapart hd.wellFormed hd.grows.workDir hone hplace).2
  refine ⟨(hd.wellFormed.of_placeAll hplace).1, hd.grows.trans (hgrows.mono fun l hl => ?_), hwithin⟩
  rintro ⟨names, rfl, -⟩
  exact hl (List.prefix_append _ _)

/-- The entry stands for the node to which its names lead. -/
structure Entry.IsAt (src : String) (root : Location) (d : Disk) (e : Entry) : Prop where
  path : e.path = entryPath src e.names
  node : ∃ n, d.node? (root ++ e.names) = some n ∧ (e.isDir = true ↔ n = .dir)

theorem Entry.isAt_root {d : Disk} {n : Node} (hroot : d.node? root = some n) :
    (⟨src, [], n = .dir⟩ : Entry).IsAt src root d :=
  ⟨rfl, n, by rwa [List.append_nil], by simp⟩

theorem Entry.IsAt.of_grows {d d' : Disk} {e : Entry} {P : Location → Prop}
    (he : e.IsAt src root d) (hgrows : d.Grows P d') : e.IsAt src root d' := by
  obtain ⟨n, hn, hdir⟩ := he.node
  obtain ⟨m, hm, hkind⟩ := hgrows.exists_node? hn
  exact ⟨he.path, m, hm, hdir.trans hkind.symm⟩

/-- The entries of a directory. -/
theorem Entry.IsAt.children {d : Disk} {e : Entry} (hd : d.WellFormed)
    (hsrc : d.locate src.toList = .ok root) (he : e.IsAt src root d)
    (hdir : d.node? (root ++ e.names) = some .dir) :
    (e.children d).map (·.names) = (d.childNames (root ++ e.names)).map (e.names ++ [·]) ∧
      ∀ c ∈ e.children d, c.IsAt src root d := by
  have hloc : d.locate e.path.toList = .ok (root ++ e.names) := by
    rw [he.path]
    exact locate_entryPath hd hsrc hdir
  have hlist : d.list e.path.toList = .ok (d.childNames (root ++ e.names)) := by
    rw [Disk.list, hloc]
    simp [hdir]
  rw [Entry.children, hlist]
  refine ⟨by simp [Function.comp_def], fun c hc => ?_⟩
  obtain ⟨name, hname, rfl⟩ := List.mem_map.mp hc
  obtain ⟨n, hn⟩ := Disk.mem_childNames.mp hname
  have hpath : String.ofList (Path.join e.path.toList name.toList) =
      entryPath src (e.names ++ [name]) := by
    rw [entryPath_append_singleton, he.path]
  have hchild : d.locate (Path.join e.path.toList name.toList) =
      .ok (root ++ e.names ++ [name]) :=
    Disk.locate_join hloc hdir (hd.isNodeName hn (by simp))
  refine ⟨hpath, n, by rw [← List.append_assoc]; exact hn, ?_⟩
  rw [Disk.isDir_iff_locate]
  constructor
  · rintro ⟨l, hl, hnode⟩
    rw [hchild] at hl
    rw [← Except.ok.inj hl, hn] at hnode
    exact Option.some.inj hnode
  · rintro rfl
    exact ⟨_, hchild, hn⟩

theorem Entry.length_names_of_mem_children {d : Disk} {e c : Entry} (hc : c ∈ e.children d) :
    c.names.length = e.names.length + 1 := by
  rw [Entry.children] at hc
  split at hc
  · cases hc
  · obtain ⟨name, -, rfl⟩ := List.mem_map.mp hc
    exact List.length_append

/-- The entries of a directory stand for their nodes, and the walk may still go as deep as the wrappers
of the headers lead. -/
theorem Untouched.children {d : Disk} {e : Entry} {depth : ℕ}
    (hsrc : before.locate src.toList = .ok root) (hd : Untouched settings src dest root before d)
    (he : e.IsAt src root d) (hdir : e.isDir = true)
    (hdepth : reach before dest < e.names.length + (depth + 1)) :
    (∀ c ∈ e.children d, c.IsAt src root d) ∧
      ∀ c ∈ e.children d, reach before dest < c.names.length + depth := by
  obtain ⟨n, hn, hiff⟩ := he.node
  obtain rfl := hiff.mp hdir
  refine ⟨(he.children hd.wellFormed (hd.grows.locate hsrc) hn).2, fun c hc => ?_⟩
  rw [Entry.length_names_of_mem_children hc]
  omega

/-- No entry is deeper than the wrappers of the headers lead. -/
theorem Untouched.entries_eq_nil {d : Disk} {entries : List Entry}
    (hd : Untouched settings src dest root before d)
    (hentries : ∀ e ∈ entries, e.IsAt src root d)
    (hdepth : ∀ e ∈ entries, reach before dest < e.names.length) : entries = [] := by
  refine List.eq_nil_iff_forall_not_mem.mpr fun e he => ?_
  obtain ⟨n, hn, -⟩ := (hentries e he).node
  have hle := hd.within hn
  have hlt := hdepth e he
  rw [List.length_append] at hle
  omega

/-- Whatever directories came into being, the headers below a directory are those that were there
before. -/
theorem flatMap_children {d : Disk} {e : Entry} {depth : ℕ} (hbefore : before.WellFormed)
    (hsrc : before.locate src.toList = .ok root) (hd : Untouched settings src dest root before d)
    (he : e.IsAt src root d) (hdir : e.isDir = true) :
    ((e.children d).flatMap fun c => headersAt settings src before root depth c.names) =
      headersAt settings src before root (depth + 1) e.names := by
  obtain ⟨n, hn, hiff⟩ := he.node
  obtain rfl := hiff.mp hdir
  have hnames := (he.children hd.wellFormed (hd.grows.locate hsrc) hn).1
  have hsub : ∀ name ∈ before.childNames (root ++ e.names),
      name ∈ d.childNames (root ++ e.names) := by
    intro name hname
    obtain ⟨m, hm⟩ := Disk.mem_childNames.mp hname
    obtain ⟨m', hm', -⟩ := hd.grows.exists_node? hm
    exact Disk.mem_childNames.mpr ⟨m', hm'⟩
  have hchildren : ((e.children d).flatMap fun c =>
      headersAt settings src before root depth c.names) =
        (before.childNames (root ++ e.names)).flatMap fun name =>
          headersAt settings src before root depth (e.names ++ [name]) := by
    rw [← Disk.flatMap_childNames hsub, ← List.flatMap_map (f := (e.names ++ [·])), ← hnames,
      List.flatMap_map]
    · intro name hname
      refine headersAt_of_none ?_
      rw [← List.append_assoc]
      by_contra hnode
      obtain ⟨m, hm⟩ := Option.ne_none_iff_exists'.mp hnode
      exact hname (Disk.mem_childNames.mpr ⟨m, hm⟩)
  rw [hchildren]
  -- the directory was there at the start, or it came into being and there is nothing to be listed
  cases hold : before.node? (root ++ e.names) with
  | none =>
    rw [headersAt_of_none hold]
    refine List.flatMap_eq_nil_iff.mpr fun name hname => ?_
    -- nothing was below a directory that was not there
    obtain ⟨m, hm⟩ := Disk.mem_childNames.mp hname
    rw [hbefore.isDir_of_prefix (List.cons_ne_nil name []) hm] at hold
    cases hold
  | some m =>
    cases m with
    | dir => rw [headersAt_of_dir hold]
    | file bytes =>
      obtain ⟨bytes', hstill⟩ := hd.grows.stays hold
      rw [hn] at hstill
      cases hstill

/-! ### The walk -/

theorem walk_nil (depth : ℕ) (report : Report) :
    walk settings dest depth report [] = pure report := by
  cases depth <;> rfl

theorem walk_succ (depth : ℕ) (report : Report) (entries : List Entry) :
    walk settings dest (depth + 1) report entries =
      entries.foldlM (visit settings dest (walk settings dest depth)) report :=
  rfl

theorem walk_cons (depth : ℕ) (report : Report) (e : Entry) (entries : List Entry) :
    walk settings dest (depth + 1) report (e :: entries) =
      visit settings dest (walk settings dest depth) report e >>= fun report =>
        walk settings dest (depth + 1) report entries :=
  List.foldlM_cons ..

theorem walk_singleton (depth : ℕ) (report : Report) (e : Entry) :
    walk settings dest (depth + 1) report [e] =
      visit settings dest (walk settings dest depth) report e := by
  rw [walk_cons]
  exact bind_pure _

/-- The listed headers are in the directory. -/
theorem isIn_headersAt (hbefore : before.WellFormed) (hroot : before.node? root = some .dir)
    {depth : ℕ} {names : List String} :
    ∀ h ∈ headersAt settings src before root depth names, h.IsIn settings before root := by
  intro h hh
  obtain ⟨-, -, hfile, hheader⟩ := (mem_headersAt hbefore).mp hh
  have hne : h.names ≠ [] := by
    intro hnil
    rw [hnil, List.append_nil, hroot] at hfile
    cases hfile
  exact ⟨hfile, (isHeader_entryPath (fun name hname =>
    hbefore.isNodeName hfile (List.mem_append_right _ hname)) hne).mp hheader⟩

/-- A file that the walk comes to is the header that was there before, or there is none. -/
theorem headersAt_of_isAt {d : Disk} {e : Entry} (hsrc : before.locate src.toList = .ok root)
    (hd : Untouched settings src dest root before d) (he : e.IsAt src root d)
    (hdir : ¬ e.isDir = true)
    (depth : ℕ) :
    (isHeader settings e.path = true ∧ ∃ bytes, d.read e.path.toList = .ok bytes ∧
        headersAt settings src before root (depth + 1) e.names = [⟨e.names, bytes⟩]) ∨
      (¬ isHeader settings e.path = true ∧
        headersAt settings src before root (depth + 1) e.names = []) := by
  obtain ⟨n, hn, hiff⟩ := he.node
  rw [he.path]
  cases n with
  | dir => exact absurd (hiff.mpr rfl) hdir
  | file bytes =>
    by_cases hheader : isHeader settings (entryPath src e.names) = true
    · have hloc := locate_entryPath hd.wellFormed (hd.grows.locate hsrc) hn
      have hfile : before.node? (root ++ e.names) = some (.file bytes) :=
        (hd.grows.files (not_not.mpr ⟨e.names, rfl, hheader⟩) bytes).mp hn
      exact Or.inl ⟨hheader, bytes, Disk.read_of_node? hloc hn,
        by rw [headersAt_of_file hfile, if_pos hheader]⟩
    · refine Or.inr ⟨hheader, ?_⟩
      -- a file may have come into being meanwhile, but not in place of a directory
      cases hnode : before.node? (root ++ e.names) with
      | none => exact headersAt_of_none hnode
      | some m =>
        cases m with
        | dir =>
          rw [hd.grows.dirs hnode] at hn
          cases hn
        | file bytes' => rw [headersAt_of_file hnode, if_neg hheader]

/-- The walk over entries writes the wrappers of the headers at them and below, if what it does at
each of them is that. -/
theorem writes_foldlM {depth : ℕ}
    (hvisit : ∀ report e w, Untouched settings src dest root before w.disk →
      e.IsAt src root w.disk → reach before dest < e.names.length + (depth + 1) →
      (∀ h ∈ headersAt settings src before root (depth + 1) e.names,
        h.Spares settings src dest root before) →
      Writes (visit settings dest (walk settings dest depth) report e) w
        ((headersAt settings src before root (depth + 1) e.names).flatMap
          (·.outputs settings src dest))
        (Reported settings src dest (headersAt settings src before root (depth + 1) e.names)
          report))
    {entries : List Entry} (hw : Untouched settings src dest root before w.disk)
    (hentries : ∀ e ∈ entries, e.IsAt src root w.disk)
    (hdepth : ∀ e ∈ entries, reach before dest < e.names.length + (depth + 1))
    (hspares : ∀ h ∈ entries.flatMap fun e =>
      headersAt settings src before root (depth + 1) e.names,
        h.Spares settings src dest root before) :
    Writes (entries.foldlM (visit settings dest (walk settings dest depth)) report) w
      ((entries.flatMap fun e => headersAt settings src before root (depth + 1) e.names).flatMap
        (·.outputs settings src dest))
      (Reported settings src dest
        (entries.flatMap fun e => headersAt settings src before root (depth + 1) e.names)
        report) := by
  induction entries generalizing report w with
  | nil => exact Writes.pure (Reported.nil rfl rfl)
  | cons e entries ih =>
    obtain ⟨he, hrest⟩ := List.forall_mem_cons.mp hentries
    obtain ⟨hdeep, hdepth'⟩ := List.forall_mem_cons.mp hdepth
    rw [List.flatMap_cons] at hspares
    obtain ⟨hfirst, hlater⟩ := List.forall_mem_append.mp hspares
    rw [List.foldlM_cons, List.flatMap_cons, List.flatMap_append]
    refine (hvisit report e w hw he hdeep hfirst).bind fun report' w' hreported hplace => ?_
    -- the wrappers written so far leave the entries behind this one as they are
    have hgrows := (hw.wellFormed.of_placeAll hplace).2
    have hbehind := @ih w' report' (hw.placeAll hfirst hplace)
      (fun e he => (hrest e he).of_grows hgrows) hdepth' hlater
    exact hbehind.mono fun report'' hreported' => hreported.append hreported'

/-- **What the walk writes**: the wrappers of the headers at its entries and below, as long as these
wrappers leave the headers alone.  The walk may go deep enough for all entries that there can be. -/
theorem writes_walk (hbefore : before.WellFormed) (hsrc : before.locate src.toList = .ok root)
    (depth : ℕ) {entries : List Entry} (hw : Untouched settings src dest root before w.disk)
    (hentries : ∀ e ∈ entries, e.IsAt src root w.disk)
    (hdepth : ∀ e ∈ entries, reach before dest < e.names.length + depth)
    (hspares : ∀ h ∈ entries.flatMap fun e => headersAt settings src before root depth e.names,
      h.Spares settings src dest root before) :
    Writes (walk settings dest depth report entries) w
      ((entries.flatMap fun e => headersAt settings src before root depth e.names).flatMap
        (·.outputs settings src dest))
      (Reported settings src dest
        (entries.flatMap fun e => headersAt settings src before root depth e.names) report) := by
  induction depth generalizing report entries w with
  | zero =>
    obtain rfl := hw.entries_eq_nil hentries hdepth
    exact Writes.pure (Reported.nil rfl rfl)
  | succ depth ih =>
    rw [walk_succ]
    refine writes_foldlM (fun report e w hw he hdeep hspares => ?_) hw hentries hdepth hspares
    rw [visit]
    by_cases hdir : e.isDir = true
    · -- the entries are listed now, and the headers behind them are those of the start
      rw [← flatMap_children hbefore hsrc hw he hdir] at hspares
      rw [if_pos hdir, ← flatMap_children hbefore hsrc hw he hdir]
      refine Run.writes_disk.bind_nil fun d w' hd hsame => ?_
      obtain ⟨hchildren, hdeep'⟩ := hw.children hsrc he hdir hdeep
      rw [hd]
      rw [← hsame] at hw hchildren hdeep' hspares
      have hbelow := @ih w' { report with visited := report.visited + 1 } _ hw hchildren hdeep'
        hspares
      rw [hsame] at hbelow
      refine hbelow.mono fun report' hreported => ?_
      have hstart : Reported settings src dest [] report
          { report with visited := report.visited + 1 } := Reported.nil rfl rfl
      exact hstart.append hreported
    · rw [if_neg hdir]
      rcases headersAt_of_isAt hsrc hw he hdir depth with
        ⟨hheader, bytes, hread, hheaders⟩ | ⟨hheader, hheaders⟩
      · have hwrap := @writes_wrapHeader settings src dest w report e ⟨e.names, bytes⟩ he.path rfl
          hread
        rw [hheaders, if_pos hheader, List.flatMap_singleton]
        refine hwrap.bind_pure fun report' w' hreported => Writes.pure ?_
        exact hreported.append (Reported.nil rfl rfl)
      · rw [hheaders, if_neg hheader]
        refine (Writes.pure rfl : Writes (pure report) w [] (· = report)).bind_nil
          fun report' w' heq _ => Writes.pure ?_
        rw [heq]
        exact Reported.nil rfl rfl

/-- Behind an entry, the headers are untouched if its own leave them alone, and the entries behind it
stand for their nodes. -/
theorem Untouched.of_visit {depth : ℕ} {e : Entry} {report' : Report} {w' : World}
    (hbefore : before.WellFormed) (hsrc : before.locate src.toList = .ok root)
    (hw : Untouched settings src dest root before w.disk) (he : e.IsAt src root w.disk)
    (hdepth : reach before dest < e.names.length + (depth + 1))
    (hspares : ∀ h ∈ headersAt settings src before root (depth + 1) e.names,
      h.Spares settings src dest root before)
    (hresult : (visit settings dest (walk settings dest depth) report e).result w =
      (.ok report', w')) :
    Untouched settings src dest root before w'.disk ∧
      ∀ e' : Entry, e'.IsAt src root w.disk → e'.IsAt src root w'.disk := by
  rw [← walk_singleton] at hresult
  have hone := @writes_walk settings src dest w report root before hbefore hsrc (depth + 1) [e] hw
    (by simpa using he) (by simpa using hdepth) (by simpa using hspares)
  have hplace := (hone.of_ok hresult).1
  rw [List.flatMap_singleton] at hplace
  have hgrows := (hw.wellFormed.of_placeAll hplace).2
  exact ⟨hw.placeAll hspares hplace, fun e' he' => he'.of_grows hgrows⟩

/-- A walk may come deeper than the wrappers of the headers lead. -/
theorem reach_lt_depthBound (d : Disk) (dest : String) : reach d dest < depthBound d dest := by
  have hle := Nat.le_mul_of_pos_right d.nodes.length (show 0 < dest.length + 2 by omega)
  rw [reach, depthBound, Nat.add_mul]
  omega

theorem length_lt_depthBound (d : Disk) (dest : String) : d.nodes.length < depthBound d dest := by
  have hlt := reach_lt_depthBound d dest
  rw [reach] at hlt
  omega

/-- A run over a tree is a walk from its source, if that is there. -/
theorem result_generateTree (settings : WrapperSettings) (src dest : String) (w : World) :
    (generateTree settings src dest).result w =
      match w.disk.lookup src.toList with
      | .ok n =>
        (walk settings dest (depthBound w.disk dest) ⟨[], [], 0⟩ [⟨src, [], n = .dir⟩]).result w
      | .error cause => (.error (.walk src cause), w) := by
  have hdisk : Run.disk.result w = (.ok w.disk, w) := rfl
  rw [generateTree, Run.result_bind, hdisk]
  dsimp only
  rw [Run.result_bind]
  rcases w.disk.lookup src.toList with cause | n <;> rfl

/-- **What is written for a tree**: the wrappers of the headers at the source and below, as long as
these wrappers leave the headers alone. -/
theorem writes_generateTree_of_spares {n : Node} (hbefore : w.disk.WellFormed)
    (hsrc : w.disk.locate src.toList = .ok root) (hroot : w.disk.node? root = some n)
    (hspares : ∀ h ∈ headersAt settings src w.disk root (depthBound w.disk dest) [],
      h.Spares settings src dest root w.disk) :
    Writes (generateTree settings src dest) w
      ((headersAt settings src w.disk root (depthBound w.disk dest) []).flatMap
        (·.outputs settings src dest))
      (Reported settings src dest
        (headersAt settings src w.disk root (depthBound w.disk dest) []) ⟨[], [], 0⟩) := by
  have hwalk := @writes_walk settings src dest w ⟨[], [], 0⟩ root w.disk hbefore hsrc
    (depthBound w.disk dest) [⟨src, [], n = .dir⟩] (Untouched.refl hbefore root)
    (by simpa using Entry.isAt_root hroot) (by simpa using reach_lt_depthBound w.disk dest)
    (by rwa [List.flatMap_singleton])
  rw [List.flatMap_singleton] at hwalk
  refine hwalk.congr ?_
  rw [result_generateTree, Disk.lookup_eq_ok_iff.mpr ⟨root, hsrc, hroot⟩]

/-- What is written for a tree if the destination is apart from it. -/
theorem writes_generateTree (hbefore : w.disk.WellFormed)
    (hsrc : w.disk.locate src.toList = .ok root) (hroot : w.disk.node? root = some .dir)
    (hapart : Apart root (w.disk.aim dest.toList)) :
    ∃ headers, IsListing settings w.disk root headers ∧
      Writes (generateTree settings src dest) w (headers.flatMap (·.outputs settings src dest))
        (Reported settings src dest headers ⟨[], [], 0⟩) := by
  refine ⟨_, isListing_headersAt hbefore hroot (length_lt_depthBound w.disk dest),
    writes_generateTree_of_spares hbefore hsrc hroot fun h hh => ?_⟩
  exact (isIn_headersAt hbefore hroot h hh).spares hbefore hapart

end Walk

end HeaderSurvey.Wrapper
