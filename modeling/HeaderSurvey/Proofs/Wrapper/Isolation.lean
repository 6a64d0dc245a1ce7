import HeaderSurvey.Harness.Discover
import HeaderSurvey.Proofs.Disk.Lacks
import HeaderSurvey.Proofs.Wrapper.Mirror

/-!
# Isolation of failures

A unit that does not parse is reported and has no other effect: the test cases of a set of units are
those of the units that parse (`discover_isolated`), and a run over a tree writes what it writes on
a disk without the headers that do not parse (`generateTree_isolated`).

The second is a statement about two runs.  Both write the wrappers of a list of headers, the second
run those of the list without the failing ones, which have no wrappers.  Files that are put on one
of the disks are put on the other (`Disk.Lacks.placeAll`).
-/

namespace HeaderSurvey

namespace Harness

variable {settings : HarnessSettings} {units : List SourceUnit} {unit : SourceUnit}

/-- Whether the types of a unit can be read. -/
def parses (unit : SourceUnit) : Bool :=
  unit.parse .types matches .ok _

/-- The test cases do not depend on the units that do not parse, and these are reported. -/
structure Isolated (settings : HarnessSettings) (units : List SourceUnit) : Prop where
  cases : (discover settings units).cases = (discover settings (units.filter parses)).cases
  /-- The failures are the units that do not parse, in order. -/
  failures : (discover settings units).failures.map (·.unit) = units.filter (!parses ·)
  /-- Each failure comes with the error of parsing its unit. -/
  errors : ∀ f ∈ (discover settings units).failures, f.unit.parse .types = .error f.error

theorem types_ofUnit_of_not_parses (hparse : parses unit = false) :
    (ScannedUnit.ofUnit unit).types = [] := by
  rw [parses] at hparse
  rw [ScannedUnit.ofUnit]
  cases horiginal : unit.parse .types with
  | error cause => rfl
  | ok d => simp [horiginal] at hparse

theorem failure?_ofUnit (unit : SourceUnit) :
    (ScannedUnit.ofUnit unit).failure?.map (·.unit) = if parses unit then none else some unit := by
  rw [ScannedUnit.ofUnit, parses]
  cases unit.parse .types <;> rfl

theorem parse_of_failure? {f : ScanFailure} (hf : (ScannedUnit.ofUnit unit).failure? = some f) :
    f.unit.parse .types = .error f.error := by
  rw [ScannedUnit.ofUnit] at hf
  cases horiginal : unit.parse .types with
  | error cause =>
    rw [horiginal] at hf
    obtain rfl := Option.some.inj hf
    exact horiginal
  | ok d =>
    rw [horiginal] at hf
    cases hf

theorem discover_isolated (settings : HarnessSettings) (units : List SourceUnit) :
    Isolated settings units := by
  refine ⟨?_, ?_, fun f hf => ?_⟩
  · have htypes : ∀ units : List SourceUnit,
        (units.map ScannedUnit.ofUnit).flatMap (·.types) =
          units.flatMap fun unit => (ScannedUnit.ofUnit unit).types :=
      fun units => List.flatMap_map ..
    rw [discover, discover]
    simp only
    rw [htypes, htypes,
      flatMap_filter_of_eq_nil fun _ => types_ofUnit_of_not_parses]
  · have hfailures : (discover settings units).failures.map (·.unit) =
        units.filterMap fun unit => (ScannedUnit.ofUnit unit).failure?.map (·.unit) := by
      rw [Scan.failures, discover, List.filterMap_map, List.map_filterMap]
      rfl
    rw [hfailures, ← List.filterMap_eq_filter]
    refine List.filterMap_congr fun unit _ => ?_
    rw [failure?_ofUnit]
    cases hparse : parses unit <;> simp [Option.guard, hparse]
  · obtain ⟨scanned, hscanned, hfailure⟩ := List.mem_filterMap.mp hf
    obtain ⟨unit, -, rfl⟩ := List.mem_map.mp hscanned
    exact parse_of_failure? hfailure

end Harness

namespace Wrapper

variable {settings : WrapperSettings} {src dest : String} {d e : Disk} {root : Location}
  {headers : List Header}

/-- Whether a header below the source directory that does not parse is at the location. -/
def Unparsed (settings : WrapperSettings) (src : String) (d : Disk) (root : Location)
    (loc : Location) : Prop :=
  ∃ h : Header, loc = root ++ h.names ∧ h.IsIn settings d root ∧ h.parses src = false

/-- A header at the location of one that does not parse does not parse. -/
theorem Header.IsIn.not_parses {h : Header} (hin : h.IsIn settings d root)
    (hloc : Unparsed settings src d root (root ++ h.names)) : h.parses src = false := by
  obtain ⟨g, hnames, hg, hparse⟩ := hloc
  rwa [hin.eq_of_names hg (List.append_cancel_left hnames)]

/-- On the disk without the headers that do not parse the others are listed. -/
theorem IsListing.filter_parses (hlisting : IsListing settings d root headers)
    (hlacks : Disk.Lacks (Unparsed settings src d root) d e) :
    IsListing settings e root (headers.filter (·.parses src)) := by
  refine ⟨hlisting.ordered.filter _, fun h => ?_⟩
  rw [List.mem_filter, hlisting.mem_iff_isIn]
  constructor
  · rintro ⟨hin, hparse⟩
    have hstays : ¬ Unparsed settings src d root (root ++ h.names) := by
      intro hloc
      rw [hin.not_parses hloc] at hparse
      cases hparse
    exact ⟨(hlacks.others hstays).trans hin.file, hin.extension⟩
  · rintro ⟨hfile, hextension⟩
    have hstays : ¬ Unparsed settings src d root (root ++ h.names) := by
      intro hloc
      rw [hlacks.removed hloc] at hfile
      cases hfile
    have hin : h.IsIn settings d root :=
      ⟨(hlacks.others hstays).symm.trans hfile, hextension⟩
    refine ⟨hin, ?_⟩
    by_contra hparse
    exact hstays ⟨h, rfl, hin, by simpa using hparse⟩

/-- Below the destination there are no headers of the source directory. -/
theorem not_unparsed_below (hapart : Apart root (d.aim dest.toList)) {loc : Location}
    (hloc : d.aim dest.toList <+: loc) : ¬ Unparsed settings src d root loc := by
  rintro ⟨h, rfl, -, -⟩
  rcases List.prefix_or_prefix_of_prefix hloc (List.prefix_append root h.names) with hpre | hpre
  · exact hapart.2 hpre
  · exact hapart.1 hpre

/-- What a run with failures and a run without the failing headers have in common. -/
structure SameWrappers (target : Location) (report report' : Report) (after after' : Disk) :
    Prop where
  generated : report'.generated = report.generated
  failures : report'.failures = []
  /-- Below the destination the disks hold the same. -/
  nodes : ∀ loc, target <+: loc → after'.node? loc = after.node? loc

theorem generateTree_isolated (hd : d.WellFormed) (hsrc : d.locate src.toList = .ok root)
    (hroot : d.node? root = some .dir) (hapart : Apart root (d.aim dest.toList))
    (hlacks : Disk.Lacks (Unparsed settings src d root) d e)
    {events : List Event} {report : Report} {after : World}
    (hrun : (generateTree settings src dest).result ⟨d, events⟩ = (.ok report, after))
    (events' : List Event) :
    ∃ report' after', (generateTree settings src dest).result ⟨e, events'⟩ = (.ok report', after') ∧
      SameWrappers (d.aim dest.toList) report report' after.disk after'.disk := by
  have haim : e.aim dest.toList = d.aim dest.toList := Disk.aim_congr hlacks.workDir _
  obtain ⟨headers, hlisting, hwrites⟩ :=
    @writes_generateTree settings src dest ⟨d, events⟩ root hd hsrc hroot hapart
  obtain ⟨headers', hlisting', hwrites'⟩ :=
    @writes_generateTree settings src dest ⟨e, events'⟩ root (hlacks.wellFormed hd)
      (hlacks.locate hsrc) (hlacks.dirs hroot) (haim ▸ hapart)
  -- the second listing is the first one without the headers that do not parse
  obtain rfl := hlisting'.unique (hlisting.filter_parses hlacks)
  rw [flatMap_filter_of_eq_nil fun _ hparse => (Header.wrapper_of_not_parses hparse).1] at hwrites'
  obtain ⟨hplace, hreported⟩ := hwrites.of_ok hrun
  -- nothing is written where a header was taken away
  have hin : ∀ h ∈ headers, h.IsIn settings d root := fun h => hlisting.mem_iff_isIn.mp
  have houtputs := (outputs_eq_of_apart hd hapart hd rfl hin hplace).1
  have hstays : ∀ output ∈ headers.flatMap (·.outputs settings src dest),
      ¬ Unparsed settings src d root (d.aim output.1.toList) := by
    intro output houtput
    rw [houtputs] at houtput
    obtain ⟨h, hh, hmine⟩ := List.mem_flatMap.mp houtput
    obtain ⟨extension, -, hloc⟩ := (hin h hh).aim_output hd d hmine
    rw [hloc]
    exact not_unparsed_below hapart (List.prefix_append _ _)
  obtain ⟨g, hplace', hafter⟩ := hlacks.placeAll hd hplace hstays
  obtain ⟨report', after', hrun', rfl, hreported'⟩ := hwrites'.exists_result hplace'
  refine ⟨report', after', hrun', ?_, ?_, fun loc hloc => ?_⟩
  · rw [hreported'.generated, hreported.generated,
      flatMap_filter_of_eq_nil fun h hparse => by rw [(Header.wrapper_of_not_parses hparse).1]; rfl]
  · obtain ⟨failures, hfailures, hmap, -⟩ := hreported'.failures
    have hnone : (headers.filter (·.parses src)).filter (!·.parses src) = [] := by
      simp [List.filter_filter]
    rw [hnone] at hmap
    rw [hfailures, List.map_eq_nil_iff.mp hmap]
    rfl
  · exact hafter.others (not_unparsed_below hapart hloc)

end Wrapper

open Wrapper in
/-- **Failures are isolated.**  Of any units the test cases are those of the units that parse, and
the others are reported in order, each with its error.  A run over a tree that ends without a fault,
the source directory and the destination being apart from each other, lists and leaves below the
destination what a run on the disk without the headers that do not parse does. -/
theorem scan_failures_isolated :
    (∀ (settings : HarnessSettings) (units : List SourceUnit), Harness.Isolated settings units) ∧
    ∀ (settings : WrapperSettings) (src dest : String) (d e : Disk) (root : Location)
      (events events' : List Event) (report : Report) (after : World),
      d.WellFormed → d.locate src.toList = .ok root → d.node? root = some .dir →
      Apart root (d.aim dest.toList) → Disk.Lacks (Unparsed settings src d root) d e →
      (generateTree settings src dest).result ⟨d, events⟩ = (.ok report, after) →
      ∃ report' after',
        (generateTree settings src dest).result ⟨e, events'⟩ = (.ok report', after') ∧
          SameWrappers (d.aim dest.toList) report report' after.disk after'.disk := by
  refine ⟨Harness.discover_isolated, ?_⟩
  intro settings src dest d e root events events' report after hd hsrc hroot hapart hlacks hrun
  exact generateTree_isolated hd hsrc hroot hapart hlacks hrun events'

/-- A file without an end between two others: a case is found across it, and a tree is wrapped
around it. -/
theorem scan_failures_isolated_between :
    let units : List SourceUnit :=
      [⟨"a.h", "class A : B \x7b void test_a(); \x7d;", 0⟩,
        ⟨"bad.h", "class A : TestCase \x7b", 1⟩,
        ⟨"c.h", "class B : TestCase \x7b void test_b(); \x7d;", 2⟩]
    let a : Location × Node := (["src", "a.h"], .file (Utf8.encode "class A \x7b \x7d;\n"))
    let bad : Location × Node := (["src", "bad.h"], .file (Utf8.encode "class B \x7b\n"))
    let c : Location × Node := (["src", "c.h"], .file (Utf8.encode "int f();\n"))
    let d : Disk := ⟨[(["src"], .dir), (["out"], .dir), a, bad, c], []⟩
    let e : Disk := ⟨[(["src"], .dir), (["out"], .dir), a, c], []⟩
    (listTests (Harness.discover {} units).cases = ["B::test_b", "A::test_a"] ∧
      Harness.Isolated {} units) ∧
    ∃ report after report' after',
      (Wrapper.generateTree {} "src" "out").result ⟨d, []⟩ = (.ok report, after) ∧
      (Wrapper.generateTree {} "src" "out").result ⟨e, []⟩ = (.ok report', after') ∧
      report.failures.map (·.unit.path) = ["src/bad.h"] ∧
      Wrapper.SameWrappers ["out"] report report' after.disk after'.disk := by
  intro units a bad c d e
  have hd : d.WellFormed := ⟨by decide, by decide⟩
  have hlisting := @Wrapper.isListing_headersAt {} "src" d ["src"] 6 hd (by decide) (by decide)
  have hlisted : ∀ h ∈ Wrapper.headersAt {} "src" d ["src"] 6 [],
      h.parses "src" = false → ["src"] ++ h.names = ["src", "bad.h"] := by
    decide +kernel
  -- the listing of the headers says which of them do not parse
  have hunparsed : Wrapper.Unparsed {} "src" d ["src"] = (· = ["src", "bad.h"]) := by
    funext loc
    refine propext ⟨?_, ?_⟩
    · rintro ⟨h, rfl, hin, hparse⟩
      exact hlisted h (hlisting.mem_iff_isIn.mpr hin) hparse
    · rintro rfl
      exact ⟨⟨["bad.h"], Utf8.encode "class B \x7b\n"⟩, rfl,
        ⟨rfl, [], "bad", "h", rfl, by decide, by decide, by decide⟩, by decide +kernel⟩
  have hlacks : Disk.Lacks (Wrapper.Unparsed {} "src" d ["src"]) d e := by
    rw [hunparsed]
    exact @Disk.lacks_of_remove [(["src"], .dir), (["out"], .dir), a] [c] _ [] _ (by decide)
      (by decide)
  have hok : ((Wrapper.generateTree {} "src" "out").result ⟨d, []⟩).1.toOption.map
      (·.failures.map (·.unit.path)) = some ["src/bad.h"] := by
    decide +kernel
  refine ⟨⟨by decide +kernel, scan_failures_isolated.1 {} units⟩, ?_⟩
  rcases hrun : (Wrapper.generateTree {} "src" "out").result ⟨d, []⟩ with ⟨fault | report, after⟩
  · rw [hrun] at hok
    cases hok
  · rw [hrun] at hok
    obtain ⟨report', after', hrun', hsame⟩ := scan_failures_isolated.2 {} "src" "out" d e ["src"]
      [] [] report after hd (by decide) (by decide) (by decide) hlacks hrun
    exact ⟨report, after, report', after', rfl, hrun', Option.some.inj hok, hsame⟩

end HeaderSurvey
