import HeaderSurvey.Proofs.Disk.Write

/-!
# Disks without some of their files

Let the disk `e` be `d` without some files (`Disk.Lacks`).  Where a file can be put on `d`, nothing
on the way is one of these files, as each step needs a directory; so the file can be put on `e` as
well, and what comes out is again the one disk without the files (`Lacks.place`).
-/

namespace HeaderSurvey
namespace Disk

/-- The disk `e` is `d` without the files at the locations where `R` holds. -/
structure Lacks (R : Location → Prop) (d e : Disk) : Prop where
  workDir : e.workDir = d.workDir
  removed : ∀ {l}, R l → e.node? l = none
  isFile : ∀ {l}, R l → ∃ bytes, d.node? l = some (.file bytes)
  others : ∀ {l}, ¬ R l → e.node? l = d.node? l

/-- A disk without one file. -/
theorem lacks_of_remove {before behind : List (Location × Node)} {loc workDir : Location}
    {bytes : List UInt8} (hloc : loc ≠ [])
    (h : ∀ entry ∈ before ++ behind, entry.1 ≠ loc) :
    Lacks (· = loc) ⟨before ++ (loc, .file bytes) :: behind, workDir⟩
      ⟨before ++ behind, workDir⟩ := by
  have hnone : ∀ nodes : List (Location × Node), (∀ entry ∈ nodes, entry.1 ≠ loc) →
      nodes.find? (·.1 = loc) = .none := by
    intro nodes hnodes
    exact List.find?_eq_none.mpr fun entry hentry => by simpa using hnodes entry hentry
  refine ⟨rfl, ?_, ?_, ?_⟩
  · rintro l rfl
    rw [node?_of_ne_nil _ hloc, hnone _ h]
    rfl
  · rintro l rfl
    refine ⟨bytes, ?_⟩
    rw [node?_of_ne_nil _ hloc, List.find?_append,
      hnone before fun entry hentry => h entry (List.mem_append_left _ hentry)]
    simp
  · intro l hl
    by_cases hnil : l = []
    · rw [hnil]
      rfl
    · rw [node?_of_ne_nil _ hnil, node?_of_ne_nil _ hnil, List.find?_append, List.find?_append,
        List.find?_cons_of_neg (by simpa using Ne.symm hl)]

namespace Lacks

variable {R : Location → Prop} {d e f : Disk} {loc loc' : Location} {path : List Char}
  (h : Lacks R d e)
include h

/-- What is not a file is none of the missing ones. -/
theorem not_of_not_file (hloc : ∀ bytes, d.node? loc ≠ some (.file bytes)) : ¬ R loc := by
  intro hR
  obtain ⟨bytes, hbytes⟩ := h.isFile hR
  exact hloc bytes hbytes

theorem dirs (hloc : d.node? loc = some .dir) : e.node? loc = some .dir := by
  rw [h.others (h.not_of_not_file (by simp [hloc])), hloc]

theorem origin (path : List Char) : e.origin path = d.origin path := by
  rw [Disk.origin, Disk.origin, h.workDir]

theorem none (hloc : d.node? loc = Option.none) : e.node? loc = Option.none := by
  rw [h.others (h.not_of_not_file (by simp [hloc])), hloc]

/-- A disk without some of its files is well-formed. -/
theorem wellFormed (hd : d.WellFormed) : e.WellFormed := by
  have horigin : ∀ entry ∈ e.nodes, ∃ n, d.node? entry.1 = some n := by
    rintro ⟨l, n⟩ hmem
    obtain ⟨m, hm⟩ := exists_node?_of_mem hmem
    have hR : ¬ R l := by
      intro hR
      rw [h.removed hR] at hm
      cases hm
    exact ⟨m, h.others hR ▸ hm⟩
  refine ⟨fun entry hentry name hname => ?_, fun entry hentry => ?_⟩
  · obtain ⟨n, hn⟩ := horigin entry hentry
    exact hd.isNodeName hn hname
  · obtain ⟨n, hn⟩ := horigin entry hentry
    exact h.dirs (hd.isDir_dropLast hn)

theorem locate (hloc : d.locate path = .ok loc) : e.locate path = .ok loc :=
  locate_of_dirs h.workDir h.dirs hloc

theorem locateEntry (hloc : d.locateEntry path = .ok loc) : e.locateEntry path = .ok loc :=
  locateEntry_of_dirs h.workDir h.dirs hloc

/-- What ends a path where nothing is ends it on the other disk as well. -/
theorem follow_notFound {pieces : List (List Char)}
    (hloc : d.follow loc pieces = .error .notFound) : e.follow loc pieces = .error .notFound := by
  induction pieces generalizing loc with
  | nil => simp [follow] at hloc
  | cons piece pieces ih =>
    cases hn : d.node? loc with
    | none =>
      rw [follow, h.none hn]
    | some n =>
      cases n with
      | file bytes => simp [follow, hn] at hloc
      | dir =>
        rw [follow_cons_of_dir hn] at hloc
        rw [follow_cons_of_dir (h.dirs hn)]
        split_ifs at hloc ⊢ <;> exact ih hloc

theorem locateEntry_notFound (hloc : d.locateEntry path = .error .notFound) :
    e.locateEntry path = .error .notFound := by
  rw [Disk.locateEntry] at hloc ⊢
  split_ifs at hloc ⊢
  · rfl
  · rw [h.origin]
    exact h.follow_notFound hloc

/-- A node that is put somewhere else is put on both disks. -/
theorem set (hne : loc ≠ []) (hR : ¬ R loc) (n : Node) : Lacks R (d.set loc n) (e.set loc n) := by
  have hother : ∀ {l}, R l → l ≠ loc := by
    rintro l hl rfl
    exact hR hl
  refine ⟨h.workDir, fun hl => ?_, fun hl => ?_, fun hl => ?_⟩
  · rw [node?_set hne, if_neg (hother hl), h.removed hl]
  · rw [node?_set hne, if_neg (hother hl)]
    exact h.isFile hl
  · rw [node?_set hne, node?_set hne, h.others hl]

/-- A directory is made on both disks. -/
theorem makeDir (hmake : d.makeDir path = .ok f) :
    ∃ g, e.makeDir path = .ok g ∧ Lacks R f g := by
  obtain ⟨loc, hloc, hnone, rfl⟩ := makeDir_eq_ok_iff.mp hmake
  have hne : loc ≠ [] := ne_nil_of_node?_eq_none hnone
  exact ⟨e.set loc .dir, makeDir_eq_ok_iff.mpr ⟨loc, h.locateEntry hloc, h.none hnone, rfl⟩,
    h.set hne (h.not_of_not_file (by simp [hnone])) .dir⟩

theorem ensureDir (hensure : d.ensureDir path = (.ok (), f)) :
    ∃ g, e.ensureDir path = (.ok (), g) ∧ Lacks R f g := by
  rw [Disk.ensureDir] at hensure
  cases hmake : d.makeDir path with
  | ok d' =>
    rw [hmake] at hensure
    obtain rfl : d' = f := congrArg Prod.snd hensure
    obtain ⟨g, hg, hlacks⟩ := h.makeDir hmake
    refine ⟨g, ?_, hlacks⟩
    rw [Disk.ensureDir, hg]
  | error cause =>
    -- the directory is there, and as it is none of the files it is on the other disk
    obtain ⟨hisDir, rfl⟩ := isDir_of_ensureDir hmake hensure
    obtain ⟨loc, hloc, hdir⟩ := isDir_eq_true_iff.mp hisDir
    have hthere : e.isDir path = true :=
      isDir_eq_true_iff.mpr ⟨loc, h.locateEntry hloc, h.dirs hdir⟩
    have hmake' : e.makeDir path = .error .alreadyExists := by
      rw [Disk.makeDir, h.locateEntry hloc]
      simp [h.dirs hdir]
    refine ⟨e, ?_, h⟩
    rw [Disk.ensureDir, hmake', hthere]
    rfl

theorem ensureDirsWithin {budget : List Char}
    (hensure : Disk.ensureDirsWithin budget path d = (.ok (), f)) :
    ∃ g, Disk.ensureDirsWithin budget path e = (.ok (), g) ∧ Lacks R f g := by
  induction budget generalizing path f with
  | nil => exact h.ensureDir hensure
  | cons c budget ih =>
    rw [Disk.ensureDirsWithin] at hensure ⊢
    by_cases hempty : path.isEmpty = true
    · rw [if_pos hempty] at hensure ⊢
      obtain rfl : d = f := congrArg Prod.snd hensure
      exact ⟨e, rfl, h⟩
    · rw [if_neg hempty] at hensure ⊢
      by_cases hmissing : d.makeDir path = .error .notFound
      · -- a directory above is missing on both disks
        have hmissing' : e.makeDir path = .error .notFound := by
          rw [Disk.makeDir, h.locateEntry_notFound (makeDir_eq_notFound hmissing)]
        rw [hmissing] at hensure
        rw [hmissing']
        cases hparent : Path.parent? path with
        | none => simp [hparent] at hensure
        | some parent =>
          simp only [hparent] at hensure ⊢
          rcases hmade : Disk.ensureDirsWithin budget parent d with ⟨cause | ⟨⟩, d'⟩
          · simp [hmade] at hensure
          · simp only [hmade] at hensure
            obtain ⟨e', he', hlacks⟩ := ih hmade
            simp only [he']
            exact hlacks.ensureDir hensure
      · -- the directory is made or there, so nothing is missed on the other disk either
        have hensure' : d.ensureDir path = (.ok (), f) := by
          split at hensure
          · contradiction
          · exact hensure
        obtain ⟨g, hg, hlacks⟩ := h.ensureDir hensure'
        refine ⟨g, ?_, hlacks⟩
        have hmissing' : e.makeDir path ≠ .error .notFound := by
          intro hmake
          obtain ⟨loc, hloc, -⟩ := isDir_eq_true_iff.mp (isDir_of_ensureDir hmake hg).1
          rw [makeDir_eq_notFound hmake] at hloc
          simp at hloc
        split
        · contradiction
        · exact hg

theorem ensureParents {path : String} (hensure : d.ensureParents path = (.ok (), f)) :
    ∃ g, e.ensureParents path = (.ok (), g) ∧ Lacks R f g := by
  rw [Disk.ensureParents] at hensure ⊢
  split at hensure
  · obtain rfl : d = f := congrArg Prod.snd hensure
    exact ⟨e, rfl, h⟩
  · obtain rfl : d = f := congrArg Prod.snd hensure
    exact ⟨e, rfl, h⟩
  · exact h.ensureDirsWithin hensure

/-- A file that does not go to the place of a missing one is put on both disks. -/
theorem place {path : String} {bytes : List UInt8} (hd : d.WellFormed)
    (hplace : d.place path bytes = some f) (hR : ¬ R (d.aim path.toList)) :
    ∃ g, e.place path bytes = some g ∧ Lacks R f g := by
  obtain ⟨d', hparents, hwrite⟩ := place_eq_some_iff.mp hplace
  obtain ⟨e', hparents', hlacks⟩ := h.ensureParents hparents
  obtain ⟨loc, hloc, hslash, hn, rfl⟩ := write_eq_ok_iff.mp hwrite
  have hne : loc ≠ [] := ne_nil_of_node? hn
  have hmade := (hd.of_ensureParents path).2 fun _ => False
  rw [hparents] at hmade
  have haim : loc = d.aim path.toList :=
    (aim_of_locateEntry hloc).symm.trans (aim_congr hmade.workDir _)
  have hR' : ¬ R loc := haim ▸ hR
  have hn' : e'.node? loc ≠ some .dir := by
    rw [hlacks.others hR']
    exact hn
  refine ⟨e'.set loc (.file bytes), place_eq_some_iff.mpr ⟨e', hparents', ?_⟩,
    hlacks.set hne hR' _⟩
  exact write_eq_ok_iff.mpr ⟨loc, hlacks.locateEntry hloc, hslash, hn', rfl⟩

/-- Files that do not go to the places of missing ones are put on both disks. -/
theorem placeAll {outputs : List (String × List UInt8)} (hd : d.WellFormed)
    (hplace : d.placeAll outputs = some f)
    (hR : ∀ output ∈ outputs, ¬ R (d.aim output.1.toList)) :
    ∃ g, e.placeAll outputs = some g ∧ Lacks R f g := by
  induction outputs generalizing d e with
  | nil =>
    obtain rfl := Option.some.inj hplace
    exact ⟨e, rfl, h⟩
  | cons output outputs ih =>
    rw [placeAll_cons] at hplace
    obtain ⟨d', hfirst, hrest⟩ := Option.bind_eq_some_iff.mp hplace
    obtain ⟨hR₁, hR₂⟩ := List.forall_mem_cons.mp hR
    obtain ⟨e', hfirst', hlacks⟩ := h.place hd hfirst hR₁
    obtain ⟨hd', hgrows, -, -⟩ := hd.of_place hfirst
    obtain ⟨g, hrest', hlacks'⟩ := ih hlacks hd' hrest fun output' houtput' => by
      rw [aim_congr hgrows.workDir]
      exact hR₂ output' houtput'
    refine ⟨g, ?_, hlacks'⟩
    rw [placeAll_cons, hfirst']
    exact hrest'

end Lacks
end Disk
end HeaderSurvey
