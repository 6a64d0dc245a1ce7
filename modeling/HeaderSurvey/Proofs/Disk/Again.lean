import HeaderSurvey.Proofs.Disk.Write

/-!
# Writing the same files again

Where files have been put one after another they can be put again: the directories above them are
there, and nothing but files is at their places (`WellFormed.exists_placeAll_again`).  That leaves
every node as it was.  At a place to which several files go the last one is there afterwards, and it
was there before (`WellFormed.placeAll_again`).
-/

namespace HeaderSurvey
namespace Disk

variable {d e f : Disk} {path : List Char}

/-! ### Directories that are there -/

/-- A path leads to a directory as long as the directories stay. -/
theorem isDir_of_dirs (hworkDir : e.workDir = d.workDir)
    (hdirs : ∀ {l}, d.node? l = some .dir → e.node? l = some .dir)
    (h : d.isDir path = true) : e.isDir path = true := by
  obtain ⟨loc, hloc, hnode⟩ := isDir_eq_true_iff.mp h
  exact isDir_eq_true_iff.mpr ⟨loc, locateEntry_of_dirs hworkDir hdirs hloc, hdirs hnode⟩

/-- A directory that is there is not made. -/
theorem ensureDir_of_isDir (h : d.isDir path = true) :
    d.makeDir path = .error .alreadyExists ∧ d.ensureDir path = (.ok (), d) := by
  obtain ⟨loc, hloc, hnode⟩ := isDir_eq_true_iff.mp h
  have hmake : d.makeDir path = .error .alreadyExists := by
    rw [makeDir, hloc]
    simp [hnode]
  refine ⟨hmake, ?_⟩
  rw [ensureDir, hmake]
  simp [h]

theorem ensureDirs_of_isDir (h : d.isDir path = true) : d.ensureDirs path = (.ok (), d) := by
  obtain ⟨hmake, hensure⟩ := ensureDir_of_isDir h
  rw [ensureDirs]
  cases path with
  | nil => exact hensure
  | cons c path =>
    rw [ensureDirsWithin, hmake]
    exact hensure

/-- A directory that has been made is there. -/
theorem isDir_of_ensureDir_eq_ok (h : d.ensureDir path = (.ok (), e)) : e.isDir path = true := by
  cases hmake : d.makeDir path with
  | error cause =>
    obtain ⟨hdir, rfl⟩ := isDir_of_ensureDir hmake h
    exact hdir
  | ok made =>
    obtain rfl : made = e := by
      rw [ensureDir, hmake] at h
      exact congrArg Prod.snd h
    obtain ⟨loc, hloc, hnone, rfl⟩ := makeDir_eq_ok_iff.mp hmake
    have hne : loc ≠ [] := ne_nil_of_node?_eq_none hnone
    have hgrows := Grows.set_dir (fun _ => False) hnone
    exact isDir_eq_true_iff.mpr
      ⟨loc, locateEntry_of_dirs hgrows.workDir hgrows.dirs hloc, node?_set_self hne⟩

theorem isDir_of_ensureDirsWithin {budget : List Char} (hne : path ≠ [])
    (h : ensureDirsWithin budget path d = (.ok (), e)) : e.isDir path = true := by
  cases budget with
  | nil => exact isDir_of_ensureDir_eq_ok h
  | cons c budget =>
    have hempty : ¬ path.isEmpty = true := by simpa using hne
    rw [ensureDirsWithin, if_neg hempty] at h
    -- in the end it is the directory itself that is made, unless one above it cannot be
    split at h
    · split at h
      · cases h
      · split at h
        · exact isDir_of_ensureDir_eq_ok h
        · cases h
    · exact isDir_of_ensureDir_eq_ok h

/-- The directories above a path that have been made once need not be made again. -/
theorem ensureParents_again {path : String} (h : d.ensureParents path = (.ok (), e))
    (hworkDir : f.workDir = e.workDir)
    (hdirs : ∀ {l}, e.node? l = some .dir → f.node? l = some .dir) :
    f.ensureParents path = (.ok (), f) := by
  rw [ensureParents] at h ⊢
  cases hparent : Path.parent? path.toList with
  | none => rfl
  | some parent =>
    rw [hparent] at h
    cases parent with
    | nil => rfl
    | cons c parent =>
      have hmade := isDir_of_ensureDirsWithin (List.cons_ne_nil c parent) h
      exact ensureDirs_of_isDir (isDir_of_dirs hworkDir hdirs hmade)

/-! ### Files that are there -/

/-- Where a file has been put, another one can be put in its place. -/
theorem WellFormed.place_again {path : String} {bytes bytes' old : List UInt8} (hd : d.WellFormed)
    (h : d.place path bytes = some e) (hworkDir : f.workDir = e.workDir)
    (hdirs : ∀ {l}, e.node? l = some .dir → f.node? l = some .dir)
    (hfile : f.node? (d.aim path.toList) = some (.file old)) :
    f.place path bytes' = some (f.set (d.aim path.toList) (.file bytes')) := by
  obtain ⟨d', hparents, hwrite⟩ := place_eq_some_iff.mp h
  obtain ⟨loc, hloc, hslash, hnode, rfl⟩ := write_eq_ok_iff.mp hwrite
  have hmade := hd.of_ensureParents path
  rw [hparents] at hmade
  have haim : d.aim path.toList = loc := by
    rw [← aim_congr (hmade.2 fun _ => False).workDir]
    exact aim_of_locateEntry hloc
  have hne : loc ≠ [] := ne_nil_of_node? hnode
  have hset := Grows.set_file hne hnode bytes
  have hkept : ∀ {l}, d'.node? l = some .dir → f.node? l = some .dir := fun hl =>
    hdirs (hset.dirs hl)
  have hentry : f.locateEntry path.toList = .ok loc :=
    locateEntry_of_dirs (hworkDir.trans hset.workDir) hkept hloc
  refine place_eq_some_iff.mpr ⟨f, ensureParents_again hparents hworkDir hkept, ?_⟩
  rw [haim] at hfile ⊢
  refine write_eq_ok_iff.mpr ⟨loc, hentry, hslash, ?_, rfl⟩
  rw [hfile]
  simp

/-- Where files have been put they can be put again, and no other nodes come of it. -/
theorem WellFormed.exists_placeAll_again {outputs : List (String × List UInt8)} (hd : d.WellFormed)
    (h : d.placeAll outputs = some e) (hworkDir : f.workDir = e.workDir)
    (hdirs : ∀ {l}, e.node? l = some .dir → f.node? l = some .dir)
    (hfiles : ∀ output ∈ outputs, ∃ old, f.node? (d.aim output.1.toList) = some (.file old)) :
    ∃ g, f.placeAll outputs = some g ∧ ∀ l, f.node? l = none → g.node? l = none := by
  induction outputs generalizing d f with
  | nil => exact ⟨f, rfl, fun l hl => hl⟩
  | cons output outputs ih =>
    rw [placeAll_cons] at h
    obtain ⟨d', hplace, hrest⟩ := Option.bind_eq_some_iff.mp h
    obtain ⟨hd', hgrows, -, -⟩ := hd.of_place hplace
    obtain ⟨-, hgrows'⟩ := hd'.of_placeAll hrest
    obtain ⟨⟨old, hold⟩, hothers⟩ := List.forall_mem_cons.mp hfiles
    have hput := @WellFormed.place_again d d' f output.1 output.2 output.2 old hd hplace
      (hworkDir.trans hgrows'.workDir) (fun hl => hdirs (hgrows'.dirs hl)) hold
    have hne : d.aim output.1.toList ≠ [] := by
      intro hnil
      rw [hnil] at hold
      simp at hold
    have hset := Grows.set_file (d := f) hne (by simp [hold]) output.2
    -- the files that are still to be put go to files of the disk with this one
    obtain ⟨g, hg, hnone⟩ := @ih d' (f.set (d.aim output.1.toList) (.file output.2)) hd' hrest
      hworkDir (fun hl => hset.dirs (hdirs hl)) fun output' houtput' => by
        obtain ⟨old', hold'⟩ := hothers output' houtput'
        rw [aim_congr hgrows.workDir]
        exact hset.stays hold'
    refine ⟨g, ?_, fun l hl => hnone l ?_⟩
    · rw [placeAll_cons, hput]
      exact hg
    · rw [node?_set hne, if_neg]
      · exact hl
      · rintro rfl
        rw [hold] at hl
        cases hl

/-- The last member of a list with a property. -/
theorem exists_last_of_mem {α : Type} {p : α → Prop} {xs : List α} (h : ∃ x ∈ xs, p x) :
    ∃ front x back, xs = front ++ x :: back ∧ p x ∧ ∀ y ∈ back, ¬ p y := by
  induction xs using List.reverseRecOn with
  | nil => simp at h
  | append_singleton xs last ih =>
    by_cases hlast : p last
    · exact ⟨xs, last, [], rfl, hlast, by simp⟩
    · obtain ⟨x, hx, hpx⟩ := h
      have hmem : x ∈ xs := by
        rcases List.mem_append.mp hx with hx | hx
        · exact hx
        · rw [List.mem_singleton.mp hx] at hpx
          exact absurd hpx hlast
      obtain ⟨front, y, back, rfl, hy, hback⟩ := ih ⟨x, hmem, hpx⟩
      refine ⟨front, y, back ++ [last], by simp, hy, fun z hz => ?_⟩
      rcases List.mem_append.mp hz with hz | hz
      · exact hback z hz
      · rw [List.mem_singleton.mp hz]
        exact hlast

/-- **Putting files again** where they have been put leaves every node as it was. -/
theorem WellFormed.placeAll_again {outputs : List (String × List UInt8)} (hd : d.WellFormed)
    (h : d.placeAll outputs = some e) :
    ∃ g, e.placeAll outputs = some g ∧ ∀ l, g.node? l = e.node? l := by
  obtain ⟨he, hgrows⟩ := hd.of_placeAll h
  -- the last file that goes to a location is there, whichever disk the files are put on
  have hlast : ∀ {c f : Disk}, c.WellFormed → c.workDir = d.workDir →
      c.placeAll outputs = some f → ∀ {front output back}, outputs = front ++ output :: back →
        (∀ later ∈ back, ¬ d.aim later.1.toList = d.aim output.1.toList) →
          f.node? (d.aim output.1.toList) = some (.file output.2) := by
    intro c f hc hworkDir hplace front output back hsplit hback
    rw [hsplit] at hplace
    have hnode := hc.node?_of_placeAll hplace fun later hlater => by
      rw [aim_congr hworkDir, aim_congr hworkDir]
      exact hback later hlater
    rwa [aim_congr hworkDir] at hnode
  have hfiles : ∀ output ∈ outputs, ∃ old, e.node? (d.aim output.1.toList) = some (.file old) := by
    intro output houtput
    obtain ⟨front, last, back, hsplit, haim, hback⟩ := exists_last_of_mem
      (p := fun other => d.aim other.1.toList = d.aim output.1.toList) ⟨output, houtput, rfl⟩
    rw [← haim] at hback ⊢
    exact ⟨_, hlast hd rfl h hsplit hback⟩
  obtain ⟨g, hg, hnone⟩ := hd.exists_placeAll_again h rfl (fun hl => hl) hfiles
  obtain ⟨-, hgrows'⟩ := he.of_placeAll hg
  refine ⟨g, hg, fun l => ?_⟩
  by_cases htarget : ∃ output ∈ outputs, d.aim output.1.toList = l
  · obtain ⟨front, output, back, hsplit, rfl, hback⟩ := exists_last_of_mem htarget
    rw [hlast he hgrows.workDir hg hsplit hback, hlast hd rfl h hsplit hback]
  · cases hnode : e.node? l with
    | none => exact hnone l hnode
    | some n =>
      refine hgrows'.node?_eq ?_ hnode
      rintro ⟨output, houtput, rfl⟩
      exact htarget ⟨output, houtput, (aim_congr hgrows.workDir _).symm⟩

end Disk
end HeaderSurvey
