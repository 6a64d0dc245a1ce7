import HeaderSurvey.Proofs.Disk.Follow

/-!
# Writing files on a disk

Putting a file at a path (`Disk.place`) makes the directories above it and writes it.  What that
changes is said once, in `WellFormed.of_place`: the disk grows, and of its files only the one that
the path names is changed, which holds the bytes afterwards.  The same for files one after another
is `WellFormed.of_placeAll`; of several that go to one location the last one stays
(`WellFormed.read_of_placeAll`).
-/

namespace HeaderSurvey
namespace Disk

variable {d e f : Disk} {loc : Location} {path : List Char} {bytes : List UInt8}

/-! ### Making directories -/

theorem makeDir_eq_ok_iff : d.makeDir path = .ok e ↔
    ∃ loc, d.locateEntry path = .ok loc ∧ d.node? loc = none ∧ e = d.set loc .dir := by
  rw [makeDir]
  cases hloc : d.locateEntry path with
  | error cause => simp
  | ok loc =>
    cases hn : d.node? loc with
    | none => simp [hn, eq_comm]
    | some n => simp [hn]

theorem makeDir_eq_notFound (h : d.makeDir path = .error .notFound) :
    d.locateEntry path = .error .notFound := by
  rw [makeDir] at h
  cases hloc : d.locateEntry path with
  | error cause => simpa [hloc] using h
  | ok loc =>
    rw [hloc] at h
    cases hn : d.node? loc <;> simp [hn] at h

/-- What a path makes is a directory or a node in one. -/
theorem WellFormed.locateEntry_cases (hd : d.WellFormed) (h : d.locateEntry path = .ok loc) :
    d.node? loc = some .dir ∨
      ∃ parent name, loc = parent ++ [name] ∧ d.node? parent = some .dir ∧ IsNodeName name := by
  obtain ⟨-, hfollow⟩ := locateEntry_eq_ok_iff.mp h
  have hpieces : ∀ piece ∈ Text.splitBy (· = '/') (trimSlashes path), '/' ∉ piece := by
    intro piece hpiece hslash
    have := Text.not_of_mem_splitBy hpiece hslash
    simp at this
  obtain ⟨piece, pieces, hcons⟩ :=
    List.exists_cons_of_ne_nil (Text.splitBy_ne_nil (· = '/') (trimSlashes path))
  have horigin : d.node? (d.origin path) = some .dir := by
    rw [hcons] at hfollow
    exact isDir_of_follow_cons hfollow
  exact hd.follow_cases (Or.inl horigin) hpieces hfollow

/-- A new directory only adds to the disk. -/
theorem WellFormed.of_makeDir (hd : d.WellFormed) (h : d.makeDir path = .ok e) :
    e.WellFormed ∧ ∀ P, Grows P d e := by
  obtain ⟨loc, hloc, hnone, rfl⟩ := makeDir_eq_ok_iff.mp h
  refine ⟨?_, fun P => Grows.set_dir P hnone⟩
  rcases hd.locateEntry_cases hloc with hdir | ⟨parent, name, rfl, hparent, hname⟩
  · rw [hnone] at hdir
    simp at hdir
  · exact hd.set hparent hname fun _ => rfl

/-- A directory that cannot be made and is not missed is there. -/
theorem isDir_of_ensureDir {cause : DiskError} (hmake : d.makeDir path = .error cause)
    (h : d.ensureDir path = (.ok (), e)) : d.isDir path = true ∧ d = e := by
  rw [ensureDir, hmake] at h
  refine ⟨?_, congrArg Prod.snd h⟩
  by_contra hnot
  have hresult := congrArg Prod.fst h
  simp [hnot] at hresult

/-- What making a directory keeps is kept when one is made unless it is there. -/
theorem ensureDir_induction {P : Disk → Prop} (hd : P d)
    (hmake : ∀ e, d.makeDir path = .ok e → P e) : P (d.ensureDir path).2 := by
  rw [ensureDir]
  cases h : d.makeDir path with
  | ok e => exact hmake e h
  | error cause => exact hd

/-- What making a directory keeps is kept when a directory and the ones above it are made.  The paths
of these directories are all in `R`. -/
theorem ensureDirsWithin_induction {P : Disk → Prop} {R : List Char → Prop}
    (hmake : ∀ d path e, P d → R path → d.makeDir path = .ok e → P e)
    (hparent : ∀ path parent, R path → Path.parent? path = some parent → R parent)
    (budget : List Char) (hd : P d) (hpath : R path) : P (ensureDirsWithin budget path d).2 := by
  induction budget generalizing path with
  | nil => exact ensureDir_induction hd fun e => hmake d path e hd hpath
  | cons c budget ih =>
    rw [ensureDirsWithin]
    split_ifs
    · exact hd
    · -- if a directory above is missed, it is made first, as the hypothesis of the induction says
      split
      · split
        · exact hd
        · next parent hparent? =>
          have habove := ih (hparent path parent hpath hparent?)
          split
          · next e heq =>
            rw [heq] at habove
            exact ensureDir_induction habove fun f => hmake e path f habove hpath
          · next cause e heq =>
            rw [heq] at habove
            exact habove
      · exact ensureDir_induction hd fun e => hmake d path e hd hpath

/-! ### Putting files -/

/-- The disk with the directories above a path, as far as they could be made. -/
def ensureParents (d : Disk) (path : String) : Except DiskError Unit × Disk :=
  match Path.parent? path.toList with
  | none | some [] => (.ok (), d)
  | some parent => d.ensureDirs parent

/-- What making a directory keeps is kept when the directories above a path are made. -/
theorem ensureParents_induction {P : Disk → Prop} {R : List Char → Prop} {path : String}
    (hmake : ∀ d path e, P d → R path → d.makeDir path = .ok e → P e)
    (hparent : ∀ path parent, R path → Path.parent? path = some parent → R parent)
    (hd : P d) (hpath : R path.toList) : P (d.ensureParents path).2 := by
  rw [ensureParents]
  split
  · exact hd
  · exact hd
  · next parent _ h =>
    exact ensureDirsWithin_induction hmake hparent parent hd (hparent _ _ hpath h)

/-- New directories only add to the disk. -/
theorem WellFormed.of_ensureParents (hd : d.WellFormed) (path : String) :
    (d.ensureParents path).2.WellFormed ∧ ∀ P, Grows P d (d.ensureParents path).2 := by
  refine ensureParents_induction (P := fun e => e.WellFormed ∧ ∀ P, Grows P d e)
    (R := fun _ => True) ?_ (fun _ _ _ _ => trivial) ⟨hd, fun P => Grows.refl P d⟩ trivial
  rintro e path f ⟨he, hgrows⟩ - hmake
  obtain ⟨hf, hgrows'⟩ := he.of_makeDir hmake
  exact ⟨hf, fun P => (hgrows P).trans (hgrows' P)⟩

/-- The disk with a file and the directories above it, if it can be had. -/
def place (d : Disk) (path : String) (bytes : List UInt8) : Option Disk :=
  match d.ensureParents path with
  | (.error _, _) => none
  | (.ok (), e) => (e.write path.toList bytes).toOption

theorem place_eq_some_iff {path : String} : d.place path bytes = some f ↔
    ∃ e, d.ensureParents path = (.ok (), e) ∧ e.write path.toList bytes = .ok f := by
  rw [place]
  rcases d.ensureParents path with ⟨cause | ⟨⟩, e⟩
  · simp
  · cases hwrite : e.write path.toList bytes <;> simp [hwrite, Except.toOption]

theorem write_eq_ok_iff : d.write path bytes = .ok e ↔
    ∃ loc, d.locateEntry path = .ok loc ∧ path.getLast? ≠ some '/' ∧ d.node? loc ≠ some .dir ∧
      e = d.set loc (.file bytes) := by
  rw [write]
  cases hloc : d.locateEntry path with
  | error cause => simp
  | ok loc =>
    by_cases hslash : path.getLast? = some '/'
    · simp [hslash]
    · cases hn : d.node? loc with
      | none => simp [hslash, hn, eq_comm]
      | some n => cases n <;> simp [hslash, hn, eq_comm]

/-- Writing a file changes what is at the location that its path names. -/
theorem WellFormed.of_write (hd : d.WellFormed) (h : d.write path bytes = .ok e) :
    e.WellFormed ∧ Grows (· = d.aim path) d e ∧ e.node? (d.aim path) = some (.file bytes) ∧
      e.locate path = .ok (d.aim path) := by
  obtain ⟨loc, hloc, hslash, hn, rfl⟩ := write_eq_ok_iff.mp h
  have hne : loc ≠ [] := ne_nil_of_node? hn
  have hgrows := Grows.set_file hne hn bytes
  rw [aim_of_locateEntry hloc]
  refine ⟨?_, hgrows, node?_set_self hne, ?_⟩
  · rcases hd.locateEntry_cases hloc with hdir | ⟨parent, name, rfl, hparent, hname⟩
    · exact absurd hdir hn
    · exact hd.set hparent hname fun hdir => absurd hdir hn
  · exact locate_of_dirs hgrows.workDir hgrows.dirs ((locateEntry_eq_locate hslash).symm.trans hloc)

theorem aim_congr (h : e.workDir = d.workDir) (path : List Char) : e.aim path = d.aim path := by
  rw [aim, aim, origin, origin, h]

theorem Grows.locate {P : Location → Prop} (h : Grows P d e) (hloc : d.locate path = .ok loc) :
    e.locate path = .ok loc :=
  locate_of_dirs h.workDir h.dirs hloc

/-- A file that is put somewhere is there, and no other file is changed. -/
theorem WellFormed.of_place {path : String} (hd : d.WellFormed) (h : d.place path bytes = some f) :
    f.WellFormed ∧ Grows (· = d.aim path.toList) d f ∧
      f.node? (d.aim path.toList) = some (.file bytes) ∧
        f.locate path.toList = .ok (d.aim path.toList) := by
  obtain ⟨e, hparents, hwrite⟩ := place_eq_some_iff.mp h
  have hmade := hd.of_ensureParents path
  rw [hparents] at hmade
  obtain ⟨he, hgrows⟩ := hmade
  have haim : e.aim path.toList = d.aim path.toList :=
    aim_congr (hgrows fun _ => False).workDir path.toList
  have hwritten := he.of_write hwrite
  rw [haim] at hwritten
  exact ⟨hwritten.1, (hgrows _).trans hwritten.2.1, hwritten.2.2⟩

/-- What a path leads to, if a file is there. -/
theorem read_of_node? (hloc : d.locate path = .ok loc)
    (hn : d.node? loc = some (.file bytes)) : d.read path = .ok bytes := by
  rw [read, lookup_eq_ok_iff.mpr ⟨loc, hloc, hn⟩]

/-! ### Putting files one after another -/

/-- The disk with files, if they can be had one after another. -/
def placeAll (d : Disk) (outputs : List (String × List UInt8)) : Option Disk :=
  outputs.foldlM (fun d output => d.place output.1 output.2) d

theorem placeAll_cons (d : Disk) (output : String × List UInt8)
    (outputs : List (String × List UInt8)) :
    d.placeAll (output :: outputs) = (d.place output.1 output.2).bind (·.placeAll outputs) :=
  List.foldlM_cons ..

theorem placeAll_append (d : Disk) (outputs outputs' : List (String × List UInt8)) :
    d.placeAll (outputs ++ outputs') = (d.placeAll outputs).bind (·.placeAll outputs') :=
  List.foldlM_append ..

/-- Files that are put somewhere change no others. -/
theorem WellFormed.of_placeAll {outputs : List (String × List UInt8)} (hd : d.WellFormed)
    (h : d.placeAll outputs = some e) :
    e.WellFormed ∧ Grows (fun l => ∃ output ∈ outputs, l = d.aim output.1.toList) d e := by
  induction outputs generalizing d with
  | nil =>
    obtain rfl := Option.some.inj h
    exact ⟨hd, Grows.refl _ _⟩
  | cons output outputs ih =>
    rw [placeAll_cons] at h
    obtain ⟨f, hplace, hrest⟩ := Option.bind_eq_some_iff.mp h
    obtain ⟨hf, hgrows, -, -⟩ := hd.of_place hplace
    obtain ⟨he, hgrows'⟩ := ih hf hrest
    refine ⟨he, (hgrows.mono ?_).trans (hgrows'.mono ?_)⟩
    · rintro l rfl
      exact ⟨output, List.mem_cons_self .., rfl⟩
    · rintro l ⟨output', houtput', rfl⟩
      exact ⟨output', List.mem_cons_of_mem _ houtput', aim_congr hgrows.workDir _⟩

/-- In the end the paths lead where they point. -/
theorem WellFormed.locate_of_placeAll {outputs : List (String × List UInt8)} (hd : d.WellFormed)
    (h : d.placeAll outputs = some e) {output : String × List UInt8} (houtput : output ∈ outputs) :
    e.locate output.1.toList = .ok (d.aim output.1.toList) := by
  induction outputs generalizing d with
  | nil => simp at houtput
  | cons first outputs ih =>
    rw [placeAll_cons] at h
    obtain ⟨f, hplace, hrest⟩ := Option.bind_eq_some_iff.mp h
    obtain ⟨hf, hgrows, -, hloc⟩ := hd.of_place hplace
    rcases List.mem_cons.mp houtput with rfl | houtput
    · exact (hf.of_placeAll hrest).2.locate hloc
    · rw [ih hf hrest houtput, aim_congr hgrows.workDir]

/-- Of the files that are put at one location the last one stays there. -/
theorem WellFormed.node?_of_placeAll {outputs outputs' : List (String × List UInt8)}
    {path : String} (hd : d.WellFormed)
    (h : d.placeAll (outputs ++ (path, bytes) :: outputs') = some e)
    (hlast : ∀ output ∈ outputs', d.aim output.1.toList ≠ d.aim path.toList) :
    e.node? (d.aim path.toList) = some (.file bytes) := by
  rw [placeAll_append] at h
  obtain ⟨d₁, hbefore, hrest⟩ := Option.bind_eq_some_iff.mp h
  rw [placeAll_cons] at hrest
  obtain ⟨d₂, hplace, hbehind⟩ := Option.bind_eq_some_iff.mp hrest
  obtain ⟨hd₁, hgrows₁⟩ := hd.of_placeAll hbefore
  obtain ⟨hd₂, hgrows₂, hnode, -⟩ := hd₁.of_place hplace
  obtain ⟨-, hgrows₃⟩ := hd₂.of_placeAll hbehind
  rw [aim_congr hgrows₁.workDir] at hnode
  -- what is put later goes elsewhere
  refine hgrows₃.node?_eq ?_ hnode
  rintro ⟨output, houtput, heq⟩
  refine hlast output houtput ?_
  rw [heq, aim_congr (hgrows₂.workDir.trans hgrows₁.workDir)]

theorem WellFormed.read_of_placeAll {outputs outputs' : List (String × List UInt8)}
    {path : String} (hd : d.WellFormed)
    (h : d.placeAll (outputs ++ (path, bytes) :: outputs') = some e)
    (hlast : ∀ output ∈ outputs', d.aim output.1.toList ≠ d.aim path.toList) :
    e.read path.toList = .ok bytes :=
  read_of_node? (hd.locate_of_placeAll h (List.mem_append_right _ (List.mem_cons_self ..)))
    (hd.node?_of_placeAll h hlast)

end Disk
end HeaderSurvey
