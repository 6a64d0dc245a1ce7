import HeaderSurvey.Proofs.Disk.Extension
import HeaderSurvey.Proofs.Disk.Write

/-!
# How deep a disk is

A path leads at most one name deeper than it has slashes (`length_aim_le`), and none of the paths
that are made out of another one has more slashes than that one: not the path of the directory above
(`Path.count_parent?`), nor the path with another extension (`Path.count_withExtension`).  So a file
that is put somewhere, and the directories that are made for it, are not deeper than the slashes of
its path say (`Within.placeAll`).
-/

namespace HeaderSurvey

/-! ### Slashes -/

namespace Path

variable {path parent extension : List Char} {pieces : List (List Char)}

/-- A path has one more piece than slashes. -/
theorem length_splitBy (path : List Char) :
    (Text.splitBy (· = '/') path).length = path.count '/' + 1 := by
  induction path with
  | nil => rfl
  | cons c path ih =>
    rw [Text.splitBy]
    obtain ⟨piece, pieces, hpieces⟩ :=
      List.exists_cons_of_ne_nil (Text.splitBy_ne_nil (· = '/') path)
    rw [hpieces] at ih ⊢
    split_ifs with hc
    · have hslash : c = '/' := by simpa using hc
      rw [hslash, List.count_cons_self, List.length_cons, ih]
    · have hne : c ≠ '/' := by simpa using hc
      rw [List.count_cons_of_ne hne, ← ih]
      rfl

/-- Pieces that are joined have a slash between any two of them, and no others. -/
theorem count_join_pieces (hpieces : ∀ piece ∈ pieces, '/' ∉ piece) :
    (Text.join ['/'] pieces).count '/' = pieces.length - 1 := by
  induction pieces with
  | nil => rfl
  | cons piece pieces ih =>
    obtain ⟨hpiece, hrest⟩ := List.forall_mem_cons.mp hpieces
    have hnone := List.count_eq_zero.mpr hpiece
    cases pieces with
    | nil => exact hnone
    | cons piece' pieces =>
      rw [Text.join_cons_cons, List.count_append, List.count_append, hnone, ih hrest]
      simp only [List.count_singleton_self, List.length_cons]
      omega

theorem trimIdle_prefix (pieces : List (List Char)) : trimIdle pieces <+: pieces := by
  rw [trimIdle, ← List.reverse_suffix, List.reverse_reverse]
  exact List.dropWhile_suffix _

/-- The two parts of a path together have no more slashes than the path, and there are none in the
pieces. -/
theorem split_slashes (path : List Char) :
    (split path).1.count '/' + (split path).2.length ≤ path.count '/' + 1 ∧
      ∀ piece ∈ (split path).2, '/' ∉ piece := by
  have hlength := length_splitBy path
  have hpieces : ∀ piece ∈ Text.splitBy (· = '/') path, '/' ∉ piece := fun piece hpiece hslash =>
    absurd (Text.not_of_mem_splitBy hpiece hslash) (by decide)
  rw [split]
  cases hsplit : Text.splitBy (· = '/') path with
  | nil => exact ⟨Nat.zero_le _, List.forall_mem_nil _⟩
  | cons piece pieces =>
    rw [hsplit] at hlength hpieces
    have htrim := trimIdle_prefix pieces
    have hle := htrim.length_le
    have htail : ∀ p ∈ trimIdle pieces, '/' ∉ p := fun p hp =>
      hpieces p (List.mem_cons_of_mem _ (htrim.subset hp))
    rw [List.length_cons] at hlength
    dsimp only
    split_ifs
    · refine ⟨?_, htail⟩
      simp only [List.count_singleton_self]
      omega
    · split
      · exact ⟨Nat.zero_le _, List.forall_mem_nil _⟩
      · refine ⟨?_, htail⟩
        have hstart : ['.', '/'].count '/' = 1 := rfl
        dsimp only
        omega
    · have hall := trimIdle_prefix (piece :: pieces)
      have hle' := hall.length_le
      refine ⟨?_, fun p hp => hpieces p (hall.subset hp)⟩
      rw [List.length_cons] at hle'
      simp only [List.count_nil]
      omega

/-- The directory above has a path with no more slashes. -/
theorem count_parent? (h : parent? path = some parent) : parent.count '/' ≤ path.count '/' := by
  obtain ⟨hcount, hpieces⟩ := split_slashes path
  rw [parent?] at h
  split at h
  · obtain rfl := Option.some.inj h
    exact Nat.zero_le _
  · cases h
  · next start pieces _ hne hsplit =>
    rw [hsplit] at hcount hpieces
    dsimp only at hcount hpieces
    have hpos := List.length_pos_iff.mpr hne
    have htrim := trimIdle_prefix pieces.dropLast
    have hle := htrim.length_le
    rw [List.length_dropLast] at hle
    split at h
    · split_ifs at h
      · obtain rfl := Option.some.inj h
        exact Nat.zero_le _
      · obtain rfl := Option.some.inj h
        omega
    · obtain rfl := Option.some.inj h
      rw [List.count_append, count_join_pieces fun piece hpiece =>
        hpieces piece ((List.dropLast_sublist _).subset (htrim.subset hpiece))]
      omega

/-- The first part of a name has no slashes if the name has none. -/
theorem no_slash_splitName {name : List Char} (h : '/' ∉ name) : '/' ∉ (splitName name).1 := by
  rw [splitName]
  split
  · exact h
  · next x stem hstem =>
    split_ifs
    · exact h
    · intro hslash
      have hmem : '/' ∈ name.reverse.dropWhile (· ≠ '.') := by
        rw [hstem]
        exact List.mem_cons_of_mem _ (List.mem_reverse.mp hslash)
      exact h (List.mem_reverse.mp ((List.dropWhile_sublist _).subset hmem))

theorem count_setExtension (hextension : '/' ∉ extension) (path : List Char) :
    (setExtension extension path).count '/' ≤ path.count '/' := by
  obtain ⟨hcount, hpieces⟩ := split_slashes path
  rw [setExtension]
  cases hname : fileName? path with
  | none => exact le_rfl
  | some name =>
    have hlast : (split path).2.getLast? = some name := by
      rw [fileName?] at hname
      split at hname
      · cases hname
      · next last hlast =>
        split_ifs at hname
        rw [hlast, hname]
    obtain ⟨front, hfront⟩ := List.getLast?_eq_some_iff.mp hlast
    dsimp only
    rw [hfront] at hcount hpieces ⊢
    have hstem := no_slash_splitName (hpieces name (by simp))
    rw [List.dropLast_concat, List.count_append, count_join_pieces]
    · simp only [List.length_append, List.length_singleton] at hcount ⊢
      omega
    · intro piece hpiece
      rcases List.mem_append.mp hpiece with hpiece | hpiece
      · exact hpieces piece (List.mem_append_left _ hpiece)
      · rw [List.mem_singleton.mp hpiece, List.mem_append, List.mem_cons]
        rintro (hslash | hslash | hslash)
        · exact hstem hslash
        · exact absurd hslash (by decide)
        · exact hextension hslash

/-- With another extension a path has no more slashes. -/
theorem count_withExtension (hextension : '/' ∉ extension) (path : List Char) :
    (withExtension extension path).count '/' ≤ path.count '/' := by
  rw [withExtension]
  split
  · exact count_setExtension hextension path
  · exact (count_setExtension hextension _).trans ((List.take_sublist _ _).count_le '/')

theorem count_join_le (path more : List Char) :
    (join path more).count '/' ≤ path.count '/' + more.count '/' + 1 := by
  rw [join]
  split_ifs
  · omega
  · rw [List.count_append]
    omega
  · rw [List.count_append, List.count_cons_self]
    omega

end Path

namespace Disk

variable {d e : Disk} {k : ℕ} {loc : Location} {path : List Char} {bytes : List UInt8}

/-! ### Locations -/

theorem length_lead_le (loc : Location) (pieces : List (List Char)) :
    (lead loc pieces).length ≤ loc.length + pieces.length := by
  induction pieces generalizing loc with
  | nil => exact le_rfl
  | cons piece pieces ih =>
    rw [lead, List.length_cons]
    split_ifs
    · have hrest := ih loc
      omega
    · have hrest := ih loc.dropLast
      rw [List.length_dropLast] at hrest
      omega
    · have hrest := ih (loc ++ [String.ofList piece])
      rw [List.length_append, List.length_singleton] at hrest
      omega

/-- A path leads at most one name deeper than it has slashes. -/
theorem length_aim_le (d : Disk) (path : List Char) :
    (d.aim path).length ≤ d.workDir.length + path.count '/' + 1 := by
  have horigin : (d.origin path).length ≤ d.workDir.length := by
    rw [origin]
    split_ifs
    · exact Nat.zero_le _
    · exact le_rfl
  have hlead := length_lead_le (d.origin path) (Text.splitBy (· = '/') path)
  rw [Path.length_splitBy] at hlead
  rw [aim]
  omega

/-- No node is deeper than so many names. -/
def Within (k : ℕ) (d : Disk) : Prop :=
  ∀ ⦃loc n⦄, d.node? loc = some n → loc.length ≤ k

theorem Within.set (hd : d.Within k) (hne : loc ≠ []) (hloc : loc.length ≤ k) (n : Node) :
    (d.set loc n).Within k := by
  intro l m hl
  rw [node?_set hne] at hl
  split_ifs at hl with heq
  · exact heq ▸ hloc
  · exact hd hl

/-- The directories above a path are not deeper than the slashes of the path say. -/
theorem Within.ensureParents (hd : d.Within k) {path : String}
    (hpath : d.workDir.length + path.toList.count '/' + 1 ≤ k) :
    (d.ensureParents path).2.workDir = d.workDir ∧ (d.ensureParents path).2.Within k := by
  refine ensureParents_induction (P := fun e => e.workDir = d.workDir ∧ e.Within k)
    (R := fun path => d.workDir.length + path.count '/' + 1 ≤ k) ?_ ?_ ⟨rfl, hd⟩ hpath
  · rintro e path f ⟨hworkDir, he⟩ hpath hmake
    obtain ⟨loc, hloc, hnone, rfl⟩ := makeDir_eq_ok_iff.mp hmake
    have hlength := e.length_aim_le path
    rw [aim_of_locateEntry hloc, hworkDir] at hlength
    exact ⟨hworkDir, he.set (ne_nil_of_node?_eq_none hnone) (hlength.trans hpath) .dir⟩
  · intro path parent hpath hparent
    have hcount := Path.count_parent? hparent
    omega

/-- A file that is put at a path is not deeper than its slashes say. -/
theorem Within.place (hd : d.Within k) {path : String}
    (hpath : d.workDir.length + path.toList.count '/' + 1 ≤ k)
    (h : d.place path bytes = some e) : e.workDir = d.workDir ∧ e.Within k := by
  obtain ⟨f, hparents, hwrite⟩ := place_eq_some_iff.mp h
  obtain ⟨hworkDir, hf⟩ := hd.ensureParents hpath
  rw [hparents] at hworkDir hf
  obtain ⟨loc, hloc, -, hn, rfl⟩ := write_eq_ok_iff.mp hwrite
  have hlength := f.length_aim_le path.toList
  rw [aim_of_locateEntry hloc, hworkDir] at hlength
  exact ⟨hworkDir, hf.set (ne_nil_of_node? hn) (hlength.trans hpath) _⟩

/-- **Files that are put on a disk are not deeper than the slashes of their paths say.** -/
theorem Within.placeAll (hd : d.Within k) {outputs : List (String × List UInt8)}
    (hpaths : ∀ output ∈ outputs, d.workDir.length + output.1.toList.count '/' + 1 ≤ k)
    (h : d.placeAll outputs = some e) : e.Within k := by
  induction outputs generalizing d with
  | nil =>
    obtain rfl := Option.some.inj h
    exact hd
  | cons output outputs ih =>
    obtain ⟨hpath, hrest⟩ := List.forall_mem_cons.mp hpaths
    rw [placeAll_cons] at h
    obtain ⟨f, hplace, hbehind⟩ := Option.bind_eq_some_iff.mp h
    obtain ⟨hworkDir, hf⟩ := hd.place hpath hplace
    exact ih hf (by rwa [hworkDir]) hbehind

end Disk
end HeaderSurvey
