import HeaderSurvey.Disk.Basic
import HeaderSurvey.Proofs.Text.Sorted
import Mathlib.Data.List.Range
import Mathlib.Data.List.Perm.Subperm

/-!
# The nodes of a disk

A disk is well-formed if its nodes have proper names and each of them is in a directory
(`Disk.WellFormed`).  Then every location above a node is that of a directory
(`WellFormed.isDir_of_prefix`), and no location is deeper than there are nodes
(`WellFormed.length_le`).

A disk only grows while files are written: directories are added and stay, and files are changed
nowhere but where they are written (`Disk.Grows`).
-/

namespace HeaderSurvey

/-- Whether a node can have the name. -/
def IsNodeName (name : String) : Prop :=
  name ≠ "" ∧ name ≠ "." ∧ name ≠ ".." ∧ '/' ∉ name.toList

instance (name : String) : Decidable (IsNodeName name) :=
  inferInstanceAs (Decidable (_ ∧ _ ∧ _ ∧ _))

/-- What gives nothing can be left out. -/
theorem flatMap_filter_of_eq_nil {α β : Type} {f : α → List β} {p : α → Bool} {xs : List α}
    (h : ∀ x, p x = false → f x = []) : (xs.filter p).flatMap f = xs.flatMap f := by
  induction xs with
  | nil => rfl
  | cons x xs ih =>
    rw [List.filter_cons, List.flatMap_cons]
    by_cases hp : p x = true
    · rw [if_pos hp, List.flatMap_cons, ih]
    · rw [if_neg hp, ih, h x (by simpa using hp)]
      rfl

namespace Disk

/-- A disk whose nodes have proper names and are in directories. -/
structure WellFormed (d : Disk) : Prop where
  /-- Names of nodes are names. -/
  names : ∀ entry ∈ d.nodes, ∀ name ∈ entry.1, IsNodeName name
  /-- Every node is in a directory. -/
  parents : ∀ entry ∈ d.nodes, d.node? entry.1.dropLast = some .dir

variable {d e : Disk} {loc loc' : Location} {n : Node}

/-! ### Nodes -/

@[simp] theorem node?_nil (d : Disk) : d.node? [] = some .dir :=
  rfl

/-- Where no directory is, is not the root. -/
theorem ne_nil_of_node? (h : d.node? loc ≠ some .dir) : loc ≠ [] := by
  rintro rfl
  exact h d.node?_nil

theorem ne_nil_of_node?_eq_none (h : d.node? loc = none) : loc ≠ [] :=
  ne_nil_of_node? (h.trans_ne (Option.some_ne_none _).symm)

theorem node?_of_ne_nil (d : Disk) (h : loc ≠ []) :
    d.node? loc = (d.nodes.find? (·.1 = loc)).map (·.2) := by
  rw [node?, List.isEmpty_eq_false_iff.mpr h]
  rfl

/-- What is at a location other than the root is listed. -/
theorem mem_nodes_of_node? (hloc : loc ≠ []) (h : d.node? loc = some n) : (loc, n) ∈ d.nodes := by
  rw [node?_of_ne_nil d hloc] at h
  obtain ⟨⟨l, m⟩, hfind, rfl⟩ := Option.map_eq_some_iff.mp h
  have hl : l = loc := by simpa using List.find?_some hfind
  rw [← hl]
  exact List.mem_of_find?_eq_some hfind

theorem exists_node?_of_mem (h : (loc, n) ∈ d.nodes) : ∃ m, d.node? loc = some m := by
  by_cases hloc : loc = []
  · rw [hloc]
    exact ⟨.dir, rfl⟩
  · rw [node?_of_ne_nil d hloc]
    cases hfind : d.nodes.find? (·.1 = loc) with
    | some entry => exact ⟨entry.2, rfl⟩
    | none =>
      have hnone := List.find?_eq_none.mp hfind _ h
      simp at hnone

theorem find?_put (nodes : List (Location × Node)) :
    (put loc n nodes).find? (·.1 = loc') =
      if loc' = loc then some (loc, n) else nodes.find? (·.1 = loc') := by
  induction nodes with
  | nil =>
    rw [put, List.find?_cons, List.find?_nil]
    split_ifs with h
    · simp [h]
    · simp [Ne.symm h]
  | cons entry nodes ih =>
    obtain ⟨l, m⟩ := entry
    rw [put]
    split_ifs with hl h h
    · simp [h]
    · -- the node that is replaced is not the one that is looked for
      have hne : ¬ loc = loc' := Ne.symm h
      simp [hl, hne]
    · have hne : ¬ l = loc' := fun heq => hl (heq.trans h)
      rw [List.find?_cons_of_neg (by simpa using hne), ih, if_pos h]
    · rw [List.find?_cons, List.find?_cons, ih, if_neg h]

theorem node?_set (hloc : loc ≠ []) (loc' : Location) :
    (d.set loc n).node? loc' = if loc' = loc then some n else d.node? loc' := by
  by_cases hloc' : loc' = []
  · rw [hloc', if_neg (Ne.symm hloc)]
    rfl
  · rw [node?_of_ne_nil _ hloc', node?_of_ne_nil _ hloc', set, find?_put]
    split_ifs <;> rfl

@[simp] theorem node?_set_self (hloc : loc ≠ []) : (d.set loc n).node? loc = some n := by
  rw [node?_set hloc, if_pos rfl]

theorem mem_put {nodes : List (Location × Node)} {entry : Location × Node}
    (h : entry ∈ put loc n nodes) : entry = (loc, n) ∨ entry ∈ nodes := by
  induction nodes with
  | nil => exact Or.inl (List.mem_singleton.mp h)
  | cons first nodes ih =>
    obtain ⟨l, m⟩ := first
    rw [put] at h
    split_ifs at h with hl
    · rcases List.mem_cons.mp h with h | h
      · exact Or.inl h
      · exact Or.inr (List.mem_cons_of_mem _ h)
    · rcases List.mem_cons.mp h with h | h
      · exact Or.inr (h ▸ List.mem_cons_self ..)
      · exact (ih h).imp_right (List.mem_cons_of_mem _)

/-- The names in a directory are those of the nodes directly below it. -/
theorem mem_childNames {name : String} :
    name ∈ d.childNames loc ↔ ∃ n, d.node? (loc ++ [name]) = some n := by
  rw [childNames, Text.mem_sortOnce, List.mem_filterMap]
  constructor
  · rintro ⟨⟨l, n⟩, hmem, hname⟩
    cases hlast : l.getLast? with
    | none => simp [hlast] at hname
    | some last =>
      obtain ⟨front, rfl⟩ := List.getLast?_eq_some_iff.mp hlast
      simp only [List.getLast?_append, List.getLast?_singleton, Option.some_or,
        List.dropLast_concat, Option.ite_none_right_eq_some, Option.some.injEq] at hname
      obtain ⟨rfl, rfl⟩ := hname
      exact exists_node?_of_mem hmem
  · rintro ⟨n, hn⟩
    exact ⟨(loc ++ [name], n), mem_nodes_of_node? (by simp) hn, by simp⟩

/-- The names in a directory are in order, each of them once. -/
theorem pairwise_childNames (d : Disk) (loc : Location) :
    (d.childNames loc).Pairwise (· < ·) :=
  Text.pairwise_sortOnce _

/-- Names at which there is nothing to be had do not count. -/
theorem flatMap_childNames {α : Type} {f : String → List α}
    (hsub : ∀ name ∈ d.childNames loc, name ∈ e.childNames loc')
    (hnil : ∀ name, name ∉ d.childNames loc → f name = []) :
    (e.childNames loc').flatMap f = (d.childNames loc).flatMap f := by
  have hirrefl : ∀ l : List String, l.Pairwise (· < ·) → l.Nodup := fun l hl => hl.imp ne_of_lt
  have hfilter : ((e.childNames loc').filter (· ∈ d.childNames loc)).Pairwise (· < ·) :=
    (e.pairwise_childNames loc').filter _
  -- both lists of names are in order, so they are the same if they have the same members
  have heq : (e.childNames loc').filter (· ∈ d.childNames loc) = d.childNames loc := by
    refine List.Perm.eq_of_pairwise (fun a b _ _ hab hba => absurd hba (lt_asymm hab)) hfilter
      (d.pairwise_childNames loc) ?_
    refine (List.perm_ext_iff_of_nodup (hirrefl _ hfilter)
      (hirrefl _ (d.pairwise_childNames loc))).mpr fun name => ?_
    rw [List.mem_filter]
    simpa using hsub name
  rw [← heq]
  exact (flatMap_filter_of_eq_nil fun name hname => hnil name (by simpa using hname)).symm

/-! ### Well-formed disks -/

namespace WellFormed

variable (hd : d.WellFormed)
include hd

theorem isNodeName (h : d.node? loc = some n) {name : String} (hname : name ∈ loc) :
    IsNodeName name := by
  have hloc : loc ≠ [] := List.ne_nil_of_mem hname
  exact hd.names _ (mem_nodes_of_node? hloc h) name hname

theorem isDir_dropLast (h : d.node? loc = some n) : d.node? loc.dropLast = some .dir := by
  by_cases hloc : loc = []
  · rw [hloc]
    rfl
  · exact hd.parents _ (mem_nodes_of_node? hloc h)

/-- Everything above a node is a directory. -/
theorem isDir_of_prefix {s : List String} (hs : s ≠ []) (h : d.node? (loc ++ s) = some n) :
    d.node? loc = some .dir := by
  induction s using List.reverseRecOn generalizing n with
  | nil => exact absurd rfl hs
  | append_singleton s name ih =>
    have hparent := hd.isDir_dropLast h
    rw [← List.append_assoc, List.dropLast_concat] at hparent
    by_cases hnil : s = []
    · rwa [hnil, List.append_nil] at hparent
    · exact ih hnil hparent

/-- In front of a node there is one at every location on the way. -/
theorem exists_of_append {s : List String} (h : d.node? (loc ++ s) = some n) :
    ∃ m, d.node? loc = some m := by
  by_cases hs : s = []
  · rw [hs, List.append_nil] at h
    exact ⟨n, h⟩
  · exact ⟨.dir, hd.isDir_of_prefix hs h⟩

/-- Nothing is below a file. -/
theorem eq_nil_of_file {bytes : List UInt8} {s : List String}
    (hfile : d.node? loc = some (.file bytes)) (h : d.node? (loc ++ s) = some n) : s = [] := by
  by_contra hs
  have hdir := hd.isDir_of_prefix hs h
  rw [hfile] at hdir
  simp at hdir

/-- A location is not deeper than there are nodes: there is one at every depth down to it. -/
theorem length_le (h : d.node? loc = some n) : loc.length ≤ d.nodes.length := by
  have hdepths : List.range' 1 loc.length ⊆ d.nodes.map (·.1.length) := by
    intro k hk
    obtain ⟨hpos, hle⟩ := List.mem_range'_1.mp hk
    have hlength : (loc.take k).length = k := by
      rw [List.length_take]
      omega
    have hne : loc.take k ≠ [] := by
      intro hnil
      rw [hnil, List.length_nil] at hlength
      omega
    rw [← List.take_append_drop k loc] at h
    obtain ⟨m, hm⟩ := hd.exists_of_append h
    exact List.mem_map.mpr ⟨_, mem_nodes_of_node? hne hm, hlength⟩
  have hle := (List.subperm_of_subset List.nodup_range' hdepths).length_le
  rwa [List.length_range', List.length_map] at hle

/-- A node that is put into a directory under a proper name leaves the disk well-formed, if a
directory stays one. -/
theorem set {name : String} (hdir : d.node? loc = some .dir) (hname : IsNodeName name)
    (hkeep : d.node? (loc ++ [name]) = some .dir → n = .dir) :
    (d.set (loc ++ [name]) n).WellFormed := by
  have hne : loc ++ [name] ≠ [] := by simp
  have hstill : ∀ l, d.node? l = some .dir → (d.set (loc ++ [name]) n).node? l = some .dir := by
    intro l hl
    rw [node?_set hne]
    split_ifs with heq
    · rw [hkeep (heq ▸ hl)]
    · exact hl
  refine ⟨fun entry hentry => ?_, fun entry hentry => ?_⟩
  · rcases mem_put hentry with rfl | hentry
    · intro other hother
      rcases List.mem_append.mp hother with hother | hother
      · exact hd.isNodeName hdir hother
      · rw [List.mem_singleton.mp hother]
        exact hname
    · exact hd.names entry hentry
  · rcases mem_put hentry with rfl | hentry
    · rw [List.dropLast_concat]
      exact hstill loc hdir
    · exact hstill _ (hd.parents entry hentry)

end WellFormed

/-! ### Disks that grow -/

/-- The disk `e` comes from `d` by new directories and by files that are written at locations
where `P` holds. -/
structure Grows (P : Location → Prop) (d e : Disk) : Prop where
  workDir : e.workDir = d.workDir
  /-- Directories stay. -/
  dirs : ∀ {l}, d.node? l = some .dir → e.node? l = some .dir
  /-- Where a file is, there is one afterwards. -/
  stays : ∀ {l bytes}, d.node? l = some (.file bytes) → ∃ bytes', e.node? l = some (.file bytes')
  /-- Other files stay, and there are no others. -/
  files : ∀ {l}, ¬ P l → ∀ bytes,
    e.node? l = some (.file bytes) ↔ d.node? l = some (.file bytes)

namespace Grows

variable {P Q : Location → Prop} {f : Disk}

theorem refl (P : Location → Prop) (d : Disk) : Grows P d d :=
  ⟨rfl, fun h => h, fun h => ⟨_, h⟩, fun _ _ => Iff.rfl⟩

theorem trans (h : Grows P d e) (h' : Grows P e f) : Grows P d f := by
  refine ⟨h'.workDir.trans h.workDir, fun hl => h'.dirs (h.dirs hl), fun hl => ?_,
    fun hl bytes => (h'.files hl bytes).trans (h.files hl bytes)⟩
  obtain ⟨bytes, hbytes⟩ := h.stays hl
  exact h'.stays hbytes

theorem mono (h : Grows P d e) (hPQ : ∀ l, P l → Q l) : Grows Q d e :=
  ⟨h.workDir, h.dirs, h.stays, fun hl => h.files fun hP => hl (hPQ _ hP)⟩

/-- A node stays one of its kind. -/
theorem exists_node? (h : Grows P d e) (hn : d.node? loc = some n) :
    ∃ m, e.node? loc = some m ∧ (m = .dir ↔ n = .dir) := by
  cases n with
  | dir => exact ⟨.dir, h.dirs hn, Iff.rfl⟩
  | file bytes =>
    obtain ⟨bytes', hbytes'⟩ := h.stays hn
    exact ⟨_, hbytes', by simp⟩

/-- What is not written stays. -/
theorem node?_eq (h : Grows P d e) (hl : ¬ P loc) (hn : d.node? loc = some n) :
    e.node? loc = some n := by
  cases n with
  | dir => exact h.dirs hn
  | file bytes => exact (h.files hl bytes).mpr hn

/-- A directory put where nothing was. -/
theorem set_dir (P : Location → Prop) (h : d.node? loc = none) : Grows P d (d.set loc .dir) := by
  have hloc : loc ≠ [] := ne_nil_of_node?_eq_none h
  refine ⟨rfl, fun {l} hl => ?_, fun {l bytes} hl => ?_, fun {l} _ bytes => ?_⟩
  · rw [node?_set hloc]
    split_ifs
    · rfl
    · exact hl
  · refine ⟨bytes, ?_⟩
    rw [node?_set hloc, if_neg]
    · exact hl
    · rintro rfl
      rw [h] at hl
      cases hl
  · rw [node?_set hloc]
    split_ifs with heq
    · rw [heq, h]
      simp
    · rfl

/-- A file put where no directory is. -/
theorem set_file (hloc : loc ≠ []) (h : d.node? loc ≠ some .dir) (bytes : List UInt8) :
    Grows (· = loc) d (d.set loc (.file bytes)) := by
  refine ⟨rfl, fun {l} hl => ?_, fun {l old} hl => ?_, fun {l} hne bytes => ?_⟩
  · rw [node?_set hloc, if_neg]
    · exact hl
    · rintro rfl
      exact h hl
  · by_cases heq : l = loc
    · rw [heq, node?_set_self hloc]
      exact ⟨bytes, rfl⟩
    · rw [node?_set hloc, if_neg heq]
      exact ⟨old, hl⟩
  · rw [node?_set hloc, if_neg hne]

end Grows

end Disk
end HeaderSurvey
