import HeaderSurvey.Proofs.Wrapper.Paths
import Mathlib.Order.Lattice

/-!
# The headers below a directory

The headers below a directory, listed in depth, the names in each directory in order
(`headersAt`).  With the names that lead to them the headers of that list ascend, since lists of
names are compared name by name, and they are the files with the extension of a header
(`isListing_headersAt`).  No list but one has these two properties (`IsListing.unique`).
-/

namespace HeaderSurvey.Wrapper

/-- A header below the source directory. -/
structure Header where
  /-- The names that lead to it from the source directory. -/
  names : List String
  bytes : List UInt8
  deriving Repr, DecidableEq

/-- The headers below the directory at `root`, in the order in which a walk in depth comes to them
that takes the names in each directory in order. -/
structure IsListing (settings : WrapperSettings) (d : Disk) (root : Location)
    (headers : List Header) : Prop where
  /-- Of two headers that of the lesser name comes first, where their names part. -/
  ordered : headers.Pairwise fun g h => g.names < h.names
  /-- The headers are the files with the extension of a header. -/
  mem_iff : ∀ h, h ∈ headers ↔
    d.node? (root ++ h.names) = some (.file h.bytes) ∧ HasHeaderExtension settings h.names

/-- The headers at the names and below, down to the given depth. -/
def headersAt (settings : WrapperSettings) (src : String) (d : Disk) (root : Location) :
    (depth : ℕ) → List String → List Header
  | 0, _ => []
  | depth + 1, names =>
    match d.node? (root ++ names) with
    | none => []
    | some (.file bytes) =>
      if isHeader settings (entryPath src names) then [⟨names, bytes⟩] else []
    | some .dir =>
      (d.childNames (root ++ names)).flatMap fun name =>
        headersAt settings src d root depth (names ++ [name])

variable {settings : WrapperSettings} {src : String} {d : Disk} {root : Location} {depth : ℕ}
  {names : List String} {h : Header}

/-! ### Members -/

theorem headersAt_of_none (hnone : d.node? (root ++ names) = none) :
    headersAt settings src d root depth names = [] := by
  cases depth with
  | zero => rfl
  | succ depth => rw [headersAt, hnone]

theorem headersAt_of_file {bytes : List UInt8}
    (hfile : d.node? (root ++ names) = some (.file bytes)) :
    headersAt settings src d root (depth + 1) names =
      if isHeader settings (entryPath src names) then [⟨names, bytes⟩] else [] := by
  rw [headersAt, hfile]

theorem headersAt_of_dir (hdir : d.node? (root ++ names) = some .dir) :
    headersAt settings src d root (depth + 1) names =
      (d.childNames (root ++ names)).flatMap fun name =>
        headersAt settings src d root depth (names ++ [name]) := by
  rw [headersAt, hdir]

/-- A file is a header by itself, and nothing is below it. -/
theorem mem_headersAt_of_file (hd : d.WellFormed) {bytes : List UInt8}
    (hn : d.node? (root ++ names) = some (.file bytes)) :
    h ∈ headersAt settings src d root (depth + 1) names ↔
      names <+: h.names ∧ h.names.length < names.length + (depth + 1) ∧
        d.node? (root ++ h.names) = some (.file h.bytes) ∧
          isHeader settings (entryPath src h.names) = true := by
  rw [headersAt_of_file hn]
  constructor
  · intro hmem
    split_ifs at hmem with hheader
    · rw [List.mem_singleton.mp hmem]
      exact ⟨List.prefix_rfl, by simp, hn, hheader⟩
    · simp at hmem
  · rintro ⟨⟨s, hs⟩, -, hfile, hheader⟩
    have hfile' := hfile
    rw [← hs, ← List.append_assoc] at hfile'
    have hnil := hd.eq_nil_of_file hn hfile'
    rw [hnil, List.append_nil] at hs
    rw [← hs, hn] at hfile
    rw [if_pos (hs ▸ hheader), List.mem_singleton]
    obtain rfl : bytes = h.bytes := by simpa using hfile
    rw [hs]

/-- The first name of what is below a directory is one of the names in it. -/
theorem exists_mem_childNames (hd : d.WellFormed) {n : Node}
    (hn : d.node? (root ++ names) = some .dir) (hpre : names <+: h.names)
    (hfile : d.node? (root ++ h.names) = some n) (hne : n ≠ .dir) :
    ∃ name ∈ d.childNames (root ++ names), names ++ [name] <+: h.names := by
  obtain ⟨s, hs⟩ := hpre
  cases s with
  | nil =>
    rw [List.append_nil] at hs
    rw [← hs, hn] at hfile
    exact absurd (Option.some.inj hfile).symm hne
  | cons name s =>
    have hs' : names ++ [name] ++ s = h.names := by simpa using hs
    rw [← hs', ← List.append_assoc, ← List.append_assoc] at hfile
    exact ⟨name, Disk.mem_childNames.mpr (hd.exists_of_append hfile), s, hs'⟩

theorem mem_headersAt (hd : d.WellFormed) :
    h ∈ headersAt settings src d root depth names ↔
      names <+: h.names ∧ h.names.length < names.length + depth ∧
        d.node? (root ++ h.names) = some (.file h.bytes) ∧
          isHeader settings (entryPath src h.names) = true := by
  induction depth generalizing names with
  | zero =>
    refine ⟨fun hmem => absurd hmem (by simp [headersAt]), ?_⟩
    rintro ⟨hpre, hlt, -, -⟩
    have hle := hpre.length_le
    omega
  | succ depth ih =>
    cases hn : d.node? (root ++ names) with
    | none =>
      refine ⟨fun hmem => absurd hmem (by simp [headersAt_of_none hn]), ?_⟩
      -- a header below would have a node here
      rintro ⟨⟨s, hs⟩, -, hfile, -⟩
      rw [← hs, ← List.append_assoc] at hfile
      obtain ⟨m, hm⟩ := hd.exists_of_append hfile
      rw [hn] at hm
      exact absurd hm (by simp)
    | some n =>
      cases n with
      | file bytes => exact mem_headersAt_of_file hd hn
      | dir =>
        rw [headersAt_of_dir hn, List.mem_flatMap]
        constructor
        · rintro ⟨name, -, hmem⟩
          obtain ⟨hpre, hlt, hfile, hheader⟩ := ih.mp hmem
          refine ⟨(List.prefix_append names [name]).trans hpre, ?_, hfile, hheader⟩
          rw [List.length_append, List.length_singleton] at hlt
          omega
        · rintro ⟨hpre, hlt, hfile, hheader⟩
          obtain ⟨name, hname, hpre'⟩ := exists_mem_childNames hd hn hpre hfile (by simp)
          refine ⟨name, hname, ih.mpr ⟨hpre', ?_, hfile, hheader⟩⟩
          rw [List.length_append, List.length_singleton]
          omega

/-! ### Order -/

theorem append_cons_lt {a b : String} (hab : a < b) (names s t : List String) :
    names ++ a :: s < names ++ b :: t := by
  induction names with
  | nil => exact List.cons_lt_cons_iff.mpr (Or.inl hab)
  | cons name names ih => exact List.cons_lt_cons_iff.mpr (Or.inr ⟨rfl, ih⟩)

theorem pairwise_headersAt (hd : d.WellFormed) :
    (headersAt settings src d root depth names).Pairwise fun g h => g.names < h.names := by
  induction depth generalizing names with
  | zero => exact List.Pairwise.nil
  | succ depth ih =>
    cases hn : d.node? (root ++ names) with
    | none =>
      rw [headersAt_of_none hn]
      exact List.Pairwise.nil
    | some n =>
      cases n with
      | file bytes =>
        rw [headersAt_of_file hn]
        split_ifs
        · exact List.pairwise_singleton _ _
        · exact List.Pairwise.nil
      | dir =>
        rw [headersAt_of_dir hn, List.pairwise_flatMap]
        refine ⟨fun name _ => ih, (d.pairwise_childNames _).imp fun {a b} hab => ?_⟩
        -- the names of the two headers part where the entries of the directory do
        intro g hg h hh
        obtain ⟨⟨s, hs⟩, -⟩ := (mem_headersAt hd).mp hg
        obtain ⟨⟨t, ht⟩, -⟩ := (mem_headersAt hd).mp hh
        rw [← hs, ← ht, List.append_assoc, List.append_assoc]
        exact append_cons_lt hab names s t

/-! ### The listing -/

/-- The headers below a directory are listed if the depth goes beyond every node. -/
theorem isListing_headersAt (hd : d.WellFormed) (hroot : d.node? root = some .dir)
    (hdepth : d.nodes.length < depth) :
    IsListing settings d root (headersAt settings src d root depth []) := by
  refine ⟨pairwise_headersAt hd, fun h => ?_⟩
  rw [mem_headersAt hd]
  have hne : ∀ {bytes}, d.node? (root ++ h.names) = some (.file bytes) → h.names ≠ [] := by
    intro bytes hfile hnil
    rw [hnil, List.append_nil, hroot] at hfile
    simp at hfile
  have hnames : ∀ {n}, d.node? (root ++ h.names) = some n → ∀ name ∈ h.names, IsNodeName name :=
    fun hn name hname => hd.isNodeName hn (List.mem_append_right _ hname)
  constructor
  · rintro ⟨-, -, hfile, hheader⟩
    exact ⟨hfile, (isHeader_entryPath (hnames hfile) (hne hfile)).mp hheader⟩
  · rintro ⟨hfile, hheader⟩
    have hle := hd.length_le hfile
    rw [List.length_append] at hle
    refine ⟨List.nil_prefix, ?_, hfile, (isHeader_entryPath (hnames hfile) (hne hfile)).mpr hheader⟩
    rw [List.length_nil]
    omega

/-- Headers in order are there once each. -/
theorem nodup_of_pairwise {headers : List Header}
    (hh : headers.Pairwise fun g h => g.names < h.names) : headers.Nodup := by
  refine hh.imp ?_
  rintro g h hlt rfl
  exact lt_irrefl _ hlt

/-- Headers in order are known by their members. -/
theorem eq_of_pairwise_of_mem_iff {headers headers' : List Header}
    (hh : headers.Pairwise fun g h => g.names < h.names)
    (hh' : headers'.Pairwise fun g h => g.names < h.names)
    (hmem : ∀ h, h ∈ headers ↔ h ∈ headers') : headers = headers' := by
  have hperm : headers.Perm headers' :=
    (List.perm_ext_iff_of_nodup (nodup_of_pairwise hh) (nodup_of_pairwise hh')).mpr hmem
  exact hperm.eq_of_pairwise (fun a b _ _ hab hba => absurd hba (lt_asymm hab)) hh hh'

/-- No header is listed twice. -/
theorem IsListing.nodup {headers : List Header} (hh : IsListing settings d root headers) :
    headers.Nodup :=
  nodup_of_pairwise hh.ordered

/-- There is one list of headers. -/
theorem IsListing.unique {headers headers' : List Header}
    (hh : IsListing settings d root headers) (hh' : IsListing settings d root headers') :
    headers = headers' :=
  eq_of_pairwise_of_mem_iff hh.ordered hh'.ordered fun h =>
    (hh.mem_iff h).trans (hh'.mem_iff h).symm

end HeaderSurvey.Wrapper
