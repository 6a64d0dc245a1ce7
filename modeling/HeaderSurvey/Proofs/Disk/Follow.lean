import HeaderSurvey.Proofs.Disk.Nodes
import HeaderSurvey.Proofs.Text.Words
import Mathlib.Data.List.TakeWhile

/-!
# Where paths lead

A path names a location whether or not anything is there (`Disk.aim`): two dots take the name before
them back.  A path that can be followed leads to the location that it names (`follow_eq_lead`), and
on a well-formed disk what is there is a directory or stands, under a proper name, in one
(`WellFormed.follow_cases`).

A path that goes on with names goes to the nodes of these names (`locate_join`, `aim_join`).
-/

namespace HeaderSurvey

/-! ### Names and pieces -/

theorem isNodeName_ofList {piece : List Char} (hidle : Path.isIdle piece = false)
    (hdots : piece ≠ ['.', '.']) (hslash : '/' ∉ piece) : IsNodeName (String.ofList piece) := by
  simp only [Path.isIdle, Bool.or_eq_false_iff, List.isEmpty_eq_false_iff,
    decide_eq_false_iff_not] at hidle
  refine ⟨?_, ?_, ?_, by rwa [String.toList_ofList]⟩
  all_goals
    intro heq
    have hlist := congrArg String.toList heq
    rw [String.toList_ofList] at hlist
  · exact hidle.1 hlist
  · exact hidle.2 hlist
  · exact hdots hlist

/-- A piece that is the name of a node. -/
structure IsPiece (piece : List Char) : Prop where
  not_idle : Path.isIdle piece = false
  not_dots : piece ≠ ['.', '.']
  no_slash : '/' ∉ piece

theorem IsNodeName.isPiece {name : String} (h : IsNodeName name) : IsPiece name.toList := by
  obtain ⟨hempty, hdot, hdots, hslash⟩ := h
  have hne : ∀ s : String, name ≠ s → name.toList ≠ s.toList := fun s hs heq =>
    hs (String.toList_inj.mp heq)
  refine ⟨?_, hne ".." hdots, hslash⟩
  simp only [Path.isIdle, Bool.or_eq_false_iff, List.isEmpty_eq_false_iff,
    decide_eq_false_iff_not]
  exact ⟨hne "" hempty, hne "." hdot⟩

theorem splitBy_of_no_slash {piece : List Char} (h : '/' ∉ piece) :
    Text.splitBy (· = '/') piece = [piece] := by
  refine Text.splitBy_of_forall fun x hx => ?_
  have hne : x ≠ '/' := by
    rintro rfl
    exact h hx
  simpa using hne

theorem splitBy_name {name : String} (h : IsNodeName name) :
    Text.splitBy (· = '/') name.toList = [name.toList] :=
  splitBy_of_no_slash h.isPiece.no_slash

theorem Path.isAbsolute_append {p : List Char} (hp : p ≠ []) (q : List Char) :
    Path.isAbsolute (p ++ q) = Path.isAbsolute p := by
  obtain ⟨x, p, rfl⟩ := List.exists_cons_of_ne_nil hp
  rfl

theorem isAbsolute_of_ne {more : List Char} {x : Char} {s : List Char} (h : more = x :: s)
    (hx : x ≠ '/') : Path.isAbsolute more = false := by
  rw [h, Path.isAbsolute]
  simpa using hx

theorem IsNodeName.isAbsolute_append {name : String} (h : IsNodeName name) (more : List Char) :
    Path.isAbsolute (name.toList ++ more) = false := by
  have hne : name.toList ≠ [] := fun hnil => h.1 (String.toList_inj.mp hnil)
  obtain ⟨x, s, hxs⟩ := List.exists_cons_of_ne_nil hne
  refine isAbsolute_of_ne (x := x) (s := s ++ more) (by rw [hxs]; rfl) ?_
  rintro rfl
  exact h.2.2.2 (hxs ▸ List.mem_cons_self ..)

theorem IsNodeName.isAbsolute {name : String} (h : IsNodeName name) :
    Path.isAbsolute name.toList = false := by
  have := h.isAbsolute_append []
  rwa [List.append_nil] at this

/-- A path that does not begin at the root continues another one behind a slash, unless that one
has a slash at its end or is empty. -/
theorem Path.join_cases (path : List Char) {more : List Char}
    (hmore : Path.isAbsolute more = false) :
    (path = [] ∧ Path.join path more = more) ∨
      (∃ front, path = front ++ ['/'] ∧ Path.join path more = front ++ '/' :: more) ∨
      (path ≠ [] ∧ Path.join path more = path ++ '/' :: more) := by
  rw [Path.join, hmore]
  by_cases hnil : path = []
  · exact Or.inl ⟨hnil, by simp [hnil]⟩
  · by_cases hlast : path.getLast? = some '/'
    · obtain ⟨front, rfl⟩ := List.getLast?_eq_some_iff.mp hlast
      exact Or.inr (Or.inl ⟨front, rfl, by simp⟩)
    · refine Or.inr (Or.inr ⟨hnil, ?_⟩)
      simp [hnil, hlast]

theorem toList_intercalate_slash (names : List String) :
    ("/".intercalate names).toList = Text.join ['/'] (names.map (·.toList)) := by
  have hslash : "/".toList = ['/'] := rfl
  rw [String.toList_intercalate, hslash]
  induction names with
  | nil => rfl
  | cons name names ih =>
    cases names with
    | nil => simp [Text.join]
    | cons name' names =>
      rw [List.map_cons, List.map_cons, List.intercalate_cons_cons, ← List.map_cons, ih,
        List.map_cons, Text.join_cons_cons, List.append_assoc]

theorem splitBy_names {names : List String} (hnames : ∀ name ∈ names, IsNodeName name)
    (hne : names ≠ []) :
    Text.splitBy (· = '/') ("/".intercalate names).toList = names.map (·.toList) := by
  rw [toList_intercalate_slash]
  induction names with
  | nil => exact absurd rfl hne
  | cons name names ih =>
    obtain ⟨hname, hrest⟩ := List.forall_mem_cons.mp hnames
    cases names with
    | nil => exact splitBy_name hname
    | cons name' names =>
      rw [List.map_cons, List.map_cons, Text.join_cons_cons, List.append_assoc,
        List.singleton_append, Text.splitBy_append_cons (by simp), splitBy_name hname,
        ← List.map_cons, ih hrest (List.cons_ne_nil _ _)]
      rfl

theorem isAbsolute_names {names : List String} (hnames : ∀ name ∈ names, IsNodeName name)
    (hne : names ≠ []) : Path.isAbsolute ("/".intercalate names).toList = false := by
  obtain ⟨name, rest, rfl⟩ := List.exists_cons_of_ne_nil hne
  have hname := hnames name (List.mem_cons_self ..)
  rw [toList_intercalate_slash, List.map_cons]
  cases rest with
  | nil => exact hname.isAbsolute
  | cons name' rest =>
    rw [List.map_cons, Text.join_cons_cons, List.append_assoc]
    exact hname.isAbsolute_append _

namespace Disk

variable {d e : Disk} {loc loc' : Location} {pieces : List (List Char)} {path : List Char}

/-! ### Locations that are named -/

/-- Where the pieces of a path go from a location, if nothing is in the way. -/
def lead : Location → List (List Char) → Location
  | loc, [] => loc
  | loc, piece :: pieces =>
    if Path.isIdle piece then lead loc pieces
    else if piece = ['.', '.'] then lead loc.dropLast pieces
    else lead (loc ++ [String.ofList piece]) pieces

/-- The location that a path names, whether or not anything is there. -/
def aim (d : Disk) (path : List Char) : Location :=
  lead (d.origin path) (Text.splitBy (· = '/') path)

theorem lead_append (loc : Location) (ps qs : List (List Char)) :
    lead loc (ps ++ qs) = lead (lead loc ps) qs := by
  induction ps generalizing loc with
  | nil => rfl
  | cons p ps ih =>
    rw [List.cons_append, lead, lead]
    split_ifs <;> exact ih _

theorem follow_append (loc : Location) (ps qs : List (List Char)) :
    d.follow loc (ps ++ qs) =
      match d.follow loc ps with
      | .ok l => d.follow l qs
      | .error e => .error e := by
  induction ps generalizing loc with
  | nil => rfl
  | cons p ps ih =>
    rw [List.cons_append, follow, follow]
    cases d.node? loc with
    | none => rfl
    | some n =>
      cases n with
      | file bytes => rfl
      | dir =>
        simp only
        split_ifs <;> exact ih _

/-- The first step of a path that can be followed starts from a directory. -/
theorem isDir_of_follow_cons {piece : List Char}
    (h : d.follow loc (piece :: pieces) = .ok loc') : d.node? loc = some .dir := by
  rw [follow] at h
  cases hn : d.node? loc with
  | none => simp [hn] at h
  | some n =>
    cases n with
    | file bytes => simp [hn] at h
    | dir => rfl

theorem follow_cons_of_dir {piece : List Char} (hloc : d.node? loc = some .dir) :
    d.follow loc (piece :: pieces) =
      if Path.isIdle piece then d.follow loc pieces
      else if piece = ['.', '.'] then d.follow loc.dropLast pieces
      else d.follow (loc ++ [String.ofList piece]) pieces := by
  rw [follow, hloc]

/-- A path that can be followed leads where it points. -/
theorem follow_eq_lead (h : d.follow loc pieces = .ok loc') : loc' = lead loc pieces := by
  induction pieces generalizing loc with
  | nil => exact (Except.ok.inj h).symm
  | cons piece pieces ih =>
    rw [follow_cons_of_dir (isDir_of_follow_cons h)] at h
    rw [lead]
    split_ifs at h ⊢ <;> exact ih h

/-- A path that can be followed can be followed as long as the directories stay. -/
theorem follow_of_dirs (hdirs : ∀ {l}, d.node? l = some .dir → e.node? l = some .dir)
    (h : d.follow loc pieces = .ok loc') : e.follow loc pieces = .ok loc' := by
  induction pieces generalizing loc with
  | nil => exact h
  | cons piece pieces ih =>
    have hloc := isDir_of_follow_cons h
    rw [follow_cons_of_dir hloc] at h
    rw [follow_cons_of_dir (hdirs hloc)]
    split_ifs at h ⊢ <;> exact ih h

/-- On a well-formed disk a path that can be followed leads to a directory or to a place for a node
in one. -/
theorem WellFormed.follow_cases (hd : d.WellFormed)
    (hloc : d.node? loc = some .dir ∨
      ∃ parent name, loc = parent ++ [name] ∧ d.node? parent = some .dir ∧ IsNodeName name)
    (hpieces : ∀ piece ∈ pieces, '/' ∉ piece) (h : d.follow loc pieces = .ok loc') :
    d.node? loc' = some .dir ∨
      ∃ parent name, loc' = parent ++ [name] ∧ d.node? parent = some .dir ∧ IsNodeName name := by
  induction pieces generalizing loc with
  | nil => exact Except.ok.inj h ▸ hloc
  | cons piece pieces ih =>
    obtain ⟨hpiece, hrest⟩ := List.forall_mem_cons.mp hpieces
    have hdir := isDir_of_follow_cons h
    rw [follow_cons_of_dir hdir] at h
    -- a piece that stays, one that goes back, and a name
    split_ifs at h with hidle hdots
    · exact ih (Or.inl hdir) hrest h
    · exact ih (Or.inl (hd.isDir_dropLast hdir)) hrest h
    · have hname := isNodeName_ofList (by simpa using hidle) hdots hpiece
      exact ih (Or.inr ⟨loc, _, rfl, hdir, hname⟩) hrest h

theorem lead_names (loc : Location) {names : List String} (h : ∀ name ∈ names, IsNodeName name) :
    lead loc (names.map (·.toList)) = loc ++ names := by
  induction names generalizing loc with
  | nil => simp [lead]
  | cons name names ih =>
    obtain ⟨hname, hnames⟩ := List.forall_mem_cons.mp h
    have hpiece := hname.isPiece
    rw [List.map_cons, lead, if_neg (by simp [hpiece.not_idle]), if_neg hpiece.not_dots,
      String.ofList_toList, ih _ hnames, List.append_assoc]
    rfl

theorem follow_name {name : String} (hloc : d.node? loc = some .dir) (hname : IsNodeName name) :
    d.follow loc [name.toList] = .ok (loc ++ [name]) := by
  have hpiece := hname.isPiece
  rw [follow_cons_of_dir hloc, if_neg (by simp [hpiece.not_idle]), if_neg hpiece.not_dots,
    String.ofList_toList]
  rfl

/-! ### Slashes at the end -/

theorem splitBy_append_slashes (path : List Char) (k : ℕ) :
    Text.splitBy (· = '/') (path ++ List.replicate k '/') =
      Text.splitBy (· = '/') path ++ List.replicate k [] := by
  induction k with
  | zero => simp
  | succ k ih =>
    rw [List.replicate_succ', ← List.append_assoc, Text.splitBy_append_cons (by simp), ih,
      List.replicate_succ', List.append_assoc]
    rfl

theorem exists_append_slashes (path : List Char) :
    ∃ k, path = trimSlashes path ++ List.replicate k '/' := by
  have htake : path.reverse.takeWhile (· = '/') =
      List.replicate (path.reverse.takeWhile (· = '/')).length '/' := by
    refine List.eq_replicate_iff.mpr ⟨rfl, fun x hx => ?_⟩
    simpa using List.mem_takeWhile_imp hx
  have hreverse := (path.reverse.takeWhile_append_dropWhile (p := (· = '/'))).symm
  refine ⟨(path.reverse.takeWhile (· = '/')).length, ?_⟩
  have h := congrArg List.reverse hreverse
  rw [List.reverse_reverse, List.reverse_append, htake, List.reverse_replicate] at h
  exact h

theorem lead_idle (loc : Location) (k : ℕ) : lead loc (List.replicate k []) = loc := by
  induction k with
  | zero => rfl
  | succ k ih => simpa [List.replicate_succ, lead, Path.isIdle] using ih

theorem follow_idle (hloc : d.node? loc = some .dir) (k : ℕ) :
    d.follow loc (List.replicate k []) = .ok loc := by
  induction k with
  | zero => rfl
  | succ k ih => simpa [List.replicate_succ, follow_cons_of_dir hloc, Path.isIdle] using ih

theorem locate_eq_ok_iff : d.locate path = .ok loc ↔
    path ≠ [] ∧ d.follow (d.origin path) (Text.splitBy (· = '/') path) = .ok loc := by
  rw [locate]
  split_ifs with h
  · simp [List.isEmpty_iff.mp h]
  · simp [List.isEmpty_eq_false_iff.mp (Bool.eq_false_of_not_eq_true h)]

theorem locateEntry_eq_ok_iff : d.locateEntry path = .ok loc ↔
    path ≠ [] ∧ d.follow (d.origin path) (Text.splitBy (· = '/') (trimSlashes path)) = .ok loc := by
  rw [locateEntry]
  split_ifs with h
  · simp [List.isEmpty_iff.mp h]
  · simp [List.isEmpty_eq_false_iff.mp (Bool.eq_false_of_not_eq_true h)]

/-- A path leads where it led as long as the directories stay. -/
theorem locate_of_dirs (hworkDir : e.workDir = d.workDir)
    (hdirs : ∀ {l}, d.node? l = some .dir → e.node? l = some .dir)
    (h : d.locate path = .ok loc) : e.locate path = .ok loc := by
  obtain ⟨hpath, hfollow⟩ := locate_eq_ok_iff.mp h
  refine locate_eq_ok_iff.mpr ⟨hpath, ?_⟩
  rw [origin, hworkDir]
  exact follow_of_dirs hdirs hfollow

theorem locateEntry_of_dirs (hworkDir : e.workDir = d.workDir)
    (hdirs : ∀ {l}, d.node? l = some .dir → e.node? l = some .dir)
    (h : d.locateEntry path = .ok loc) : e.locateEntry path = .ok loc := by
  obtain ⟨hpath, hfollow⟩ := locateEntry_eq_ok_iff.mp h
  refine locateEntry_eq_ok_iff.mpr ⟨hpath, ?_⟩
  rw [origin, hworkDir]
  exact follow_of_dirs hdirs hfollow

theorem aim_of_locateEntry (h : d.locateEntry path = .ok loc) : d.aim path = loc := by
  obtain ⟨k, hk⟩ := exists_append_slashes path
  have hsplit := splitBy_append_slashes (trimSlashes path) k
  rw [← hk] at hsplit
  rw [aim, hsplit, lead_append, ← follow_eq_lead (locateEntry_eq_ok_iff.mp h).2, lead_idle]

/-- A path with something else than a slash at its end leads to the node that it makes. -/
theorem locateEntry_eq_locate (h : path.getLast? ≠ some '/') :
    d.locateEntry path = d.locate path := by
  have htrim : trimSlashes path = path := by
    obtain ⟨k, hk⟩ := exists_append_slashes path
    cases k with
    | zero => simpa using hk.symm
    | succ k =>
      rw [List.replicate_succ', ← List.append_assoc] at hk
      rw [hk, List.getLast?_concat] at h
      exact absurd rfl h
  rw [locateEntry, locate, htrim]

/-- A path leads to what is at its location. -/
theorem lookup_eq_ok_iff {n : Node} :
    d.lookup path = .ok n ↔ ∃ loc, d.locate path = .ok loc ∧ d.node? loc = some n := by
  rw [lookup]
  cases hloc : d.locate path with
  | error cause => simp [bind, Except.bind]
  | ok loc => cases hn : d.node? loc <;> simp [bind, Except.bind, hn]

theorem isDir_iff_locate :
    d.isDir path = true ↔ ∃ loc, d.locate path = .ok loc ∧ d.node? loc = some .dir := by
  rw [← lookup_eq_ok_iff, isDir]
  rcases d.lookup path with cause | ⟨bytes | _⟩ <;> simp

/-- A path leads to a directory if what it makes is one. -/
theorem isDir_eq_true_iff :
    d.isDir path = true ↔ ∃ loc, d.locateEntry path = .ok loc ∧ d.node? loc = some .dir := by
  obtain ⟨k, hk⟩ := exists_append_slashes path
  have hsplit := splitBy_append_slashes (trimSlashes path) k
  rw [← hk] at hsplit
  rw [isDir_iff_locate]
  constructor
  · rintro ⟨loc, hloc, hn⟩
    obtain ⟨hne, hfollow⟩ := locate_eq_ok_iff.mp hloc
    rw [hsplit, follow_append] at hfollow
    cases hentry : d.follow (d.origin path) (Text.splitBy (· = '/') (trimSlashes path)) with
    | error cause => simp [hentry] at hfollow
    | ok l =>
      rw [hentry] at hfollow
      have hl : loc = l := (follow_eq_lead hfollow).trans (lead_idle l k)
      exact ⟨l, locateEntry_eq_ok_iff.mpr ⟨hne, hentry⟩, hl ▸ hn⟩
  · rintro ⟨loc, hentry, hn⟩
    obtain ⟨hne, hfollow⟩ := locateEntry_eq_ok_iff.mp hentry
    refine ⟨loc, locate_eq_ok_iff.mpr ⟨hne, ?_⟩, hn⟩
    rw [hsplit, follow_append, hfollow]
    exact follow_idle hn k

/-! ### Paths that go on -/

/-- The path of a directory goes on to the nodes in it. -/
theorem locate_join {name : String} (h : d.locate path = .ok loc)
    (hloc : d.node? loc = some .dir) (hname : IsNodeName name) :
    d.locate (Path.join path name.toList) = .ok (loc ++ [name]) := by
  obtain ⟨hne, hfollow⟩ := locate_eq_ok_iff.mp h
  have habsolute := hname.isAbsolute
  -- it is enough that the pieces in front of the name lead to the directory
  have hsuffices : ∀ front : List Char, d.follow (d.origin path) (Text.splitBy (· = '/') front) =
      .ok loc → d.origin (front ++ '/' :: name.toList) = d.origin path →
        d.locate (front ++ '/' :: name.toList) = .ok (loc ++ [name]) := by
    intro front hfront horigin
    refine locate_eq_ok_iff.mpr ⟨by simp, ?_⟩
    rw [horigin, Text.splitBy_append_cons (by simp), splitBy_name hname, follow_append, hfront]
    exact follow_name hloc hname
  rcases Path.join_cases path habsolute with ⟨hnil, -⟩ | ⟨front, rfl, hjoin⟩ | ⟨-, hjoin⟩
  · exact absurd hnil hne
  · rw [hjoin]
    refine hsuffices front ?_ ?_
    · -- the slash at the end says nothing
      rw [Text.splitBy_append_cons (by simp), follow_append] at hfollow
      cases hfront : d.follow (d.origin (front ++ ['/'])) (Text.splitBy (· = '/') front) with
      | error cause => simp [hfront] at hfollow
      | ok l =>
        rw [hfront] at hfollow
        have hl : loc = lead l [[]] := follow_eq_lead hfollow
        rw [hl]
        rfl
    · have hsplit : front ++ '/' :: name.toList = front ++ ['/'] ++ name.toList := by simp
      rw [hsplit, origin, origin, Path.isAbsolute_append (by simp)]
  · rw [hjoin]
    refine hsuffices path hfollow ?_
    rw [origin, origin, Path.isAbsolute_append hne]

/-- A path that goes on with names names what these names lead to. -/
theorem aim_join (path : List Char) {names : List String}
    (hnames : ∀ name ∈ names, IsNodeName name) (hne : names ≠ []) :
    d.aim (Path.join path ("/".intercalate names).toList) = d.aim path ++ names := by
  have hsplit := splitBy_names hnames hne
  have habsolute := isAbsolute_names hnames hne
  rcases Path.join_cases path habsolute with ⟨rfl, hjoin⟩ | ⟨front, rfl, hjoin⟩ | ⟨hpath, hjoin⟩
  · have hempty : d.aim [] = d.workDir := rfl
    rw [hjoin, hempty, aim, hsplit, lead_names _ hnames, origin, habsolute]
    rfl
  · have horigin : d.origin (front ++ '/' :: ("/".intercalate names).toList) =
        d.origin (front ++ ['/']) := by
      have happend : front ++ '/' :: ("/".intercalate names).toList =
          front ++ ['/'] ++ ("/".intercalate names).toList := by simp
      rw [happend, origin, origin, Path.isAbsolute_append (by simp)]
    have hidle : ∀ l, lead l (Text.splitBy (· = '/') []) = l := fun l => rfl
    rw [hjoin, aim, aim, horigin, Text.splitBy_append_cons (by simp),
      Text.splitBy_append_cons (by simp), lead_append, lead_append, hsplit, lead_names _ hnames,
      hidle]
  · rw [hjoin, aim, aim, Text.splitBy_append_cons (by simp), lead_append, hsplit,
      lead_names _ hnames, origin, origin, Path.isAbsolute_append hpath]

end Disk
end HeaderSurvey
