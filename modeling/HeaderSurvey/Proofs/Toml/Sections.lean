import HeaderSurvey.Proofs.Toml.Tables

/-!
# What a document of sections holds

Lines that say clauses fall into sections, one for each heading, and none of them has a header with
a dot or one that is repeated.  Whatever is added behind such lines leads to its place in the
finished document, whatever stands behind it (`leads_of_assemble`); and if no name comes twice, the
document holds one table for each heading, with just the settings below it
(`assemble_of_matches`).  The same is said of the texts in which such documents are written
(`IsDocument.parse`, `IsAddition.leads_of_parse`).
-/

namespace HeaderSurvey.Toml

open Reader
open Entries (Has HasIn find?_append_new)

variable {xs ys : Entries} {s : Section}

/-! ### Lines and sections -/

theorem exists_append_of_forall₂ {α β : Type} {R : α → β → Prop} {as bs : List α} {ls : List β}
    (h : List.Forall₂ R (as ++ bs) ls) :
    ∃ ms ns, ls = ms ++ ns ∧ List.Forall₂ R as ms ∧ List.Forall₂ R bs ns :=
  ⟨ls.take as.length, ls.drop as.length, (List.take_append_drop _ _).symm,
    (List.forall₂_take_append _ _ _ h.flip).flip, (List.forall₂_drop_append _ _ _ h.flip).flip⟩

/-- The assignments in front belong to what holds the lines behind them. -/
theorem sections_assignments (as : List Assignment) (ls : List Line) :
    sections (as.map .assignment ++ ls) = (as ++ (sections ls).1, (sections ls).2) := by
  induction as with
  | nil => rfl
  | cons a as ih =>
    rw [List.map_cons, List.cons_append, sections, ih]
    rfl

/-- A header ends what is in front of it. -/
theorem sections_append_header (ls ms : List Line) (repeated : Bool) (key : DottedKey)
    (extent : Extent) :
    sections (ls ++ .header repeated key extent :: ms) =
      ((sections ls).1, (sections ls).2 ++
        ⟨repeated, key, extent, (sections ms).1⟩ :: (sections ms).2) := by
  induction ls with
  | nil => rfl
  | cons l ls ih =>
    cases l with
    | header r k e => rw [List.cons_append, sections, ih]; rfl
    | assignment a => rw [List.cons_append, sections, ih]; rfl

/-- A section with a header of one name, which is not repeated. -/
def Section.IsPlain (s : Section) : Prop :=
  s.repeated = false ∧ s.key.path = []

theorem path_eq_nil {k : DottedKey} {name : String} (h : k.names = [name]) :
    k.path = [] ∧ k.last.name = name := by
  rw [DottedKey.names] at h
  cases hpath : k.path with
  | nil =>
    rw [hpath] at h
    exact ⟨rfl, (List.cons.inj h).1⟩
  | cons x path =>
    rw [hpath] at h
    exact absurd (congrArg List.length h) (by simp)

theorem isPlain_of_matches {cs : List Clause} {ls : List Line}
    (h : List.Forall₂ Clause.Matches cs ls) : ∀ s ∈ (sections ls).2, s.IsPlain := by
  induction h with
  | nil => exact fun _ hs => absurd hs List.not_mem_nil
  | @cons c l cs ls hl _ ih =>
    cases c with
    | heading name =>
      cases l with
      | assignment a => exact hl.elim
      | header repeated key extent =>
        intro s hs
        rcases List.mem_cons.mp hs with rfl | hs
        · exact ⟨hl.1, (path_eq_nil hl.2).1⟩
        · exact ih s hs
    | setting name content =>
      cases l with
      | assignment a => exact ih
      | header repeated key extent => exact hl.elim

/-! ### Plain sections -/

/-- All items are tables. -/
def AllTables (xs : Entries) : Prop :=
  ∀ name item, xs.find? name = some item → ∃ e kind within, item = .table e kind within

theorem allTables_place (h : s.place xs = some ys) (hrepeated : s.repeated = false)
    (hxs : AllTables xs) : AllTables ys := by
  rcases place_cases h with ⟨htrue, -⟩ | ⟨-, implied, within, -, rfl, -⟩
  · rw [hrepeated] at htrue
    exact absurd htrue Bool.false_ne_true
  · intro name item hfind
    by_cases hname : name = s.key.last.name
    · subst hname
      rw [find?_append_new Entries.find?_erase_self] at hfind
      exact ⟨_, _, within, (Option.some.inj hfind).symm⟩
    · rw [Entries.find?_append, Entries.find?_erase_of_ne hname] at hfind
      have hnew : Entries.find? name [(s.key.last, .table (some s.extent) .header within)] = none := by
        simp [Entries.find?, Ne.symm hname]
      rw [hnew, Option.or_none] at hfind
      exact hxs name item hfind

/-- Puts sections one after another. -/
def placeAll (xs : Entries) (ss : List Section) : Option Entries :=
  ss.foldlM (fun xs s => changeAt s.place s.key.path xs) xs

theorem placeAll_cons_eq_some {ss : List Section} : placeAll xs (s :: ss) = some ys ↔
    ∃ mid, changeAt s.place s.key.path xs = some mid ∧ placeAll mid ss = some ys := by
  rw [placeAll, List.foldlM_cons]
  exact Option.bind_eq_some_iff

theorem assemble_eq_some {top : List Assignment} {ss : List Section} :
    assemble top ss = some ys ↔ ∃ mid, addAll [] top = some mid ∧ placeAll mid ss = some ys := by
  rw [assemble]
  exact Option.bind_eq_some_iff

/-- What each section keeps, all of them keep. -/
theorem keeps_placeAll {P : Entries → Prop} {ss : List Section}
    (hkeep : ∀ s ∈ ss, ∀ xs ys, changeAt s.place s.key.path xs = some ys → P xs → P ys)
    (h : placeAll xs ss = some ys) (hxs : P xs) : P ys := by
  induction ss generalizing xs with
  | nil =>
    obtain rfl := Option.some.inj h
    exact hxs
  | cons s ss ih =>
    obtain ⟨mid, hmid, hrest⟩ := placeAll_cons_eq_some.mp h
    exact ih (fun s hs => hkeep s (List.mem_cons_of_mem _ hs)) hrest
      (hkeep s (List.mem_cons_self ..) xs mid hmid hxs)

theorem allTables_placeAll {ss : List Section} (hplain : ∀ s ∈ ss, s.IsPlain)
    (h : placeAll xs ss = some ys) (hxs : AllTables xs) : AllTables ys := by
  refine keeps_placeAll (fun s hs xs ys hplace => ?_) h hxs
  obtain ⟨hrepeated, hpath⟩ := hplain s hs
  rw [hpath] at hplace
  exact allTables_place hplace hrepeated

/-! ### What is added leads to its place -/

/-- The way leads to something: to an item under its first name, which is a table with an item under
the second name, if there is a second. -/
def Leads : List String → Entries → Prop
  | [], _ => True
  | [name], xs => Has name xs
  | outer :: inner :: _, xs => HasIn outer inner xs

/-- Behind a first name, the way of a key goes on with the name that comes first in the key. -/
theorem leads_cons_names (outer : String) (k : DottedKey) :
    Leads (outer :: k.names) xs ↔ HasIn outer (firstName k.path k.last) xs := by
  rw [DottedKey.names]
  cases k.path <;> rfl

/-- No section takes away what a way leads to. -/
theorem leads_placeAll {way : List String} {ss : List Section} (h : placeAll xs ss = some ys)
    (hxs : Leads way xs) : Leads way ys := by
  refine keeps_placeAll (P := Leads way) (fun s _ xs ys hplace hxs => ?_) h hxs
  match way, hxs with
  | [], _ => trivial
  | [name], hxs => exact has_changeAt (fun _ _ => has_place) hplace hxs
  | outer :: inner :: _, hxs =>
    exact hasIn_changeAt (fun _ _ => has_place) (fun _ _ => hasIn_place) hplace hxs

/-- The name of the last section that begins in the clauses. -/
def lastHeading (cs : List Clause) : Option String :=
  (cs.filterMap fun c => match c with
    | .heading name => some name
    | .setting _ _ => none).getLast?

/-- The way to what is added behind the clauses: a key belongs to the section that was begun last,
and a header has the whole way. -/
def Addition.way (cs : List Clause) : Addition → List String
  | key names => (lastHeading cs).toList ++ names
  | table names => names

/-- Clauses of which no setting stands in front of the first section. -/
def StartsWithHeading (cs : List Clause) : Prop :=
  ∀ name content rest, cs ≠ .setting name content :: rest

/-- The clauses are settings of no section, or the last section can be told from those before. -/
theorem settings_or_section (cs : List Clause) :
    (∃ ss : List (String × Content), cs = ss.map fun p => .setting p.1 p.2) ∨
      ∃ before name, ∃ ss : List (String × Content),
        cs = before ++ .heading name :: ss.map fun p => .setting p.1 p.2 := by
  induction cs with
  | nil => exact Or.inl ⟨[], rfl⟩
  | cons c cs ih =>
    rcases ih with ⟨ss, rfl⟩ | ⟨before, name, ss, rfl⟩
    · cases c with
      | heading name => exact Or.inr ⟨[], name, ss, rfl⟩
      | setting name content => exact Or.inl ⟨(name, content) :: ss, rfl⟩
    · exact Or.inr ⟨c :: before, name, ss, rfl⟩

theorem lastHeading_append (before : List Clause) (name : String) (ss : List (String × Content)) :
    lastHeading (before ++ .heading name :: ss.map fun p => .setting p.1 p.2) = some name := by
  have hnone : (ss.map fun p => Clause.setting p.1 p.2).filterMap (fun c => match c with
      | .heading name => some name
      | .setting _ _ => none) = [] := by
    rw [List.filterMap_map]
    exact List.filterMap_eq_nil_iff.mpr fun _ _ => rfl
  rw [lastHeading, List.filterMap_append, List.filterMap_cons, hnone, List.getLast?_append]
  rfl

/-- Lines that say settings are assignments. -/
theorem assignments_of_matches {ss : List (String × Content)} {ls : List Line}
    (h : List.Forall₂ Clause.Matches (ss.map fun p => .setting p.1 p.2) ls) :
    ∃ as : List Assignment, ls = as.map .assignment ∧
      List.Forall₂ (fun p a => a.key.names = [p.1] ∧ p.2.Matches a.item) ss as := by
  induction ss generalizing ls with
  | nil =>
    cases h
    exact ⟨[], rfl, .nil⟩
  | cons p ss ih =>
    cases h with
    | @cons _ l _ ls hl hrest =>
      obtain ⟨as, rfl, has⟩ := ih hrest
      cases l with
      | assignment a => exact ⟨a :: as, rfl, .cons hl has⟩
      | header repeated key extent => exact hl.elim

theorem StartsWithHeading.sections_fst {cs : List Clause} {ls : List Line}
    (hcs : StartsWithHeading cs) (h : List.Forall₂ Clause.Matches cs ls) :
    (sections ls).1 = [] := by
  cases h with
  | nil => rfl
  | @cons c l cs ls hl _ =>
    cases c with
    | heading name =>
      cases l with
      | assignment a => exact hl.elim
      | header repeated key extent => rfl
    | setting name content => exact absurd rfl (hcs name content cs)

/-- Behind plain sections, a section leads to its table, and in its table to what it assigns. -/
theorem leads_of_section {ss rest : List Section} {names : List String}
    (hplain : ∀ s ∈ ss, s.IsPlain)
    (hs : names = s.key.names ∨ ∃ a ∈ s.assignments, s.IsPlain ∧
      names = s.key.last.name :: a.key.names)
    (h : placeAll [] (ss ++ s :: rest) = some ys) : Leads names ys := by
  rw [placeAll, List.foldlM_append] at h
  obtain ⟨mid, hmid, hbehind⟩ := Option.bind_eq_some_iff.mp h
  obtain ⟨mid', hplace, hrest⟩ := placeAll_cons_eq_some.mp hbehind
  -- a header with a dot leads into the table of its first name, if that is a table
  have htables : AllTables mid := allTables_placeAll hplain hmid fun _ _ hfind => nomatch hfind
  refine leads_placeAll hrest ?_
  rcases hs with rfl | ⟨a, ha, ⟨hrepeated, hpath⟩, rfl⟩
  · rw [DottedKey.names]
    cases hpath : s.key.path with
    | nil =>
      rw [hpath] at hplace
      exact has_changeAt_place hplace
    | cons k path =>
      rw [hpath] at hplace
      have hin := hasIn_changeAt_place hplace (htables k.name)
      exact (leads_cons_names k.name ⟨path, s.key.last⟩).mpr hin
  · rw [hpath] at hplace
    have hin := hasIn_place_of_mem hplace hrepeated ha
    exact (leads_cons_names _ a.key).mpr hin

/-- At the top, a key leads to what it adds if it comes first. -/
theorem leads_addAll {a : Assignment} {as : List Assignment} (h : addAll [] (a :: as) = some ys) :
    Leads a.key.names ys := by
  obtain ⟨mid, hmid, hrest⟩ := addAll_cons_eq_some.mp h
  rw [DottedKey.names]
  cases hpath : a.key.path with
  | nil =>
    rw [hpath] at hmid
    exact has_addAll hrest (has_addDotted_self hmid)
  | cons k path =>
    rw [hpath] at hmid
    have hin := hasIn_addAll hrest (hasIn_addDotted_nil hmid)
    exact (leads_cons_names k.name ⟨path, a.key.last⟩).mpr hin

/-- A key behind the settings of a section leads to its place in the table of the section. -/
theorem leads_of_assignment {before : List Clause} {name : String} {ss : List (String × Content)}
    {ls ms : List Line} {a : Assignment} (hbefore : StartsWithHeading before)
    (hls : List.Forall₂ Clause.Matches
      (before ++ .heading name :: ss.map fun p => .setting p.1 p.2) ls)
    (h : assemble (sections (ls ++ .assignment a :: ms)).1
      (sections (ls ++ .assignment a :: ms)).2 = some ys) :
    Leads (name :: a.key.names) ys := by
  obtain ⟨front, back, rfl, hfront, hback⟩ := exists_append_of_forall₂ hls
  cases hback with
  | @cons _ l _ back hl hback =>
    obtain ⟨as, rfl, -⟩ := assignments_of_matches hback
    cases l with
    | assignment b => exact hl.elim
    | header repeated key extent =>
      obtain ⟨hrepeated, hnames⟩ := hl
      obtain ⟨hpath, hlast⟩ := path_eq_nil hnames
      -- the section begins at its header and takes the key in behind its settings
      rw [List.append_assoc, List.cons_append, sections_append_header, sections_assignments,
        hbefore.sections_fst hfront] at h
      obtain ⟨top, htop, hplace⟩ := assemble_eq_some.mp h
      obtain rfl := Option.some.inj htop
      refine leads_of_section (isPlain_of_matches hfront) (Or.inr ⟨a, ?_, ⟨hrepeated, hpath⟩, ?_⟩)
        hplace
      · exact List.mem_append_right _ (List.mem_cons_self ..)
      · rw [hlast]

/-- **What is added behind sections leads to its place in the document**, whatever comes behind
it. -/
theorem leads_of_assemble {cs : List Clause} {ls ms : List Line} {l : Line} {added : Addition}
    (hcs : StartsWithHeading cs) (hls : List.Forall₂ Clause.Matches cs ls) (hl : added.Matches l)
    (h : assemble (sections (ls ++ l :: ms)).1 (sections (ls ++ l :: ms)).2 = some ys) :
    Leads (added.way cs) ys := by
  cases l with
  | header repeated key extent =>
    cases added with
    | key names => exact hl.elim
    | table names =>
      obtain rfl : key.names = names := hl
      rw [sections_append_header, hcs.sections_fst hls] at h
      obtain ⟨top, htop, hplace⟩ := assemble_eq_some.mp h
      obtain rfl := Option.some.inj htop
      exact leads_of_section (isPlain_of_matches hls) (Or.inl rfl) hplace
  | assignment a =>
    cases added with
    | table names => exact hl.elim
    | key names =>
      obtain rfl : a.key.names = names := hl
      rcases settings_or_section cs with ⟨ss, rfl⟩ | ⟨before, name, ss, rfl⟩
      · -- no section has begun, so the key comes first of all
        cases ss with
        | cons p ss => exact absurd rfl (hcs p.1 p.2 _)
        | nil =>
          cases hls
          obtain ⟨top, htop, hplace⟩ := assemble_eq_some.mp h
          exact leads_placeAll hplace (leads_addAll htop)
      · have hbefore : StartsWithHeading before := by
          rintro n c rest rfl
          exact hcs n c _ rfl
        rw [Addition.way, lastHeading_append]
        exact leads_of_assignment hbefore hls h

/-! ### Documents in which nothing is named twice -/

/-- A section with the settings below its heading. -/
abbrev SectionText := String × List (String × Content)

/-- What a section says, line by line. -/
def SectionText.clauses (sec : SectionText) : List Clause :=
  .heading sec.1 :: sec.2.map fun p => .setting p.1 p.2

/-- No name comes twice. -/
def NamesOnce (secs : List SectionText) : Prop :=
  (secs.map Prod.fst).Nodup ∧ ∀ sec ∈ secs, (sec.2.map Prod.fst).Nodup

/-- The entries of a table are the settings, in their order. -/
def HoldsSettings (ps : List (String × Content)) (entries : Entries) : Prop :=
  List.Forall₂ (fun p entry => entry.1.name = p.1 ∧ p.2.Matches entry.2) ps entries

/-- An entry is the table of a section. -/
def HoldsSection (sec : SectionText) (entry : Key × Item) : Prop :=
  entry.1.name = sec.1 ∧ ∃ e within, entry.2 = .table e .header within ∧ HoldsSettings sec.2 within

/-- The section that is read says what is written. -/
def Section.Matches (sec : SectionText) (s : Section) : Prop :=
  s.repeated = false ∧ s.key.names = [sec.1] ∧
    List.Forall₂ (fun p a => a.key.names = [p.1] ∧ p.2.Matches a.item) sec.2 s.assignments

theorem sections_of_matches {secs : List SectionText} {ls : List Line}
    (h : List.Forall₂ Clause.Matches (secs.flatMap SectionText.clauses) ls) :
    ∃ ss, sections ls = ([], ss) ∧ List.Forall₂ Section.Matches secs ss := by
  induction secs generalizing ls with
  | nil =>
    cases h
    exact ⟨[], rfl, .nil⟩
  | cons sec secs ih =>
    rw [List.flatMap_cons] at h
    obtain ⟨front, rest, rfl, hfront, hrest⟩ := exists_append_of_forall₂ h
    obtain ⟨ss, hss, hmatch⟩ := ih hrest
    cases hfront with
    | @cons _ l _ back hl hback =>
      obtain ⟨as, rfl, has⟩ := assignments_of_matches hback
      cases l with
      | assignment a => exact hl.elim
      | header repeated key extent =>
        refine ⟨⟨repeated, key, extent, as⟩ :: ss, ?_, .cons ⟨hl.1, hl.2, has⟩ hmatch⟩
        rw [List.cons_append, sections, sections_assignments, hss, List.append_nil]

theorem find?_append_of_ne {name : String} {entry : Key × Item} (h : xs.find? name = none)
    (hne : entry.1.name ≠ name) : Entries.find? name (xs ++ [entry]) = none := by
  rw [Entries.find?_append, h, Option.none_or]
  simp [Entries.find?, hne]

/-- Settings of different names are added one after the other. -/
theorem addAll_of_matches {ps : List (String × Content)} {as : List Assignment}
    (h : List.Forall₂ (fun p a => a.key.names = [p.1] ∧ p.2.Matches a.item) ps as)
    (hnodup : (ps.map Prod.fst).Nodup) (hnew : ∀ p ∈ ps, xs.find? p.1 = none) :
    ∃ entries, addAll xs as = some (xs ++ entries) ∧ HoldsSettings ps entries := by
  induction h generalizing xs with
  | nil => exact ⟨[], by rw [List.append_nil]; rfl, .nil⟩
  | @cons p a ps as ha _ ih =>
    obtain ⟨hnames, hitem⟩ := ha
    obtain ⟨hpath, hlast⟩ := path_eq_nil hnames
    obtain ⟨hp, hps⟩ := List.nodup_cons.mp hnodup
    have hfind : xs.find? a.key.last.name = none := by
      rw [hlast]
      exact hnew p (List.mem_cons_self ..)
    have hadd : addDotted a.key.last a.item a.key.path xs = some (xs ++ [(a.key.last, a.item)]) := by
      rw [hpath, addDotted, Entries.add, hfind]
    have hrest : ∀ q ∈ ps, Entries.find? q.1 (xs ++ [(a.key.last, a.item)]) = none := by
      intro q hq
      refine find?_append_of_ne (hnew q (List.mem_cons_of_mem _ hq)) ?_
      rintro hname
      exact hp (List.mem_map.mpr ⟨q, hq, hname.symm.trans hlast⟩)
    obtain ⟨entries, hentries, hholds⟩ := ih hps hrest
    refine ⟨(a.key.last, a.item) :: entries, ?_, .cons ⟨hlast, hitem⟩ hholds⟩
    rw [addAll_cons_eq_some.mpr ⟨_, hadd, hentries⟩, List.append_assoc]
    rfl

theorem erase_eq_self {name : String} (h : xs.find? name = none) : xs.erase name = xs := by
  rw [Entries.find?, Option.map_eq_none_iff, List.find?_eq_none] at h
  refine List.filter_eq_self.mpr fun entry hentry => ?_
  simpa using h entry hentry

/-- A section of a new name adds its table. -/
theorem place_of_matches {sec : SectionText} (h : Section.Matches sec s)
    (hnodup : (sec.2.map Prod.fst).Nodup) (hnew : xs.find? sec.1 = none) :
    ∃ entry, changeAt s.place s.key.path xs = some (xs ++ [entry]) ∧ HoldsSection sec entry := by
  obtain ⟨hrepeated, hnames, has⟩ := h
  obtain ⟨hpath, hlast⟩ := path_eq_nil hnames
  have hfree : ∀ sec' ∈ sec.2, Entries.find? sec'.1 [] = none := fun _ _ => rfl
  obtain ⟨within, hwithin, hholds⟩ := addAll_of_matches has hnodup hfree
  rw [List.nil_append] at hwithin
  refine ⟨(s.key.last, .table (some s.extent) .header within), ?_, hlast, _, within, rfl, hholds⟩
  have hplace : s.place xs = some (xs.erase s.key.last.name ++
      [(s.key.last, .table (some s.extent) .header within)]) := by
    simp only [Section.place, hrepeated, Bool.false_eq_true, if_false, hlast, hnew]
    exact Option.bind_eq_some_iff.mpr ⟨[], rfl, Option.bind_eq_some_iff.mpr ⟨within, hwithin, rfl⟩⟩
  rw [hpath, changeAt, hplace, hlast, erase_eq_self hnew]

theorem placeAll_of_matches {secs : List SectionText} {ss : List Section}
    (h : List.Forall₂ Section.Matches secs ss) (hnodup : NamesOnce secs)
    (hnew : ∀ sec ∈ secs, xs.find? sec.1 = none) :
    ∃ entries, placeAll xs ss = some (xs ++ entries) ∧ List.Forall₂ HoldsSection secs entries := by
  induction h generalizing xs with
  | nil => exact ⟨[], by rw [List.append_nil]; rfl, .nil⟩
  | @cons sec s secs ss hs _ ih =>
    obtain ⟨hnames, hsettings⟩ := hnodup
    obtain ⟨hsec, hsecs⟩ := List.nodup_cons.mp hnames
    obtain ⟨entry, hplace, hentry⟩ := place_of_matches hs (hsettings sec (List.mem_cons_self ..))
      (hnew sec (List.mem_cons_self ..))
    have hrest : ∀ other ∈ secs, Entries.find? other.1 (xs ++ [entry]) = none := by
      intro other hother
      refine find?_append_of_ne (hnew other (List.mem_cons_of_mem _ hother)) ?_
      rintro hname
      exact hsec (List.mem_map.mpr ⟨other, hother, hname.symm.trans hentry.1⟩)
    obtain ⟨entries, hentries, hholds⟩ :=
      ih ⟨hsecs, fun sec hsec => hsettings sec (List.mem_cons_of_mem _ hsec)⟩ hrest
    refine ⟨entry :: entries, ?_, .cons hentry hholds⟩
    rw [placeAll_cons_eq_some.mpr ⟨_, hplace, hentries⟩, List.append_assoc]
    rfl

/-- **A document in which nothing is named twice holds its sections**, with just their settings. -/
theorem assemble_of_matches {secs : List SectionText} {ls : List Line}
    (h : List.Forall₂ Clause.Matches (secs.flatMap SectionText.clauses) ls)
    (hnodup : NamesOnce secs) :
    ∃ entries, assemble (sections ls).1 (sections ls).2 = some entries ∧
      List.Forall₂ HoldsSection secs entries := by
  obtain ⟨ss, hss, hmatch⟩ := sections_of_matches h
  have hfree : ∀ sec ∈ secs, Entries.find? sec.1 [] = none := fun _ _ => rfl
  obtain ⟨entries, hentries, hholds⟩ := placeAll_of_matches hmatch hnodup hfree
  rw [hss]
  exact ⟨entries, hentries, hholds⟩

/-! ### Texts -/

/-- The byte order mark. -/
def isMark (c : Char) : Bool :=
  c = '\ufeff'

theorem IsKey.stops_isMark {k v : List Char} {ns : List (List Char)} (h : IsKey k ns) :
    Stops isMark (k ++ v) := by
  intro x rest hs
  refine decide_eq_false ?_
  rintro rfl
  exact h.head?_ne (Or.inr rfl) (by rw [hs]; rfl)

theorem IsClause.stops_isMark {w v : List Char} {c : Clause} (h : IsClause w c) :
    Stops isMark (w ++ v) := by
  cases h with
  | heading hg _ =>
    rw [List.append_assoc]
    exact hg.stops_of (by decide) (by decide) (stops_cons (by decide))
  | setting hk _ _ =>
    rw [List.append_assoc]
    exact hk.stops_isMark

/-- No line begins with the mark. -/
theorem IsLines.stops_isMark {v tail : List Char} {cs : List Clause} (h : IsLines v cs)
    (htail : Stops isMark tail) : Stops isMark (v ++ tail) := by
  cases h with
  | nil => exact htail
  | empty hl _ =>
    rw [List.append_assoc]
    exact hl.stops_of (by decide)
  | clause hc _ _ =>
    rw [List.append_assoc]
    exact hc.stops_isMark

theorem IsLastLine.stops_isMark {v : List Char} {cs : List Clause} (h : IsLastLine v cs) :
    Stops isMark v := by
  cases h with
  | @empty g w hg hw =>
    have hend : Stops isMark (w ++ []) := hw.stops_of (by decide) stops_nil
    rw [List.append_nil] at hend
    exact hg.stops_of (by decide) (by decide) hend
  | clause hc _ _ => exact hc.stops_isMark

theorem IsAddition.stops_isMark {w v : List Char} {added : Addition} (h : IsAddition w added) :
    Stops isMark (w ++ v) := by
  cases h with
  | key hk =>
    rw [List.append_assoc]
    exact hk.stops_isMark
  | table hg _ =>
    rw [List.append_assoc]
    exact hg.stops_of (by decide) (by decide) (stops_cons (by decide))
  | tables hg _ =>
    rw [List.append_assoc]
    exact hg.stops_of (by decide) (by decide) (stops_cons (by decide))

/-- A text without the mark is read from its beginning. -/
theorem parse_ofList {text : List Char} (h : Stops isMark text) :
    parse (String.ofList text) =
      match lines.run (Cursor.between [] text) with
      | none => none
      | some (ls, _) => assemble (sections ls).1 (sections ls).2 := by
  have hskip : (Cursor.atStart text).skipText? ['\ufeff'] = none := by
    cases text with
    | nil => rfl
    | cons x rest =>
      have hx : x ≠ '\ufeff' := of_decide_eq_false (h x rest rfl)
      rw [Cursor.atStart, Cursor.skipText?, if_neg hx.symm]
  rw [parse, String.toList_ofList, hskip]
  rfl

/-- **A document in which nothing is named twice is read as its sections.** -/
theorem IsDocument.parse {text : List Char} {secs : List SectionText}
    (h : IsDocument text (secs.flatMap SectionText.clauses)) (hnodup : NamesOnce secs) :
    ∃ entries, Toml.parse (String.ofList text) = some entries ∧
      List.Forall₂ HoldsSection secs entries := by
  have hmark : Stops isMark text := by
    obtain ⟨front, last, cs₁, cs₂, hfront, hlast, rfl, -⟩ := h
    exact hfront.stops_isMark hlast.stops_isMark
  obtain ⟨ls, hrun, hls⟩ := h.reads []
  obtain ⟨entries, hentries, hholds⟩ := assemble_of_matches hls hnodup
  rw [List.append_nil] at hrun
  exact ⟨entries, by rw [parse_ofList hmark, hrun]; exact hentries, hholds⟩

/-- **If a text is read that begins with sections and an addition, the addition is in its place.** -/
theorem IsAddition.leads_of_parse {front w rest : List Char} {cs : List Clause} {added : Addition}
    (hw : IsAddition w added) (hfront : IsLines front cs) (hcs : StartsWithHeading cs)
    (h : Toml.parse (String.ofList (front ++ (w ++ rest))) = some ys) :
    Leads (added.way cs) ys := by
  rw [parse_ofList (hfront.stops_isMark hw.stops_isMark)] at h
  cases hrun : lines.run (Cursor.between [] (front ++ (w ++ rest))) with
  | none =>
    rw [hrun] at h
    exact nomatch h
  | some result =>
    obtain ⟨ls, c⟩ := result
    rw [hrun] at h
    obtain ⟨xs, _, rfl, hxs, l, rest', rfl, hl⟩ :=
      hfront.givesRounds hw.givesRounds _ [] ls c hrun
    exact leads_of_assemble hcs hxs hl h

end HeaderSurvey.Toml
