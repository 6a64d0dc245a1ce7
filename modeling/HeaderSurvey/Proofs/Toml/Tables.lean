import HeaderSurvey.Proofs.Toml.Lines

/-!
# What the tables of a document hold

A document is put together line by line, and no step takes a name away: a name that a table has once
it keeps, and so does a table inside it (`Has`, `HasIn`).  So what is added is there at the end,
whatever is added behind it (`has_addAll_of_mem`, `hasIn_place_of_mem`).
-/

namespace HeaderSurvey.Toml

/-! ### Names -/

namespace Entries

variable {entries others : Entries} {name other : String} {item new : Item} {key : Key}

/-- There is an item under the name. -/
def Has (name : String) (entries : Entries) : Prop :=
  ∃ item, entries.find? name = some item

/-- There is a table under a name, and it has an item under another. -/
def HasIn (outer inner : String) (entries : Entries) : Prop :=
  ∃ extent kind within, entries.find? outer = some (.table extent kind within) ∧ Has inner within

theorem find?_append : find? name (entries ++ others) = (entries.find? name).or (others.find? name) := by
  simp only [find?, List.find?_append, Option.map_or]

theorem find?_append_left (h : entries.find? name = some item) :
    find? name (entries ++ others) = some item := by
  rw [find?_append, h, Option.some_or]

theorem find?_append_new (h : entries.find? key.name = none) :
    find? key.name (entries ++ [(key, item)]) = some item := by
  rw [find?_append, h, Option.none_or]
  simp [find?]

theorem find?_replace (h : entries.find? name = some item) :
    find? name (entries.replace name new) = some new := by
  induction entries with
  | nil => exact nomatch h
  | cons entry entries ih =>
    obtain ⟨key, old⟩ := entry
    by_cases hname : key.name = name
    · simp [find?, replace, hname]
    · have hrest : find? name entries = some item := by simpa [find?, hname] using h
      have hreplace := ih hrest
      simp only [find?, replace, List.map_cons, if_neg hname] at hreplace ⊢
      simpa [hname] using hreplace

theorem find?_replace_of_ne (h : name ≠ other) :
    find? name (entries.replace other new) = entries.find? name := by
  induction entries with
  | nil => rfl
  | cons entry entries ih =>
    obtain ⟨key, old⟩ := entry
    simp only [find?, replace, List.map_cons] at ih ⊢
    by_cases hname : key.name = name
    · rw [if_neg (by rwa [hname]), List.find?_cons_of_pos (by simpa using hname),
        List.find?_cons_of_pos (by simpa using hname)]
    · have hkey : (if key.name = other then (key, new) else (key, old)).1 = key := by
        split <;> rfl
      rw [List.find?_cons_of_neg (by simpa [hkey] using hname),
        List.find?_cons_of_neg (by simpa using hname), ih]

theorem find?_erase_of_ne (h : name ≠ other) :
    find? name (entries.erase other) = entries.find? name := by
  simp only [find?, erase, List.find?_filter]
  congr 2
  funext entry
  by_cases hentry : entry.1.name = name
  · simp [hentry, h]
  · simp [hentry]

theorem find?_erase_self : find? name (entries.erase name) = none := by
  simp [find?, erase, List.find?_filter]

theorem Has.append (h : Has name entries) : Has name (entries ++ others) := by
  obtain ⟨item, hitem⟩ := h
  exact ⟨item, find?_append_left hitem⟩

theorem Has.replace (h : Has name entries) : Has name (entries.replace other new) := by
  obtain ⟨item, hitem⟩ := h
  by_cases hname : name = other
  · subst hname
    exact ⟨new, find?_replace hitem⟩
  · exact ⟨item, (find?_replace_of_ne hname).trans hitem⟩

theorem HasIn.append {outer inner : String} (h : HasIn outer inner entries) :
    HasIn outer inner (entries ++ others) := by
  obtain ⟨extent, kind, within, hfind, hinner⟩ := h
  exact ⟨extent, kind, within, find?_append_left hfind, hinner⟩

theorem HasIn.replace_of_ne {outer inner : String} (h : HasIn outer inner entries)
    (hne : outer ≠ other) : HasIn outer inner (entries.replace other new) := by
  obtain ⟨extent, kind, within, hfind, hinner⟩ := h
  exact ⟨extent, kind, within, (find?_replace_of_ne hne).trans hfind, hinner⟩

/-- An item is there as long as the table around it is replaced by one that has it too. -/
theorem HasIn.replace {outer inner : String} {old : Item} (h : HasIn outer inner entries)
    (hold : entries.find? other = some old)
    (hnew : ∀ extent kind within, old = .table extent kind within → Has inner within →
      ∃ within', new = .table extent kind within' ∧ Has inner within') :
    HasIn outer inner (entries.replace other new) := by
  by_cases hname : outer = other
  · subst hname
    obtain ⟨extent, kind, within, hfind, hinner⟩ := h
    rw [hold] at hfind
    obtain ⟨within', rfl, hinner'⟩ := hnew _ _ _ (Option.some.inj hfind) hinner
    exact ⟨extent, kind, within', find?_replace hold, hinner'⟩
  · exact h.replace_of_ne hname

end Entries

open Entries (Has HasIn find?_append_left find?_append_new find?_replace)

variable {xs ys : Entries} {name outer inner : String} {key : Key} {item : Item} {path : List Key}

/-- The name that comes first in a key. -/
def firstName (path : List Key) (last : Key) : String :=
  (path.head?.getD last).name

/-! ### Dotted keys -/

theorem add_eq_some (h : xs.add key item = some ys) :
    xs.find? key.name = none ∧ ys = xs ++ [(key, item)] := by
  unfold Entries.add at h
  split at h
  · exact nomatch h
  · exact ⟨by assumption, (Option.some.inj h).symm⟩

/-- A dotted key changes the item under its first name, or adds one. -/
theorem addDotted_cases (h : addDotted key item path xs = some ys) :
    (∃ k new, k.name = firstName path key ∧ xs.find? k.name = none ∧ ys = xs ++ [(k, new)]) ∨
      ∃ k rest old new, path = k :: rest ∧ xs.find? k.name = some old ∧
        ys = xs.replace k.name new ∧
        ∀ extent kind within, old = .table extent kind within →
          ∃ within', new = .table extent kind within' ∧
            addDotted key item rest within = some within' := by
  cases path with
  | nil =>
    obtain ⟨hnone, rfl⟩ := add_eq_some h
    exact Or.inl ⟨key, item, rfl, hnone, rfl⟩
  | cons k rest =>
    simp only [addDotted] at h
    split at h
    · next hnone =>
      obtain ⟨within, -, hys⟩ := Option.bind_eq_some_iff.mp h
      exact Or.inl ⟨k, _, rfl, hnone, (Option.some.inj hys).symm⟩
    · next extent within hsome =>
      obtain ⟨within', hwithin, hys⟩ := Option.bind_eq_some_iff.mp h
      refine Or.inr ⟨k, rest, _, _, rfl, hsome, (Option.some.inj hys).symm, ?_⟩
      rintro _ _ _ ⟨⟩
      exact ⟨within', rfl, hwithin⟩
    · next extent within hsome =>
      split at h
      · exact nomatch h
      · obtain ⟨within', hwithin, hys⟩ := Option.bind_eq_some_iff.mp h
        refine Or.inr ⟨k, rest, _, _, rfl, hsome, (Option.some.inj hys).symm, ?_⟩
        rintro _ _ _ ⟨⟩
        exact ⟨within', rfl, hwithin⟩
    · next items hsome =>
      split at h
      · split at h
        · exact nomatch h
        · obtain ⟨within', -, hys⟩ := Option.bind_eq_some_iff.mp h
          refine Or.inr ⟨k, rest, _, _, rfl, hsome, (Option.some.inj hys).symm, ?_⟩
          rintro _ _ _ ⟨⟩
      · exact nomatch h
    · exact nomatch h

/-- What a dotted key leads to is there. -/
theorem has_addDotted_self (h : addDotted key item path xs = some ys) :
    Has (firstName path key) ys := by
  rcases addDotted_cases h with ⟨k, new, hname, hnone, rfl⟩ | ⟨k, rest, old, new, rfl, hsome, rfl, -⟩
  · rw [← hname]
    exact ⟨new, find?_append_new hnone⟩
  · exact ⟨new, find?_replace hsome⟩

/-- Dotted keys take no name away. -/
theorem has_addDotted (h : addDotted key item path xs = some ys) (hhas : Has name xs) :
    Has name ys := by
  rcases addDotted_cases h with ⟨k, new, -, -, rfl⟩ | ⟨k, rest, old, new, -, -, rfl, -⟩
  · exact hhas.append
  · exact hhas.replace

theorem hasIn_addDotted (h : addDotted key item path xs = some ys) (hhas : HasIn outer inner xs) :
    HasIn outer inner ys := by
  rcases addDotted_cases h with ⟨k, new, -, -, rfl⟩ | ⟨k, rest, old, new, -, hsome, rfl, hnew⟩
  · exact hhas.append
  · refine hhas.replace hsome fun extent kind within hold hinner => ?_
    obtain ⟨within', rfl, hwithin⟩ := hnew _ _ _ hold
    exact ⟨within', rfl, has_addDotted hwithin hinner⟩

/-- A key with a dot makes the tables on its way. -/
theorem hasIn_addDotted_nil {k : Key} (h : addDotted key item (k :: path) [] = some ys) :
    HasIn k.name (firstName path key) ys := by
  obtain ⟨within, hwithin, hys⟩ := Option.bind_eq_some_iff.mp h
  obtain rfl := Option.some.inj hys
  exact ⟨none, .dotted, within, by simp [Entries.find?], has_addDotted_self hwithin⟩

/-! ### Assignments -/

variable {as : List Assignment} {a : Assignment}

theorem addAll_cons_eq_some : addAll xs (a :: as) = some ys ↔
    ∃ mid, addDotted a.key.last a.item a.key.path xs = some mid ∧ addAll mid as = some ys := by
  rw [addAll, List.foldlM_cons]
  exact Option.bind_eq_some_iff

/-- What each assignment keeps, all of them keep. -/
theorem keeps_addAll {P : Entries → Prop}
    (hkeep : ∀ key item path xs ys, addDotted key item path xs = some ys → P xs → P ys)
    (h : addAll xs as = some ys) (hxs : P xs) : P ys := by
  induction as generalizing xs with
  | nil =>
    obtain rfl := Option.some.inj h
    exact hxs
  | cons a as ih =>
    obtain ⟨mid, hmid, hrest⟩ := addAll_cons_eq_some.mp h
    exact ih hrest (hkeep _ _ _ _ _ hmid hxs)

theorem has_addAll (h : addAll xs as = some ys) (hhas : Has name xs) : Has name ys :=
  keeps_addAll (fun _ _ _ _ _ => has_addDotted) h hhas

theorem hasIn_addAll (h : addAll xs as = some ys) (hhas : HasIn outer inner xs) :
    HasIn outer inner ys :=
  keeps_addAll (fun _ _ _ _ _ => hasIn_addDotted) h hhas

/-- The first name of each assignment is there. -/
theorem has_addAll_of_mem (h : addAll xs as = some ys) (ha : a ∈ as) :
    Has (firstName a.key.path a.key.last) ys := by
  induction as generalizing xs with
  | nil => exact absurd ha List.not_mem_nil
  | cons b as ih =>
    obtain ⟨mid, hmid, hrest⟩ := addAll_cons_eq_some.mp h
    rcases List.mem_cons.mp ha with rfl | ha
    · exact has_addAll hrest (has_addDotted_self hmid)
    · exact ih hrest ha

/-! ### Sections -/

variable {s : Section} {change : Entries → Option Entries}

/-- A change at a path changes the item under its first name, or adds one. -/
theorem changeAt_cases {k : Key} (h : changeAt change (k :: path) xs = some ys) :
    (∃ within, xs.find? k.name = none ∧ ys = xs ++ [(k, .table none .implied within)] ∧
        changeAt change path [] = some within) ∨
      ∃ old new, xs.find? k.name = some old ∧ ys = xs.replace k.name new ∧
        ∀ extent kind within, old = .table extent kind within →
          ∃ within', new = .table extent kind within' ∧
            changeAt change path within = some within' := by
  simp only [changeAt] at h
  split at h
  · next hnone =>
    obtain ⟨within, hwithin, hys⟩ := Option.bind_eq_some_iff.mp h
    exact Or.inl ⟨within, hnone, (Option.some.inj hys).symm, hwithin⟩
  · next extent kind within hsome =>
    split at h
    · exact nomatch h
    · obtain ⟨within', hwithin, hys⟩ := Option.bind_eq_some_iff.mp h
      refine Or.inr ⟨_, _, hsome, (Option.some.inj hys).symm, ?_⟩
      rintro _ _ _ ⟨⟩
      exact ⟨within', rfl, hwithin⟩
  · next items hsome =>
    split at h
    · obtain ⟨within', -, hys⟩ := Option.bind_eq_some_iff.mp h
      refine Or.inr ⟨_, _, hsome, (Option.some.inj hys).symm, ?_⟩
      rintro _ _ _ ⟨⟩
    · exact nomatch h
  · exact nomatch h

theorem has_changeAt (hchange : ∀ xs ys, change xs = some ys → Has name xs → Has name ys)
    (h : changeAt change path xs = some ys) (hhas : Has name xs) : Has name ys := by
  cases path with
  | nil => exact hchange xs ys h hhas
  | cons k path =>
    rcases changeAt_cases h with ⟨within, -, rfl, -⟩ | ⟨old, new, -, rfl, -⟩
    · exact hhas.append
    · exact hhas.replace

theorem hasIn_changeAt (hchange : ∀ xs ys, change xs = some ys → Has inner xs → Has inner ys)
    (hchange' : ∀ xs ys, change xs = some ys → HasIn outer inner xs → HasIn outer inner ys)
    (h : changeAt change path xs = some ys) (hhas : HasIn outer inner xs) :
    HasIn outer inner ys := by
  cases path with
  | nil => exact hchange' xs ys h hhas
  | cons k path =>
    rcases changeAt_cases h with ⟨within, -, rfl, -⟩ | ⟨old, new, hsome, rfl, hnew⟩
    · exact hhas.append
    · refine hhas.replace hsome fun extent kind within hold hinner => ?_
      obtain ⟨within', rfl, hwithin⟩ := hnew _ _ _ hold
      exact ⟨within', rfl, has_changeAt hchange hwithin hinner⟩

/-- A section adds its table to those of its name, or takes the place of an implied table and keeps
what that holds. -/
theorem place_cases (h : s.place xs = some ys) :
    (s.repeated = true ∧ ∃ tables, (xs.find? s.key.last.name = none ∧
        ys = xs ++ [(s.key.last, .tables tables)] ∨
      (∃ items, xs.find? s.key.last.name = some (.tables items)) ∧
        ys = xs.replace s.key.last.name (.tables tables))) ∨
    (s.repeated = false ∧ ∃ implied within, addAll implied s.assignments = some within ∧
      ys = xs.erase s.key.last.name ++ [(s.key.last, .table (some s.extent) .header within)] ∧
      (xs.find? s.key.last.name = none ∧ implied = [] ∨
        ∃ extent, xs.find? s.key.last.name = some (.table extent .implied implied))) := by
  unfold Section.place at h
  simp only at h
  split at h
  · next hrepeated =>
    refine Or.inl ⟨hrepeated, ?_⟩
    obtain ⟨within, -, hrest⟩ := Option.bind_eq_some_iff.mp h
    split at hrest
    · next hnone => exact ⟨_, Or.inl ⟨hnone, (Option.some.inj hrest).symm⟩⟩
    · next items hsome => exact ⟨_, Or.inr ⟨⟨items, hsome⟩, (Option.some.inj hrest).symm⟩⟩
    · exact nomatch hrest
  · next hrepeated =>
    refine Or.inr ⟨Bool.eq_false_iff.mpr hrepeated, ?_⟩
    split at h
    · next hnone =>
      obtain ⟨implied, himplied, hrest⟩ := Option.bind_eq_some_iff.mp h
      obtain rfl := Option.some.inj himplied
      obtain ⟨within, hwithin, hys⟩ := Option.bind_eq_some_iff.mp hrest
      exact ⟨[], within, hwithin, (Option.some.inj hys).symm, Or.inl ⟨hnone, rfl⟩⟩
    · next extent implied hsome =>
      obtain ⟨implied', himplied, hrest⟩ := Option.bind_eq_some_iff.mp h
      obtain rfl := Option.some.inj himplied
      obtain ⟨within, hwithin, hys⟩ := Option.bind_eq_some_iff.mp hrest
      exact ⟨implied, within, hwithin, (Option.some.inj hys).symm, Or.inr ⟨extent, hsome⟩⟩
    · exact nomatch h

/-- The table of a section is there. -/
theorem has_place_self (h : s.place xs = some ys) : Has s.key.last.name ys := by
  rcases place_cases h with ⟨-, tables, ⟨hnone, rfl⟩ | ⟨⟨items, hsome⟩, rfl⟩⟩ |
    ⟨-, implied, within, -, rfl, -⟩
  · exact ⟨_, find?_append_new hnone⟩
  · exact ⟨_, find?_replace hsome⟩
  · exact ⟨_, find?_append_new Entries.find?_erase_self⟩

/-- A section takes no name away. -/
theorem has_place (h : s.place xs = some ys) (hhas : Has name xs) : Has name ys := by
  by_cases hname : name = s.key.last.name
  · rw [hname]
    exact has_place_self h
  · rcases place_cases h with ⟨-, tables, ⟨-, rfl⟩ | ⟨-, rfl⟩⟩ | ⟨-, implied, within, -, rfl, -⟩
    · exact hhas.append
    · exact hhas.replace
    · obtain ⟨item, hitem⟩ := hhas
      exact ⟨item, find?_append_left ((Entries.find?_erase_of_ne hname).trans hitem)⟩

theorem hasIn_place (h : s.place xs = some ys) (hhas : HasIn outer inner xs) :
    HasIn outer inner ys := by
  have hthere := hhas
  obtain ⟨extent, kind, within, hfind, hinner⟩ := hthere
  by_cases hname : outer = s.key.last.name
  · subst hname
    rcases place_cases h with ⟨-, tables, ⟨hnone, -⟩ | ⟨⟨items, hitems⟩, -⟩⟩ |
      ⟨-, implied, within', hwithin, rfl, hfound⟩
    · exact absurd (hnone.symm.trans hfind) (by simp)
    · exact absurd (hitems.symm.trans hfind) (by simp)
    · rcases hfound with ⟨hnone, -⟩ | ⟨extent', himplied⟩
      · exact absurd (hnone.symm.trans hfind) (by simp)
      · -- the table that is there was implied, and the new one begins with what it holds
        obtain ⟨-, -, rfl⟩ : extent' = extent ∧ TableKind.implied = kind ∧ implied = within := by
          simpa using himplied.symm.trans hfind
        exact ⟨_, _, within', find?_append_new Entries.find?_erase_self, has_addAll hwithin hinner⟩
  · rcases place_cases h with ⟨-, tables, ⟨-, rfl⟩ | ⟨-, rfl⟩⟩ | ⟨-, implied, within', -, rfl, -⟩
    · exact hhas.append
    · exact hhas.replace_of_ne hname
    · exact ⟨extent, kind, within, find?_append_left ((Entries.find?_erase_of_ne hname).trans hfind),
        hinner⟩

/-- What a section assigns is in its table. -/
theorem hasIn_place_of_mem (h : s.place xs = some ys) (hrepeated : s.repeated = false)
    (ha : a ∈ s.assignments) :
    HasIn s.key.last.name (firstName a.key.path a.key.last) ys := by
  rcases place_cases h with ⟨htrue, -⟩ | ⟨-, implied, within, hwithin, rfl, -⟩
  · rw [hrepeated] at htrue
    exact absurd htrue Bool.false_ne_true
  · exact ⟨_, _, within, find?_append_new Entries.find?_erase_self, has_addAll_of_mem hwithin ha⟩

/-- The first name of a header is there. -/
theorem has_changeAt_place (h : changeAt s.place path xs = some ys) :
    Has (firstName path s.key.last) ys := by
  cases path with
  | nil => exact has_place_self h
  | cons k path =>
    rcases changeAt_cases h with ⟨within, hnone, rfl, -⟩ | ⟨old, new, hsome, rfl, -⟩
    · exact ⟨_, find?_append_new hnone⟩
    · exact ⟨new, find?_replace hsome⟩

/-- Where there are only tables, the second name of a header is in the table of the first. -/
theorem hasIn_changeAt_place {k : Key} (h : changeAt s.place (k :: path) xs = some ys)
    (htables : ∀ item, xs.find? k.name = some item → ∃ e kind within, item = .table e kind within) :
    HasIn k.name (firstName path s.key.last) ys := by
  rcases changeAt_cases h with ⟨within, hnone, rfl, hwithin⟩ | ⟨old, new, hsome, rfl, hnew⟩
  · exact ⟨_, _, within, find?_append_new hnone, has_changeAt_place hwithin⟩
  · obtain ⟨e, kind, within, rfl⟩ := htables old hsome
    obtain ⟨within', rfl, hwithin⟩ := hnew _ _ _ rfl
    exact ⟨e, kind, within', find?_replace hsome, has_changeAt_place hwithin⟩

end HeaderSurvey.Toml
