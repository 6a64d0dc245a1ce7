import HeaderSurvey.Declaration.Parse
import HeaderSurvey.Proofs.Block.Nested
import HeaderSurvey.Proofs.Declaration.RoutineReads
import HeaderSurvey.Proofs.Declaration.Scope
import HeaderSurvey.Proofs.Declaration.TypeReads
import Mathlib.Data.Finset.Max
import Mathlib.Data.Fintype.Basic
import Mathlib.Data.List.Pairwise

/-!
# Type bodies are nested or apart

The types of a text open one behind the other, and of two bodies the second lies behind the first or
inside it (`extractTypes_nested`).  For a list of types like that the last body around an offset is
the innermost one, so the index of scopes answers with the innermost type
(`Nested.exists_innermost`).

The main result is `SourceUnit.parse_placed`: every routine of a text that parses is in the scope of
the innermost type around it, and of the file where there is none.
-/

namespace HeaderSurvey

/-! ### The bodies of the types of a text -/

/-- The second body opens behind the first, and lies behind it or inside it. -/
def Span.OpensBefore (a b : Span) : Prop :=
  a.start < b.start ∧ (a.stop < b.start ∨ b.stop < a.stop)

/-- The bodies open one behind the other, and any two of them are nested or apart. -/
def Nested (types : List TypeDecl) : Prop :=
  types.Pairwise fun t u => t.bodySpan.OpensBefore u.bodySpan

theorem bodySpan_of_typeOfBlock? {unit : SourceUnit} {b : Block} {t : TypeDecl}
    (h : typeOfBlock? unit b = some t) : b.bodySpan? = some t.bodySpan := by
  obtain ⟨_, bodySpan, _, _, -, hspan, -, -, rfl⟩ := exists_of_typeOfBlock? h
  exact hspan

/-- A type opens its body behind the keywords that begin before its own. -/
theorem opensBefore_of_keyword_le {b b' : Block} {s s' : Span} (hb : b.IsReported typePattern)
    (hb' : b'.IsReported typePattern) (hle : b.keyword.stop ≤ b'.keyword.start)
    (hs : b.bodySpan? = some s) (hs' : b'.bodySpan? = some s') : s.OpensBefore s' := by
  rw [hb.bodySpan?_eq, Option.map_eq_some_iff] at hs
  rw [hb'.bodySpan?_eq, Option.map_eq_some_iff] at hs'
  obtain ⟨braces, hbraces, rfl⟩ := hs
  obtain ⟨braces', hbraces', rfl⟩ := hs'
  have hopen := hb.braces_eq
  have hopen' := hb'.braces_eq
  rw [hbraces] at hopen
  rw [hbraces'] at hopen'
  -- the second keyword begins with a letter, so it is behind the first brace
  obtain ⟨-, kw, x, rest, hrest, -⟩ := exists_keyword_of_matchAt? hb'.matchAt
  have hfirst : braces.opening < b'.keyword.start := by
    cases kw with
    | classWord => exact Braces.opening_lt_of_le hopen hle hrest (by decide) (by decide)
    | structWord => exact Braces.opening_lt_of_le hopen hle hrest (by decide) (by decide)
  have hlt : braces.opening < braces'.opening :=
    hfirst.trans_le (hb'.start_lt_stop.le.trans (Braces.le_opening hopen'))
  have hinside := Braces.offset_inside hopen
  have hinside' := Braces.offset_inside hopen'
  have hoff := Cursor.offset_lt_of_lt hlt
  have hclose := (Braces.nested_or_apart hopen hopen' hlt).imp Cursor.offset_lt_of_lt
    Cursor.offset_lt_of_lt
  simp only [Span.OpensBefore, Cursor.span]
  omega

/-- **The bodies of the types of a text are nested or apart**, in the order in which they open. -/
theorem extractTypes_nested {unit : SourceUnit} {types : List TypeDecl}
    (h : extractTypes unit = .ok types) : Nested types := by
  obtain ⟨bs, hbs, rfl⟩ := extractTypes_eq_ok_iff.mp h
  obtain ⟨hreported, hpairwise⟩ := Scanner.pairwise_of_blocks_eq_ok hbs
  rw [Nested, List.pairwise_filterMap]
  refine hpairwise.imp_of_mem ?_
  intro b b' hb hb' hle t ht u hu
  exact opensBefore_of_keyword_le (hreported b hb) (hreported b' hb') hle
    (bodySpan_of_typeOfBlock? ht) (bodySpan_of_typeOfBlock? hu)

/-! ### Positions in a list of types -/

/-- A type stands between the types at earlier positions and those at later ones. -/
theorem exists_append_of_get (types : List TypeDecl) (i : Fin types.length) :
    ∃ front back, types = front ++ types.get i :: back ∧
      ∀ u ∈ back, ∃ j, i < j ∧ types.get j = u := by
  refine ⟨types.take i, types.drop (i + 1), ?_, ?_⟩
  · rw [List.get_eq_getElem, List.getElem_cons_drop, List.take_append_drop]
  · intro u hu
    obtain ⟨j, hj, rfl⟩ := List.mem_drop_iff_getElem.mp hu
    exact ⟨⟨i + 1 + j, by omega⟩, Fin.lt_def.mpr (by dsimp only; omega), rfl⟩

/-- Of the positions from `i` on that have a property the last can be named. -/
theorem exists_last {n : Nat} {p : Fin n → Prop} [DecidablePred p] {i : Fin n} (hi : p i) :
    ∃ k, i ≤ k ∧ p k ∧ ∀ j, k < j → ¬ p j := by
  have hmem : i ∈ Finset.univ.filter p := Finset.mem_filter.mpr ⟨Finset.mem_univ i, hi⟩
  obtain ⟨k, hk, hmax⟩ := (Finset.univ.filter p).exists_max_image id ⟨i, hmem⟩
  refine ⟨k, hmax i hmem, (Finset.mem_filter.mp hk).2, ?_⟩
  intro j hkj hj
  exact absurd hkj (not_lt.mpr (hmax j (Finset.mem_filter.mpr ⟨Finset.mem_univ j, hj⟩)))

/-! ### The innermost type around an offset -/

/-- The type at the position holds the offset in its body, which lies in every other body that holds
the offset. -/
structure Innermost (types : List TypeDecl) (offset : Nat) (i : Fin types.length) : Prop where
  contains : (types.get i).bodySpan.contains offset = true
  within : ∀ j, (types.get j).bodySpan.contains offset = true →
    (types.get j).bodySpan.start ≤ (types.get i).bodySpan.start ∧
      (types.get i).bodySpan.stop ≤ (types.get j).bodySpan.stop

theorem Span.contains_iff {s : Span} {offset : Nat} :
    s.contains offset = true ↔ s.start ≤ offset ∧ offset < s.stop := by
  simp only [Span.contains, Bool.and_eq_true, decide_eq_true_eq]

section Nested

variable {types : List TypeDecl} {offset : Nat}

theorem Nested.opensBefore (h : Nested types) {i j : Fin types.length} (hij : i < j) :
    (types.get i).bodySpan.OpensBefore (types.get j).bodySpan :=
  List.Pairwise.rel_get_of_lt h hij

/-- The index keeps the order of the types. -/
theorem Nested.sort_entries (h : Nested types) :
    ScopeEntry.sort (ScopeIndex.entries types) = ScopeIndex.entries types := by
  refine ScopeEntry.sort_eq_self ?_
  rw [ScopeIndex.entries, List.pairwise_map]
  exact h.imp fun hopens => hopens.1

/-- Of the bodies that hold an offset the last lies in all others. -/
theorem Nested.innermost_of_last (h : Nested types) {i : Fin types.length}
    (hi : (types.get i).bodySpan.contains offset = true)
    (hlast : ∀ j, i < j → (types.get j).bodySpan.contains offset = false) :
    Innermost types offset i := by
  refine ⟨hi, ?_⟩
  intro j hj
  rcases lt_trichotomy i j with hij | rfl | hji
  · rw [hlast j hij] at hj
    exact absurd hj (by simp)
  · exact ⟨Nat.le_refl _, Nat.le_refl _⟩
  · have hopens := h.opensBefore hji
    rw [Span.contains_iff] at hi hj
    simp only [Span.OpensBefore] at hopens
    omega

/-- No two types are innermost. -/
theorem Nested.innermost_unique (h : Nested types) {i j : Fin types.length}
    (hi : Innermost types offset i) (hj : Innermost types offset j) : i = j := by
  have hij := hi.within j hj.contains
  have hji := hj.within i hi.contains
  rcases lt_trichotomy i j with hlt | heq | hlt
  · have := (h.opensBefore hlt).1
    omega
  · exact heq
  · have := (h.opensBefore hlt).1
    omega

theorem Nested.ownerOf?_eq (h : Nested types) (offset : Nat) :
    (ScopeIndex.ofTypes types).ownerOf? offset =
      (ScopeEntry.last? (ScopeIndex.entries types) offset).map (·.owner) := by
  rw [ScopeIndex.ownerOf?_ofTypes, h.sort_entries]

theorem last?_entries_eq_none
    (h : ∀ t ∈ types, t.bodySpan.contains offset = false) :
    ScopeEntry.last? (ScopeIndex.entries types) offset = none := by
  refine ScopeEntry.last?_eq_none fun e he => ?_
  obtain ⟨t, ht, rfl⟩ := List.mem_map.mp he
  exact h t ht

/-- The index answers with the last type whose body holds the offset. -/
theorem Nested.ownerOf?_eq_some {front back : List TypeDecl} {t : TypeDecl}
    (h : Nested (front ++ t :: back)) (ht : t.bodySpan.contains offset = true)
    (hback : ∀ u ∈ back, u.bodySpan.contains offset = false) :
    (ScopeIndex.ofTypes (front ++ t :: back)).ownerOf? offset = some t.name := by
  have hnone : ScopeEntry.last? (ScopeIndex.entries back) offset = none :=
    last?_entries_eq_none hback
  have hone : ScopeIndex.entries (t :: back) =
      [⟨t.bodySpan, t.name⟩] ++ ScopeIndex.entries back := rfl
  rw [h.ownerOf?_eq, ScopeIndex.entries_append, hone,
    ScopeEntry.last?_append, ScopeEntry.last?_append, hnone, ScopeEntry.last?_singleton, if_pos ht]
  rfl

/-- Where some body holds the offset, the last of those is found in the index, and it is the
innermost one. -/
theorem Nested.exists_innermost (h : Nested types)
    (hex : ∃ t ∈ types, t.bodySpan.contains offset = true) :
    ∃ i, Innermost types offset i ∧
      (ScopeIndex.ofTypes types).ownerOf? offset = some (types.get i).name := by
  obtain ⟨t, ht, hcontains⟩ := hex
  obtain ⟨i, rfl⟩ := List.get_of_mem ht
  obtain ⟨k, -, hk, hlast⟩ := exists_last
    (p := fun i => (types.get i).bodySpan.contains offset = true) hcontains
  simp only [Bool.not_eq_true] at hlast
  refine ⟨k, h.innermost_of_last hk hlast, ?_⟩
  obtain ⟨front, back, hsplit, hback⟩ := exists_append_of_get types k
  generalize types.get k = t at hk hsplit ⊢
  subst hsplit
  refine h.ownerOf?_eq_some hk fun u hu => ?_
  obtain ⟨j, hkj, rfl⟩ := hback u hu
  exact hlast j hkj

/-- Where no body holds the offset, the index has no answer. -/
theorem Nested.ownerOf?_eq_none (h : Nested types)
    (hnone : ∀ t ∈ types, t.bodySpan.contains offset = false) :
    (ScopeIndex.ofTypes types).ownerOf? offset = none := by
  rw [h.ownerOf?_eq, last?_entries_eq_none hnone, Option.map_none]

end Nested

/-! ### Names that are kept -/

/-- The last declaration of a name is kept. -/
theorem mem_keepLast_of_last {front back : List TypeDecl} {t : TypeDecl}
    (h : ∀ u ∈ back, u.name ≠ t.name) : t ∈ keepLast (front ++ t :: back) := by
  induction front with
  | nil =>
    have hany : ¬ back.any (·.name = t.name) = true := by
      rw [List.any_eq_true]
      rintro ⟨u, hu, hname⟩
      exact h u hu (of_decide_eq_true hname)
    rw [List.nil_append, keepLast, if_neg hany]
    exact List.mem_cons_self ..
  | cons x front ih =>
    rw [List.cons_append, keepLast]
    split_ifs
    · exact ih
    · exact List.mem_cons_of_mem x ih

/-- Each name has a last declaration, which is kept. -/
theorem exists_kept (types : List TypeDecl) (i : Fin types.length) :
    ∃ k, i ≤ k ∧ (types.get k).name = (types.get i).name ∧ types.get k ∈ keepLast types ∧
      ∀ j, k < j → (types.get j).name ≠ (types.get i).name := by
  obtain ⟨k, hik, hname, hlast⟩ := exists_last
    (p := fun j => (types.get j).name = (types.get i).name) rfl
  refine ⟨k, hik, hname, ?_, hlast⟩
  obtain ⟨front, back, hsplit, hback⟩ := exists_append_of_get types k
  have hmem := @mem_keepLast_of_last front back (types.get k) fun u hu => by
    obtain ⟨j, hkj, rfl⟩ := hback u hu
    rw [hname]
    exact hlast j hkj
  rwa [← hsplit] at hmem

/-! ### The scopes of the routines of a text -/

/-- The scope of a routine is the answer of the index for its offset. -/
theorem scope_of_routineOfBlock? {index : ScopeIndex} {b : Block} {r : Routine}
    (h : routineOfBlock? index b = some r) :
    r.scope = (match index.ownerOf? r.offset with
      | some owner => .type owner
      | none => .file) := by
  obtain ⟨-, -, _, _, _, _, _, -, -, -, -, -, rfl⟩ := exists_of_routineOfBlock? h
  rfl

theorem scope_of_mem_routines {unit : SourceUnit} {index : ScopeIndex} {routines : List Routine}
    (h : extractRoutines unit index = .ok routines) {r : Routine} (hr : r ∈ routines) :
    r.scope = (match index.ownerOf? r.offset with
      | some owner => .type owner
      | none => .file) := by
  obtain ⟨bs, -, rfl⟩ := extractRoutines_eq_ok_iff.mp h
  obtain ⟨b, -, hb⟩ := List.mem_filterMap.mp hr
  exact scope_of_routineOfBlock? hb

/-- What a text that parses declares comes from its types and the routines placed among them. -/
theorem SourceUnit.parse_typesAndRoutines_eq_ok {unit : SourceUnit} {d : Declarations}
    (h : unit.parse .typesAndRoutines = .ok d) :
    ∃ types, extractTypes unit = .ok types ∧ d.types = keepLast types ∧
      extractRoutines unit (ScopeIndex.ofTypes types) = .ok d.routines := by
  rw [parse] at h
  rcases htypes : extractTypes unit with e | types
  · simp [htypes] at h
  · rw [htypes] at h
    dsimp only at h
    rcases hroutines : extractRoutines unit (ScopeIndex.ofTypes types) with e | routines
    · simp [hroutines] at h
    · rw [hroutines] at h
      obtain rfl := Except.ok.inj h
      exact ⟨types, rfl, rfl, hroutines⟩

/-- How the routines of a text are placed among its types, of which those with repeated names are
all counted. -/
structure Placed (types : List TypeDecl) (d : Declarations) : Prop where
  /-- The bodies open one behind the other, and any two of them are nested or apart. -/
  nested : Nested types
  /-- A routine is in the scope of the file exactly if no body holds it. -/
  file_iff : ∀ r ∈ d.routines,
    r.scope = .file ↔ ∀ t ∈ types, t.bodySpan.contains r.offset = false
  /-- Any other routine is in the scope of the one innermost type around it. -/
  innermost : ∀ r ∈ d.routines, r.scope ≠ .file →
    ∃ i, Innermost types r.offset i ∧ (∀ j, Innermost types r.offset j → j = i) ∧
      r.scope = .type (types.get i).name
  /-- The name of that type is kept, under its last declaration. -/
  kept : ∀ r ∈ d.routines, ∀ i, Innermost types r.offset i →
    ∃ k, i ≤ k ∧ (types.get k).name = (types.get i).name ∧ types.get k ∈ d.types ∧
      ∀ j, k < j → (types.get j).name ≠ (types.get i).name

/-- **Every routine is in the scope of the innermost type around it**, whatever the text, if only it
parses. -/
theorem SourceUnit.parse_placed (unit : SourceUnit) (d : Declarations)
    (h : unit.parse .typesAndRoutines = .ok d) :
    ∃ types, extractTypes unit = .ok types ∧ Placed types d := by
  obtain ⟨types, htypes, hkept, hroutines⟩ := parse_typesAndRoutines_eq_ok h
  have hnested := extractTypes_nested htypes
  refine ⟨types, htypes, hnested, ?_, ?_, ?_⟩
  · intro r hr
    have hscope := scope_of_mem_routines hroutines hr
    constructor
    · intro hfile t ht
      by_contra hcontains
      obtain ⟨i, -, howner⟩ := hnested.exists_innermost ⟨t, ht, by simpa using hcontains⟩
      rw [howner, hfile] at hscope
      simp at hscope
    · intro hnone
      rw [hscope, hnested.ownerOf?_eq_none hnone]
  · intro r hr hne
    have hscope := scope_of_mem_routines hroutines hr
    have hex : ∃ t ∈ types, t.bodySpan.contains r.offset = true := by
      by_contra hnone
      push Not at hnone
      rw [hnested.ownerOf?_eq_none fun t ht => by simpa using hnone t ht] at hscope
      exact hne hscope
    obtain ⟨i, hi, howner⟩ := hnested.exists_innermost hex
    rw [howner] at hscope
    exact ⟨i, hi, fun j hj => hnested.innermost_unique hj hi, hscope⟩
  · intro r _ i _
    rw [hkept]
    exact exists_kept types i

/-- The type around the second routine is replaced by a later one that does not hold the routine. -/
theorem SourceUnit.parse_placed_replaced :
    let unit : SourceUnit := ⟨"a.h",
      "struct A \x7b\n struct B \x7b\n  int f();\n \x7d;\n int g();\n\x7d;\nstruct A \x7b \x7d;\n", 0⟩
    let d : Declarations :=
      { types := [⟨.structWord, "B", [], "a.h", 0, 2, ⟨12, 36⟩, ⟨22, 35⟩, "\n  int f();\n "⟩,
          ⟨.structWord, "A", [], "a.h", 0, 7, ⟨51, 63⟩, ⟨61, 62⟩, " "⟩]
        routines := [⟨"f", "int", "", .type "B", 25, 3⟩, ⟨"g", "int", "", .type "A", 39, 5⟩] }
    unit.parse .typesAndRoutines = .ok d ∧
      ∃ types, extractTypes unit = .ok types ∧ Placed types d :=
  ⟨by decide +kernel, parse_placed _ _ (by decide +kernel)⟩

end HeaderSurvey
