import HeaderSurvey.Declaration.Parse
import HeaderSurvey.Proofs.Block.Nested
import HeaderSurvey.Proofs.Declaration.TypeReads
import HeaderSurvey.Proofs.Pattern.Captured
import Mathlib.Data.List.Pairwise

/-!
# Names of types

The name of a type is made of word characters (`isWordChar_of_mem_name`), since the pattern of the
types takes no others for one.  Of the types with one name the last is kept, so the types of a text
have different names (`SourceUnit.nodup_names`).
-/

namespace HeaderSurvey

open Pattern

/-! ### What a name is made of -/

theorem captured?_of_typeOfBlock? {unit : SourceUnit} {b : Block} {t : TypeDecl}
    (h : typeOfBlock? unit b = some t) : b.keyword.captured? 2 = some t.name.toList := by
  obtain ⟨_, _, _, name, -, -, -, hname, rfl⟩ := exists_of_typeOfBlock? h
  rw [hname, String.toList_ofList]

theorem isWordChar_of_isNameStart {x : Char} (h : isNameStart x = true) : isWordChar x = true :=
  isWordChar_of_isNameChar (isNameChar_of_isNameStart h)

/-- What the pattern of the types keeps as the name is made of word characters. -/
theorem isWordChar_of_mem_captured {c : Cursor} {m : Match}
    (hm : typePattern.matchAt? c = some m) {name : List Char} (hname : m.captured? 2 = some name) :
    ∀ x ∈ name, isWordChar x = true := by
  obtain ⟨q, hq, a, g, b, h, hway, rfl⟩ := exists_way_of_captured? hm hname
  have hpart : typePattern.partsUnder 2 = [namePattern] := rfl
  rw [hpart, List.mem_singleton] at hq
  subst hq
  have hover : namePattern.Over (isWordChar · = true) :=
    ⟨fun _ hx => isWordChar_of_isNameStart hx, fun _ hx => hx⟩
  exact hway.of_mem_upTo hover

/-- The name of a type is made of word characters. -/
theorem isWordChar_of_mem_name {unit : SourceUnit} {types : List TypeDecl}
    (h : extractTypes unit = .ok types) {t : TypeDecl} (ht : t ∈ types) :
    ∀ x ∈ t.name.toList, isWordChar x = true := by
  obtain ⟨bs, hbs, rfl⟩ := extractTypes_eq_ok_iff.mp h
  obtain ⟨b, hb, htype⟩ := List.mem_filterMap.mp ht
  have hreported := (Scanner.pairwise_of_blocks_eq_ok hbs).1 b hb
  exact isWordChar_of_mem_captured hreported.matchAt (captured?_of_typeOfBlock? htype)

/-! ### Types of one name -/

/-- Of types with one name the last is kept. -/
theorem keepLast_eq_pwFilter (types : List TypeDecl) :
    keepLast types = types.pwFilter fun a b => a.name ≠ b.name := by
  induction types with
  | nil => rfl
  | cons t ts ih =>
    have hiff : (∀ b ∈ ts.pwFilter (fun a b : TypeDecl => a.name ≠ b.name), t.name ≠ b.name) ↔
        ∀ b ∈ ts, t.name ≠ b.name := by
      refine List.forall_mem_pwFilter ?_ t ts
      intro x y z hxz
      by_cases hxy : x.name = y.name
      · exact Or.inr fun hyz => hxz (hxy.trans hyz)
      · exact Or.inl hxy
    rw [keepLast, ih]
    by_cases h : ∀ b ∈ ts, t.name ≠ b.name
    · have hany : ¬ ts.any (·.name = t.name) = true := by
        rw [List.any_eq_true]
        rintro ⟨b, hb, hname⟩
        exact h b hb (of_decide_eq_true hname).symm
      rw [if_neg hany, List.pwFilter_cons_of_pos (hiff.mpr h)]
    · have hany : ts.any (·.name = t.name) = true := by
        push Not at h
        obtain ⟨b, hb, hname⟩ := h
        exact List.any_eq_true.mpr ⟨b, hb, decide_eq_true hname.symm⟩
      rw [if_pos hany, List.pwFilter_cons_of_neg (hiff.not.mpr h)]

/-- The types that are kept have different names. -/
theorem nodup_names_keepLast (types : List TypeDecl) :
    ((keepLast types).map TypeDecl.name).Nodup := by
  rw [keepLast_eq_pwFilter, List.Nodup, List.pairwise_map]
  exact List.pairwise_pwFilter types

theorem mem_of_mem_keepLast {types : List TypeDecl} {t : TypeDecl} (h : t ∈ keepLast types) :
    t ∈ types := by
  rw [keepLast_eq_pwFilter] at h
  exact (List.pwFilter_sublist types).subset h

/-- A name of a type stays when only the last type of each name is kept. -/
theorem any_keepLast (types : List TypeDecl) (name : String) :
    (keepLast types).any (·.name = name) = types.any (·.name = name) := by
  induction types with
  | nil => rfl
  | cons t ts ih =>
    rw [keepLast, List.any_cons]
    split_ifs with hlater
    · rw [ih]
      by_cases hname : t.name = name
      · subst hname
        simp [hlater]
      · simp [hname]
    · rw [List.any_cons, ih]

/-- Of the types of one list and then of another those of the first are kept whose names the second
does not use. -/
theorem keepLast_append (types types' : List TypeDecl) :
    keepLast (types ++ types') =
      (keepLast types).filter (fun t => !types'.any (·.name = t.name)) ++ keepLast types' := by
  induction types with
  | nil => rfl
  | cons t ts ih =>
    rw [List.cons_append, keepLast, keepLast, List.any_append, ih]
    by_cases hlater : ts.any (·.name = t.name) = true
    · rw [if_pos (by rw [hlater, Bool.true_or]), if_pos hlater]
    · rw [if_neg hlater, List.filter_cons]
      rw [Bool.not_eq_true] at hlater
      rw [hlater, Bool.false_or]
      cases types'.any (·.name = t.name) <;> rfl

/-- What leaves the names as they are leaves the types that are kept. -/
theorem keepLast_map {f : TypeDecl → TypeDecl} (hf : ∀ t, (f t).name = t.name)
    (types : List TypeDecl) : keepLast (types.map f) = (keepLast types).map f := by
  induction types with
  | nil => rfl
  | cons t ts ih =>
    have hany : (ts.map f).any (·.name = (f t).name) = ts.any (·.name = t.name) := by
      simp only [List.any_map, Function.comp_def, hf]
    rw [List.map_cons, keepLast, keepLast, hany, ih]
    split_ifs <;> rfl

/-- The types of a text are those that are kept of all that it declares. -/
theorem SourceUnit.exists_types_of_parse {unit : SourceUnit} {mode : ParseMode} {d : Declarations}
    (h : unit.parse mode = .ok d) :
    ∃ types, extractTypes unit = .ok types ∧ d.types = keepLast types := by
  rw [parse] at h
  rcases htypes : extractTypes unit with e | types
  · simp [htypes] at h
  · rw [htypes] at h
    refine ⟨types, rfl, ?_⟩
    cases mode with
    | types =>
      obtain rfl := Except.ok.inj h
      rfl
    | typesAndRoutines =>
      dsimp only at h
      split at h
      · simp at h
      · obtain rfl := Except.ok.inj h
        rfl

/-- The types of a text have different names. -/
theorem SourceUnit.nodup_names {unit : SourceUnit} {mode : ParseMode} {d : Declarations}
    (h : unit.parse mode = .ok d) : (d.types.map TypeDecl.name).Nodup := by
  obtain ⟨types, -, hkept⟩ := exists_types_of_parse h
  rw [hkept]
  exact nodup_names_keepLast types

/-- The names of the types of a text are made of word characters. -/
theorem SourceUnit.isWordChar_of_mem_types {unit : SourceUnit} {mode : ParseMode}
    {d : Declarations} (h : unit.parse mode = .ok d) {t : TypeDecl} (ht : t ∈ d.types) :
    ∀ x ∈ t.name.toList, isWordChar x = true := by
  obtain ⟨types, htypes, hkept⟩ := exists_types_of_parse h
  rw [hkept] at ht
  exact isWordChar_of_mem_name htypes (mem_of_mem_keepLast ht)

end HeaderSurvey
