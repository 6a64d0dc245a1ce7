import HeaderSurvey.Proofs.Declaration.Forest
import HeaderSurvey.Proofs.Declaration.Scope
import HeaderSurvey.Proofs.Text.Cursor

/-!
# The types around a place of a forest

The bodies of the types of a forest lie in the text of the forest, and each begins behind the ones
that are listed before it.  So the index of these bodies keeps the order of the list, and the last
body around a place is the innermost one: among the members of a type it is a body of the members,
and the body of the type where there is none (`Forest.ownerOf?_type_of_members`).
-/

namespace HeaderSurvey

open ScopeEntry ScopeIndex Text

variable {path : String} {fileId : Nat} {pre : List Char} {offset : Nat}

/-! ### Where the bodies are -/

namespace TypeHead

variable (t : TypeHead) (path : String) (fileId : Nat) (pre members : List Char)

/-- The body begins with the end of the first line. -/
theorem byteLength_opening :
    byteLength (pre ++ t.opening) = (t.decl path fileId pre members).bodySpan.start + 1 := by
  have hopen : byteLength ['{', '\n'] = 2 := rfl
  have hbrace : byteLength ['{'] = 1 := rfl
  simp only [opening, decl, byteLength_append, hopen, hbrace]
  omega

theorem byteLength_members_le :
    byteLength (pre ++ t.opening ++ members) ≤ (t.decl path fileId pre members).bodySpan.stop := by
  have hopen : byteLength ['{', '\n'] = 2 := rfl
  have hbrace : byteLength ['{'] = 1 := rfl
  have hbody : t.body members = ['\n'] ++ (members ++ t.closeIndent.text) := rfl
  have hline : byteLength ['\n'] = 1 := rfl
  simp only [opening, decl, hbody, byteLength_append, hopen, hbrace, hline]
  omega

theorem stop_lt_byteLength_item :
    (t.decl path fileId pre members).bodySpan.stop < byteLength (pre ++ t.item members) := by
  have hitem : t.item members =
      t.indent.text ++ (t.text ++ (['{'] ++ (t.body members ++ ['}', ';', '\n']))) := rfl
  have hclose : byteLength ['}', ';', '\n'] = 3 := rfl
  simp only [decl, hitem, byteLength_append, hclose]
  omega

end TypeHead

namespace Forest

/-- The bodies lie in the text of the forest. -/
theorem bodySpan_of_mem_types (forest : Forest) {d : TypeDecl}
    (h : d ∈ forest.types path fileId pre) :
    byteLength pre < d.bodySpan.start ∧ d.bodySpan.start ≤ d.bodySpan.stop ∧
      d.bodySpan.stop ≤ byteLength (pre ++ forest.render) := by
  induction forest generalizing pre with
  | empty => exact absurd h List.not_mem_nil
  | type t members next hmembers hnext =>
    have hopening := t.byteLength_opening path fileId pre members.render
    have hinside := t.byteLength_members_le path fileId pre members.render
    have hitem := t.stop_lt_byteLength_item path fileId pre members.render
    rw [types, List.mem_cons, List.mem_append] at h
    rw [render]
    simp only [byteLength_append] at *
    -- the type itself, a type among its members, or one behind it
    rcases h with rfl | h | h
    · have hpre : byteLength pre < (t.decl path fileId pre members.render).bodySpan.start := by
        have hbrace : byteLength ['{'] = 1 := rfl
        simp only [TypeHead.decl, byteLength_append, hbrace]
        omega
      omega
    · have hm := hmembers h
      simp only [byteLength_append] at hm
      omega
    · have hn := hnext h
      simp only [byteLength_append] at hn
      omega
  | prototype s next hnext =>
    have hn := hnext h
    rw [render]
    simp only [byteLength_append] at hn ⊢
    omega
  | definition s blanks body next hnext =>
    have hn := hnext h
    rw [render]
    simp only [byteLength_append] at hn ⊢
    omega

/-- Each body begins behind the ones that are listed before it. -/
theorem pairwise_types (forest : Forest) (path : String) (fileId : Nat) (pre : List Char) :
    (forest.types path fileId pre).Pairwise fun a b => a.bodySpan.start < b.bodySpan.start := by
  induction forest generalizing pre with
  | empty => exact List.Pairwise.nil
  | type t members next hmembers hnext =>
    have hopening := t.byteLength_opening path fileId pre members.render
    have hinside := t.byteLength_members_le path fileId pre members.render
    have hitem := t.stop_lt_byteLength_item path fileId pre members.render
    rw [types, List.pairwise_cons, List.pairwise_append]
    -- the members lie in the body of the type, and what follows begins behind that body
    refine ⟨fun d hd => ?_, hmembers _, hnext _, fun d hd d' hd' => ?_⟩
    · rcases List.mem_append.mp hd with hd | hd
      · have hm := members.bodySpan_of_mem_types hd
        omega
      · have hn := next.bodySpan_of_mem_types hd
        rw [byteLength_append] at hinside
        omega
    · have hm := members.bodySpan_of_mem_types hd
      have hn := next.bodySpan_of_mem_types hd'
      omega
  | prototype s next hnext => exact hnext _
  | definition s blanks body next hnext => exact hnext _

/-! ### The type around a place -/

/-- The name of the last type of the forest behind the text `pre` whose body holds the offset. -/
def ownerOf? (path : String) (fileId : Nat) (pre : List Char) (forest : Forest) (offset : Nat) :
    Option String :=
  (last? (entries (forest.types path fileId pre)) offset).map (·.owner)

/-- The index of the types of a forest answers with the innermost type. -/
theorem ownerOf?_ofTypes_types (forest : Forest) (path : String) (fileId : Nat) (pre : List Char)
    (offset : Nat) :
    (ofTypes (forest.types path fileId pre)).ownerOf? offset =
      forest.ownerOf? path fileId pre offset := by
  rw [ScopeIndex.ownerOf?_ofTypes, ownerOf?, sort_eq_self]
  exact List.pairwise_map.mpr (forest.pairwise_types path fileId pre)

/-- No body holds an offset that is not in the text of the forest. -/
theorem last?_types_eq_none (forest : Forest)
    (h : offset ≤ byteLength pre ∨ byteLength (pre ++ forest.render) ≤ offset) :
    last? (entries (forest.types path fileId pre)) offset = none := by
  refine last?_eq_none fun e he => ?_
  obtain ⟨d, hd, rfl⟩ := List.mem_map.mp he
  obtain ⟨hstart, hle, hstop⟩ := forest.bodySpan_of_mem_types hd
  have hnot : ¬ (d.bodySpan.start ≤ offset ∧ offset < d.bodySpan.stop) := by omega
  simpa [Span.contains] using hnot

theorem ownerOf?_eq_none (forest : Forest)
    (h : offset ≤ byteLength pre ∨ byteLength (pre ++ forest.render) ≤ offset) :
    forest.ownerOf? path fileId pre offset = none := by
  rw [ownerOf?, forest.last?_types_eq_none h, Option.map_none]

/-- The owners among the types of a type, its members and what follows: those that are listed last
go first. -/
theorem ownerOf?_type (t : TypeHead) (members next : Forest) :
    (type t members next).ownerOf? path fileId pre offset =
      ((next.ownerOf? path fileId (pre ++ t.item members.render) offset).or
        (members.ownerOf? path fileId (pre ++ t.opening) offset)).or
          (if (t.decl path fileId pre members.render).bodySpan.contains offset then
            some (String.ofList t.name.text) else none) := by
  have hhead : entries [t.decl path fileId pre members.render] =
      [⟨(t.decl path fileId pre members.render).bodySpan, String.ofList t.name.text⟩] := rfl
  rw [ownerOf?, ownerOf?, ownerOf?, types, ← List.singleton_append, entries_append, entries_append,
    last?_append, last?_append, hhead, last?_singleton, Option.map_or, Option.map_or]
  split_ifs <;> rfl

/-- Among the members of a type, the type is around every place that no type of the members is
around. -/
theorem ownerOf?_type_of_members (t : TypeHead) (members next : Forest)
    (hle : byteLength (pre ++ t.opening) ≤ offset)
    (hlt : offset < byteLength (pre ++ t.opening ++ members.render)) :
    (type t members next).ownerOf? path fileId pre offset =
      (members.ownerOf? path fileId (pre ++ t.opening) offset).or
        (some (String.ofList t.name.text)) := by
  have hopening := t.byteLength_opening path fileId pre members.render
  have hinside := t.byteLength_members_le path fileId pre members.render
  have hitem := t.stop_lt_byteLength_item path fileId pre members.render
  have hholds : (t.decl path fileId pre members.render).bodySpan.contains offset = true := by
    rw [Span.contains, Bool.and_eq_true, decide_eq_true_eq, decide_eq_true_eq]
    omega
  rw [ownerOf?_type, next.ownerOf?_eq_none (Or.inl (by omega)), Option.none_or, if_pos hholds]

/-- Behind a type neither the type nor its members are around a place. -/
theorem ownerOf?_type_of_next (t : TypeHead) (members next : Forest)
    (hle : byteLength (pre ++ t.item members.render) ≤ offset) :
    (type t members next).ownerOf? path fileId pre offset =
      next.ownerOf? path fileId (pre ++ t.item members.render) offset := by
  have hinside := t.byteLength_members_le path fileId pre members.render
  have hitem := t.stop_lt_byteLength_item path fileId pre members.render
  have hpassed : ¬ (t.decl path fileId pre members.render).bodySpan.contains offset = true := by
    rw [Span.contains, Bool.and_eq_true, decide_eq_true_eq, decide_eq_true_eq]
    omega
  rw [ownerOf?_type, members.ownerOf?_eq_none (Or.inr (by omega)), Option.or_none, if_neg hpassed,
    Option.or_none]

end Forest
end HeaderSurvey
