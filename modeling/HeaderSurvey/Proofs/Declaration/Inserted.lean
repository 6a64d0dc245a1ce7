import HeaderSurvey.Proofs.Declaration.Framed
import HeaderSurvey.Proofs.Declaration.HeadSeam

/-!
# A text put into another one

A text is put into a longer one, and the types stay the same: each stands in front of the place, or
behind it, or has the place in its head or in its body, which is so much longer then
(`TypeDecl.Inserted`).

What is known of a block that begins in front of the place: its braces are the same if the text has
none of its own (`HeadText.IsMatch.exists_inserted`), and so is what it declares
(`HeadText.IsMatch.typeOfBlock?_eq`).
-/

namespace HeaderSurvey

open Pattern

/-- A type of a text into which `w` is put at the offset `place`, and the type that it is then. -/
inductive TypeDecl.Inserted (w : List Char) (place : Nat) : TypeDecl → TypeDecl → Prop
  | before {t : TypeDecl} : t.span.stop ≤ place → Inserted w place t t
  | behind {t : TypeDecl} : place ≤ t.span.start → Inserted w place t (t.behind w)
  | head {t : TypeDecl} : t.span.start < place → place < t.bodySpan.start →
      Inserted w place t { t with
        span := ⟨t.span.start, t.span.stop + Text.byteLength w⟩
        bodySpan := t.bodySpan.shift (Text.byteLength w) }
  | body {t : TypeDecl} (front back : List Char) : t.body = String.ofList (front ++ back) →
      t.bodySpan.start + Text.byteLength front = place →
      Inserted w place t { t with
        span := ⟨t.span.start, t.span.stop + Text.byteLength w⟩
        bodySpan := ⟨t.bodySpan.start, t.bodySpan.stop + Text.byteLength w⟩
        body := String.ofList (front ++ w ++ back) }

namespace TypeDecl.Inserted

variable {w : List Char} {place : Nat} {t t' : TypeDecl}

theorem name_eq (h : Inserted w place t t') : t'.name = t.name := by
  cases h <;> rfl

/-- What is kept of the types stays the same. -/
theorem forall₂_keepLast {types types' : List TypeDecl}
    (h : List.Forall₂ (Inserted w place) types types') :
    List.Forall₂ (Inserted w place) (keepLast types) (keepLast types') := by
  induction h with
  | nil => exact .nil
  | @cons t t' types types' ht hrest ih =>
    have hany : types'.any (·.name = t'.name) = types.any (·.name = t.name) := by
      rw [ht.name_eq]
      clear ih
      induction hrest with
      | nil => rfl
      | cons hhead _ ih => rw [List.any_cons, List.any_cons, hhead.name_eq, ih]
    rw [keepLast, keepLast, hany]
    split_ifs
    · exact ih
    · exact .cons ht ih

end TypeDecl.Inserted

/-! ### What a head declares -/

/-- The type that a head declares behind `pre`, with a body behind `front`. -/
def HeadText.decl (p : HeadText) (unit : SourceUnit) (list : Option (List Char))
    (pre front body : List Char) : TypeDecl where
  keyword := p.keyword
  name := String.ofList p.name
  bases := (list.map parseBases).getD []
  path := unit.path
  fileId := unit.fileId
  line := pre.count '\n' + 1
  span := ⟨Text.byteLength pre, Text.byteLength (front ++ ['{'] ++ body ++ ['}'])⟩
  bodySpan := ⟨Text.byteLength (front ++ ['{']), Text.byteLength (front ++ ['{'] ++ body)⟩
  body := String.ofList body

section Declares

variable {unit : SourceUnit} {p : HeadText} {list : Option (List Char)} {pre ahead : List Char}
  {m : Match}

/-- Whether `enum` stands in front depends on nothing else. -/
theorem isAfterEnum_between (pre post post' : List Char) :
    isAfterEnum (Cursor.between pre post) = isAfterEnum (Cursor.between pre post') :=
  rfl

theorem typeOfBlock?_of_braces_none (unit : SourceUnit) (m : Match) :
    typeOfBlock? unit ⟨m, none⟩ = none :=
  rfl

/-- **What a head with braces declares**, if no enumeration begins there. -/
theorem HeadText.IsMatch.typeOfBlock?_eq (h : p.IsMatch list pre ahead m)
    (front body post : List Char) :
    typeOfBlock? unit ⟨m, some (Braces.around front body post)⟩ =
      if isAfterEnum (Cursor.between pre []) then none
      else some (p.decl unit list pre front body) := by
  have hbody := @Block.body?_of_around ⟨m, some (Braces.around front body post)⟩ front body post rfl
  have hspan :=
    @Block.bodySpan?_of_around ⟨m, some (Braces.around front body post)⟩ front body post rfl
  have hstop := @Block.stop_of_around ⟨m, some (Braces.around front body post)⟩ front body post rfl
  rw [typeOfBlock?, hbody, hspan, h.keyword_eq, h.name_eq, h.list_eq, Block.span, hstop, h.start_eq,
    isAfterEnum_between pre _ [], Cursor.span, Cursor.offset_between, Cursor.offset_between,
    Cursor.line_between]
  cases isAfterEnum (Cursor.between pre []) with
  | true => rfl
  | false =>
    simp only [Option.bind_eq_bind, Option.bind_some, Bool.false_eq_true, ↓reduceIte,
      keyword_of_text]
    rfl

end Declares

/-- The place is in the body. -/
theorem HeadText.inserted_decl_body (p : HeadText) (unit : SourceUnit)
    (list : Option (List Char)) (pre front inside rest w : List Char) :
    TypeDecl.Inserted w (Text.byteLength (front ++ '{' :: inside))
      (p.decl unit list pre front (inside ++ rest))
      (p.decl unit list pre front (inside ++ (w ++ rest))) := by
  have hplace : (p.decl unit list pre front (inside ++ rest)).bodySpan.start +
      Text.byteLength inside = Text.byteLength (front ++ '{' :: inside) := by
    rw [decl, ← Text.byteLength_append]
    simp
  have hinserted := @TypeDecl.Inserted.body w _ _ inside rest rfl hplace
  have hspan : Text.byteLength (front ++ ['{'] ++ (inside ++ (w ++ rest)) ++ ['}']) =
      Text.byteLength (front ++ ['{'] ++ (inside ++ rest) ++ ['}']) + Text.byteLength w := by
    simp only [Text.byteLength_append]
    omega
  have hbody : Text.byteLength (front ++ ['{'] ++ (inside ++ (w ++ rest))) =
      Text.byteLength (front ++ ['{'] ++ (inside ++ rest)) + Text.byteLength w := by
    simp only [Text.byteLength_append]
    omega
  simp only [decl] at hinserted ⊢
  rw [hspan, hbody, ← List.append_assoc inside w rest]
  exact hinserted

/-- The second head is the first one with `w` between `head` and `rest`, and it has the same name and
the same bases. -/
structure HeadText.IsLonger (w head rest : List Char) (p : HeadText) (kept : Option (List Char))
    (p' : HeadText) (kept' : Option (List Char)) : Prop where
  head_ne_nil : head ≠ []
  text_eq : p.text = head ++ rest
  longer_eq : p'.text = head ++ (w ++ rest)
  keyword_eq : p'.keyword = p.keyword
  name_eq : p'.name = p.name
  bases_eq : (kept'.map parseBases).getD [] = (kept.map parseBases).getD []

/-- The place is in the head. -/
theorem HeadText.IsLonger.inserted_decl {w head rest : List Char} {p p' : HeadText}
    {kept kept' : Option (List Char)} (h : IsLonger w head rest p kept p' kept') (unit : SourceUnit)
    (pre body : List Char) :
    TypeDecl.Inserted w (Text.byteLength (pre ++ head)) (p.decl unit kept pre (pre ++ p.text) body)
      (p'.decl unit kept' pre (pre ++ p'.text) body) := by
  have hpos : 0 < Text.byteLength head :=
    Nat.pos_of_ne_zero fun hzero => h.head_ne_nil (Text.byteLength_eq_zero.mp hzero)
  have hone : Text.byteLength ['{'] = 1 := rfl
  have hstart : Text.byteLength pre < Text.byteLength (pre ++ head) := by
    rw [Text.byteLength_append]
    exact Nat.lt_add_of_pos_right hpos
  have hbehind : Text.byteLength (pre ++ head) < Text.byteLength (pre ++ p.text ++ ['{']) := by
    rw [h.text_eq]
    simp only [Text.byteLength_append, hone]
    omega
  have hinserted := @TypeDecl.Inserted.head w _ (p.decl unit kept pre (pre ++ p.text) body) hstart
    hbehind
  -- whatever stands behind the head is further on by what is put in
  have hlength : Text.byteLength p'.text = Text.byteLength p.text + Text.byteLength w := by
    rw [h.text_eq, h.longer_eq]
    simp only [Text.byteLength_append]
    omega
  have hopening : Text.byteLength (pre ++ p'.text ++ ['{']) =
      Text.byteLength (pre ++ p.text ++ ['{']) + Text.byteLength w := by
    simp only [Text.byteLength_append, hlength]
    omega
  have hbody : Text.byteLength (pre ++ p'.text ++ ['{'] ++ body) =
      Text.byteLength (pre ++ p.text ++ ['{'] ++ body) + Text.byteLength w := by
    simp only [Text.byteLength_append _ body, hopening]
    omega
  have hspan : Text.byteLength (pre ++ p'.text ++ ['{'] ++ body ++ ['}']) =
      Text.byteLength (pre ++ p.text ++ ['{'] ++ body ++ ['}']) + Text.byteLength w := by
    simp only [Text.byteLength_append _ ['}'], hbody]
    omega
  simp only [decl, Span.shift] at hinserted ⊢
  rw [h.keyword_eq, h.name_eq, h.bases_eq, hopening, hbody, hspan]
  exact hinserted

/-! ### The braces -/

/-- A text without braces may be put into a balanced one. -/
theorem balanced_insert {u v w : List Char} (hw : ∀ x ∈ w, x ≠ '{' ∧ x ≠ '}')
    (h : Balanced (u ++ v)) : Balanced (u ++ (w ++ v)) := by
  have hnone : ∀ s, s <+: w → s.count '{' = 0 ∧ s.count '}' = 0 := by
    intro s hs
    exact ⟨List.count_eq_zero.mpr fun hmem => (hw _ (hs.subset hmem)).1 rfl,
      List.count_eq_zero.mpr fun hmem => (hw _ (hs.subset hmem)).2 rfl⟩
  obtain ⟨hopen, hclose⟩ := hnone w (List.prefix_refl w)
  constructor
  · intro s hs
    rcases prefix_or_of_prefix_append hs with hu | ⟨r, rfl, hr⟩
    · exact h.1 s (hu.trans (List.prefix_append u v))
    rcases prefix_or_of_prefix_append hr with hwhole | ⟨q, rfl, hq⟩
    · have hu := h.1 u (List.prefix_append u v)
      obtain ⟨hopen', hclose'⟩ := hnone r hwhole
      rw [List.count_append, List.count_append, hopen', hclose']
      exact hu
    · have hv := h.1 (u ++ q) (List.prefix_append_right_inj u |>.mpr hq)
      rw [List.count_append, List.count_append] at hv
      simp only [List.count_append, hopen, hclose]
      omega
  · have hcount := h.2
    rw [List.count_append, List.count_append] at hcount
    simp only [List.count_append, hopen, hclose]
    omega

/-- A character stands in the one part of a text or in the other. -/
theorem exists_of_append_eq_append_cons {α : Type} {s t u v : List α} {x : α}
    (h : s ++ t = u ++ x :: v) :
    (∃ r, u = s ++ r ∧ t = r ++ x :: v) ∨ ∃ r, s = u ++ x :: r ∧ v = r ++ t := by
  rcases List.append_eq_append_iff.mp h with ⟨r, rfl, rfl⟩ | ⟨r, rfl, hr⟩
  · exact Or.inl ⟨r, rfl, rfl⟩
  · rcases List.cons_eq_append_iff.mp hr with ⟨rfl, rfl⟩ | ⟨r, rfl, rfl⟩
    · exact Or.inl ⟨[], by simp, rfl⟩
    · exact Or.inr ⟨r, rfl, rfl⟩

/-- Blanks lead from `s` to a brace of `t` only if there is one among them in `s` already: no type
has its head in `s` and its opening brace in `t`. -/
def OpensWithin (s t : List Char) : Prop :=
  ∀ gap rest, s ++ t = gap ++ '{' :: rest → (∀ x ∈ gap, isAsciiBlank x = true) →
    ∃ inside, s = gap ++ '{' :: inside

section Place

variable {unit : SourceUnit} {p : HeadText} {list : Option (List Char)} {u v w t : List Char}
  {m m' : Match} {braces : Option Braces}

theorem bracesAt_of_not_opens {c : List Char} (h : OpensWithin v t)
    (hnone : ∀ gap inside, v = gap ++ '{' :: inside → ¬ ∀ x ∈ gap, isAsciiBlank x = true) :
    bracesAt (Cursor.between c (v ++ t)) = .ok none := by
  refine bracesAt_of_ne fun rest hrest => ?_
  have hle := Cursor.le_skipWhile isAsciiBlank (Cursor.between c (v ++ t))
  have htext := Cursor.rest_eq_upTo hle
  rw [hrest, Cursor.rest_between] at htext
  have hgap : ∀ x ∈ (Cursor.between c (v ++ t)).upTo
      ((Cursor.between c (v ++ t)).skipWhile isAsciiBlank), isAsciiBlank x = true :=
    fun x hx => Cursor.of_mem_upTo_skipWhile hx
  obtain ⟨inside, hinside⟩ := h _ rest htext hgap
  exact hnone _ inside hinside hgap

/-- **A block that begins in front of the place declares the same type.**  The type ends in front of
the place, or the place is in its body. -/
theorem HeadText.IsMatch.exists_inserted (hw : ∀ x ∈ w, x ≠ '{' ∧ x ≠ '}')
    (hm : p.IsMatch list u (v ++ t) m) (hm' : p.IsMatch list u (v ++ (w ++ t)) m')
    (hopens : OpensWithin v t) (hopens' : OpensWithin v (w ++ t))
    (hbraces : bracesAt m.stop = .ok braces) :
    ∃ braces', bracesAt m'.stop = .ok braces' ∧
      List.Forall₂ (TypeDecl.Inserted w (Text.byteLength (u ++ p.text ++ v)))
        (typeOfBlock? unit ⟨m, braces⟩).toList (typeOfBlock? unit ⟨m', braces'⟩).toList := by
  rw [hm.stop_eq] at hbraces
  rw [hm'.stop_eq]
  by_cases hnone : ∃ gap inside, v = gap ++ '{' :: inside ∧ ∀ x ∈ gap, isAsciiBlank x = true
  · obtain ⟨gap, inside, rfl, hgap⟩ := hnone
    have hskip : ∀ rest, (Cursor.between (u ++ p.text) (gap ++ '{' :: rest)).skipWhile isAsciiBlank =
        Cursor.between (u ++ p.text ++ gap) ('{' :: rest) :=
      fun rest => Cursor.skipWhile_between _ _ hgap (Text.forall_head (by decide))
    rw [List.append_assoc, List.cons_append] at hbraces ⊢
    rcases braces with _ | braces
    · exact absurd (congrArg Cursor.rest (hskip _)) (bracesAt_eq_none_iff.mp hbraces _)
    obtain ⟨front, body, behind, hbody, rfl, hopen⟩ := bracesAt_eq_some hbraces
    rw [hskip] at hopen
    obtain rfl : u ++ p.text ++ gap = front := by
      simpa using congrArg (fun c => c.before.reverse) hopen
    have hinside : inside ++ t = body ++ '}' :: behind :=
      (List.cons.inj (congrArg Cursor.rest hopen)).2
    have hsame : ∀ body' behind', inside ++ (w ++ t) = body' ++ '}' :: behind' → Balanced body' →
        bracesAt (Cursor.between (u ++ p.text) (gap ++ '{' :: (inside ++ (w ++ t)))) =
          .ok (some (Braces.around (u ++ p.text ++ gap) body' behind')) := by
      intro body' behind' heq hbalanced
      refine bracesAt_of_balanced ?_ hbalanced
      rw [hskip, heq]
    rcases exists_of_append_eq_append_cons hinside with ⟨rest, rfl, rfl⟩ | ⟨rest, rfl, rfl⟩
    · -- the place is in the body
      refine ⟨_, hsame (inside ++ (w ++ rest)) behind (by simp) (balanced_insert hw hbody), ?_⟩
      rw [hm.typeOfBlock?_eq, hm'.typeOfBlock?_eq]
      split_ifs
      · exact .nil
      · rw [← List.append_assoc]
        exact .cons (p.inserted_decl_body unit list u _ inside rest w) .nil
    · -- the body ends in front of the place
      refine ⟨_, hsame body (rest ++ (w ++ t)) (by simp) hbody, ?_⟩
      rw [hm.typeOfBlock?_eq, hm'.typeOfBlock?_eq]
      split_ifs
      · exact .nil
      · refine .cons (.before ?_) .nil
        have htext : u ++ p.text ++ (gap ++ '{' :: (body ++ '}' :: rest)) =
            u ++ p.text ++ gap ++ ['{'] ++ body ++ ['}'] ++ rest := by
          simp
        rw [htext, Text.byteLength_append _ rest]
        exact Nat.le_add_right ..
  · -- no brace follows the head in front of the place, and behind it none is looked for
    push Not at hnone
    refine ⟨none, bracesAt_of_not_opens hopens' ?_, ?_⟩
    · intro gap inside hv hgap
      obtain ⟨x, hx, hblank⟩ := hnone gap inside hv
      exact hblank (hgap x hx)
    · rw [bracesAt_of_not_opens hopens (fun gap inside hv hgap => by
        obtain ⟨x, hx, hblank⟩ := hnone gap inside hv
        exact hblank (hgap x hx))] at hbraces
      rw [← Except.ok.inj hbraces]
      exact .nil

end Place
end HeaderSurvey
