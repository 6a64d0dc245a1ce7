import HeaderSurvey.Proofs.Declaration.Brackets
import HeaderSurvey.Proofs.Declaration.TypeName
import Mathlib.Data.List.TakeWhile

/-!
# Class names

A class name is a sequence of parts with `::` between them, each an identifier, perhaps with
template arguments.  Its last name, as the library takes it, is the identifier of the part where the
name stops (`unqualified_text`): of the first part with template arguments, since everything from the
first `<` on is left out before `::` is looked for, and of the last part if no other has any.

What is taken as a last name is its own last name (`unqualified_unqualified`).
-/

namespace HeaderSurvey

/-- An identifier, as the pattern of the types takes it for a name. -/
structure Identifier where
  first : Char
  others : List Char
  first_ok : isNameStart first = true
  others_ok : ∀ x ∈ others, isWordChar x = true

namespace Identifier

def text (n : Identifier) : List Char :=
  n.first :: n.others

theorem isWordChar_of_mem (n : Identifier) {x : Char} (h : x ∈ n.text) : isWordChar x = true := by
  rcases List.mem_cons.mp h with rfl | h
  · exact isWordChar_of_isNameStart n.first_ok
  · exact n.others_ok x h

theorem notMem (n : Identifier) {x : Char} (hx : isWordChar x = false) : x ∉ n.text := by
  intro h
  rw [n.isWordChar_of_mem h] at hx
  exact nomatch hx

theorem isBlank_of_mem (n : Identifier) {x : Char} (h : x ∈ n.text) : isBlank x = false := by
  rw [← Bool.not_eq_true]
  exact fun hblank => n.notMem (isWordChar_of_isBlank hblank) h

end Identifier

/-- Template arguments, whose own brackets match. -/
structure TemplateArguments where
  inside : List Char
  brackets : BracketsMatch inside

def TemplateArguments.text (a : TemplateArguments) : List Char :=
  '<' :: (a.inside ++ ['>'])

/-- A part of a class name. -/
structure NamePart where
  name : Identifier
  arguments : Option TemplateArguments

def NamePart.text (p : NamePart) : List Char :=
  p.name.text ++ (p.arguments.map (·.text)).getD []

/-- A class name. -/
structure QualifiedName where
  /-- Whether the name begins with `::`. -/
  rooted : Bool
  qualifiers : List NamePart
  last : NamePart

namespace QualifiedName

def text (n : QualifiedName) : List Char :=
  (if n.rooted then "::".toList else []) ++
    (n.qualifiers.flatMap fun p => p.text ++ "::".toList) ++ n.last.text

/-- The part where the name stops: the first with template arguments, or the last one. -/
def stop (n : QualifiedName) : NamePart :=
  (n.qualifiers.find? (·.arguments.isSome)).getD n.last

end QualifiedName

/-! ### What is left of a name -/

theorem afterLastColons_append {s : List Char} (hs : ':' ∉ s) (t : List Char) :
    afterLastColons (s ++ t) = s ++ afterLastColons t := by
  induction s with
  | nil => rfl
  | cons c s ih =>
    rw [List.mem_cons, not_or] at hs
    obtain ⟨hc, hs⟩ := hs
    rw [List.cons_append, afterLastColons, ih hs, List.cons_append]
    exact fun rest heq _ => hc heq.symm

/-- An identifier behind nothing, or behind `::`, is all that is left of a name up to `<`. -/
theorem unqualified_front {front rest : List Char} (hfront : '<' ∉ front)
    (hcolons : afterLastColons front.reverse = []) (n : Identifier)
    (hrest : ∀ x s, rest = x :: s → x = '<') :
    unqualified (String.ofList (front ++ n.text ++ rest)) = String.ofList n.text := by
  have hplain : ∀ x ∈ front ++ n.text, decide (x ≠ '<') = true := by
    intro x hx
    rw [decide_eq_true_eq]
    rintro rfl
    exact (List.mem_append.mp hx).elim hfront (n.notMem (by decide))
  have htake : (front ++ n.text ++ rest).takeWhile (· ≠ '<') = front ++ n.text := by
    rw [List.takeWhile_append_of_pos hplain]
    cases rest with
    | nil => simp
    | cons x s =>
      obtain rfl := hrest x s rfl
      simp
  have hname : ':' ∉ n.text.reverse := by
    rw [List.mem_reverse]
    exact n.notMem (by decide)
  unfold unqualified
  dsimp only
  rw [String.toList_ofList, htake, List.reverse_append, afterLastColons_append hname, hcolons,
    List.append_nil, List.reverse_reverse]
  rw [Text.trim_of_forall fun x hx => n.isBlank_of_mem hx]

/-- Of the parts behind `front`, the first with template arguments or else the last one is left. -/
theorem unqualified_parts {front : List Char} (hfront : '<' ∉ front)
    (hcolons : afterLastColons front.reverse = []) (qualifiers : List NamePart) (last : NamePart) :
    unqualified (String.ofList
        (front ++ (qualifiers.flatMap fun p => p.text ++ "::".toList) ++ last.text)) =
      String.ofList ((qualifiers.find? (·.arguments.isSome)).getD last).name.text := by
  -- behind the identifier of a part nothing stands, or the `<` of its arguments
  have hstop : ∀ (a : Option TemplateArguments) (x : Char) (s : List Char),
      (a.map (·.text)).getD [] = x :: s → x = '<' := by
    rintro (_ | a) x s heq
    · exact nomatch heq
    · exact (List.cons.inj heq).1.symm
  induction qualifiers generalizing front with
  | nil =>
    rw [List.flatMap_nil, List.append_nil, NamePart.text, ← List.append_assoc]
    exact unqualified_front hfront hcolons last.name (hstop _)
  | cons p ps ih =>
    rw [List.flatMap_cons]
    rcases harguments : p.arguments with _ | a
    · -- the walk goes on behind the colons of this part
      have hp : p.text = p.name.text := by rw [NamePart.text, harguments]; simp
      have hnext : '<' ∉ front ++ (p.name.text ++ "::".toList) := by
        simp only [List.mem_append, not_or]
        exact ⟨hfront, p.name.notMem (by decide), by decide⟩
      have hends : afterLastColons (front ++ (p.name.text ++ "::".toList)).reverse = [] := by
        rw [List.reverse_append, List.reverse_append]
        rfl
      have hrest := ih hnext hends
      rw [List.find?_cons_of_neg (by simp [harguments]), ← hrest, hp]
      simp only [List.append_assoc]
    · have hp : p.text = p.name.text ++ a.text := by rw [NamePart.text, harguments]; rfl
      rw [List.find?_cons_of_pos (by simp [harguments]), Option.getD_some, hp]
      simp only [List.append_assoc]
      rw [← List.append_assoc front]
      refine unqualified_front hfront hcolons p.name fun x s heq => ?_
      exact (List.cons.inj heq).1.symm

theorem QualifiedName.unqualified_text (n : QualifiedName) :
    unqualified (String.ofList n.text) = String.ofList n.stop.name.text := by
  rw [QualifiedName.text, QualifiedName.stop]
  cases n.rooted with
  | false => exact unqualified_parts (by decide) (by decide) n.qualifiers n.last
  | true => exact unqualified_parts (by decide) (by decide) n.qualifiers n.last

/-! ### A last name has no other last name -/

theorem afterLastColons_prefix_self (s : List Char) : afterLastColons s <+: s := by
  fun_induction afterLastColons s with
  | case1 => exact List.nil_prefix
  | case2 c cs _ ih => exact (List.prefix_cons_inj c).mpr ih
  | case3 => exact List.prefix_refl []

/-- No `::` is left. -/
theorem not_colons_infix (s : List Char) : ¬ [':', ':'] <:+: afterLastColons s := by
  fun_induction afterLastColons s with
  | case1 => simp
  | case2 c cs hno ih =>
    rw [List.infix_cons_iff, not_or]
    refine ⟨fun hprefix => ?_, ih⟩
    -- both colons would stand in the text before the cut, too
    obtain ⟨rfl, hcolon⟩ := List.cons_prefix_cons.mp hprefix
    obtain ⟨rest, hrest⟩ := hcolon.trans (afterLastColons_prefix_self cs)
    exact hno rest rfl hrest.symm
  | case3 => simp

theorem afterLastColons_of_not_infix {s : List Char} (h : ¬ [':', ':'] <:+: s) :
    afterLastColons s = s := by
  fun_induction afterLastColons s with
  | case1 rest => exact absurd (List.prefix_append [':', ':'] rest).isInfix h
  | case2 c cs _ ih => rw [ih fun hinfix => h (List.infix_cons hinfix)]
  | case3 => rfl

/-- What is taken as a last name is its own last name. -/
theorem unqualified_unqualified (name : String) :
    unqualified (unqualified name) = unqualified name := by
  unfold unqualified
  dsimp only
  generalize hplain : name.toList.takeWhile (· ≠ '<') = plain
  generalize hlast : (afterLastColons plain.reverse).reverse = last
  have hinfix := Text.trim_infix last
  -- neither a `<` nor a `::` can be found again
  have htake : (Text.trim last).takeWhile (· ≠ '<') = Text.trim last := by
    rw [List.takeWhile_eq_self_iff]
    intro x hx
    have hmem : x ∈ plain := by
      rw [← List.mem_reverse]
      refine (afterLastColons_prefix_self plain.reverse).subset ?_
      rw [← List.mem_reverse, hlast]
      exact hinfix.subset hx
    rw [← hplain] at hmem
    exact List.mem_takeWhile_imp (p := fun x => decide (x ≠ '<')) hmem
  have hcolons : afterLastColons (Text.trim last).reverse = (Text.trim last).reverse := by
    refine afterLastColons_of_not_infix fun h => not_colons_infix plain.reverse (h.trans ?_)
    rw [← List.reverse_infix, List.reverse_reverse, hlast]
    exact hinfix
  rw [String.toList_ofList, htake, hcolons, List.reverse_reverse, Text.trim_trim]

end HeaderSurvey
