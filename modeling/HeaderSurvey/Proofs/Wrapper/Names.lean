import HeaderSurvey.Proofs.Declaration.RoutineReads
import HeaderSurvey.Proofs.Text.Lowercase
import HeaderSurvey.Wrapper.Emit

/-!
# The names in a wrapper

The names in the wrapper of a type are made of the symbol prefix and the name of the type in lower
case.  For an identifier of ASCII lower case is what it is letter by letter
(`lowercase_of_isAsciiName`), and what comes out is an identifier again, perhaps a keyword.

The handle and the two functions are plain names whatever the type is called: no word that means
something else ends the way they do (`exists_symbol`).
-/

namespace HeaderSurvey

/-- An identifier of ASCII: a letter or an underscore, and then letters, digits and underscores. -/
def IsAsciiName : List Char → Prop
  | [] => False
  | x :: s => isNameStart x = true ∧ ∀ y ∈ s, isNameChar y = true

instance : (s : List Char) → Decidable (IsAsciiName s)
  | [] => inferInstanceAs (Decidable False)
  | _ :: s => @instDecidableAnd _ _ _ (List.decidableBAll (p := fun y => isNameChar y = true) s)

/-! ### Letters -/

theorem ascii_of_isNameChar {x : Char} (h : isNameChar x = true) : x.val < 128 := by
  have hle := (toNat_of_isNameChar h).2
  rw [UInt32.lt_iff_toNat_lt]
  exact Nat.lt_of_le_of_lt hle (by decide)

theorem isNameStart_toLower {x : Char} (h : isNameStart x = true) :
    isNameStart x.toLower = true := by
  have hall : ∀ n < 128, isNameStart (Char.ofNat n) = true →
      isNameStart (Char.ofNat n).toLower = true := by decide
  exact @forall_ascii (fun x => isNameStart x = true → isNameStart x.toLower = true) hall x
    (ascii_of_isNameChar (isNameChar_of_isNameStart h)) h

theorem isNameChar_toLower {x : Char} (h : isNameChar x = true) : isNameChar x.toLower = true := by
  have hall : ∀ n < 128, isNameChar (Char.ofNat n) = true →
      isNameChar (Char.ofNat n).toLower = true := by decide
  exact @forall_ascii (fun x => isNameChar x = true → isNameChar x.toLower = true) hall x
    (ascii_of_isNameChar h) h

/-! ### Identifiers -/

namespace IsAsciiName

variable {s t : List Char}

theorem isNameChar_of_mem (h : IsAsciiName s) {x : Char} (hx : x ∈ s) : isNameChar x = true := by
  cases s with
  | nil => exact h.elim
  | cons y s =>
    rcases List.mem_cons.mp hx with rfl | hx
    · exact isNameChar_of_isNameStart h.1
    · exact h.2 x hx

theorem append (h : IsAsciiName s) (ht : ∀ x ∈ t, isNameChar x = true) : IsAsciiName (s ++ t) := by
  cases s with
  | nil => exact h.elim
  | cons y s =>
    refine ⟨h.1, fun x hx => ?_⟩
    rcases List.mem_append.mp hx with hx | hx
    · exact h.2 x hx
    · exact ht x hx

theorem map_toLower (h : IsAsciiName s) : IsAsciiName (s.map Char.toLower) := by
  cases s with
  | nil => exact h.elim
  | cons y s =>
    refine ⟨isNameStart_toLower h.1, fun x hx => ?_⟩
    obtain ⟨z, hz, rfl⟩ := List.mem_map.mp hx
    exact isNameChar_toLower (h.2 z hz)

/-- An identifier that is none of the barred words is a plain name. -/
theorem exists_plainName (h : IsAsciiName s) (hbarred : ∀ w ∈ barredWords, s ≠ w.toList) :
    ∃ n : PlainName, n.text = s := by
  cases s with
  | nil => exact h.elim
  | cons x s =>
    refine ⟨⟨x, s, h.1, h.2, fun hmem => ?_⟩, rfl⟩
    exact hbarred _ hmem String.toList_ofList.symm

end IsAsciiName

/-! ### Lower case -/

/-- The lower case of an identifier of ASCII is that of its letters. -/
theorem Text.lowercase_of_isAsciiName {s : List Char} (h : IsAsciiName s) :
    Text.lowercase s = s.map Char.toLower :=
  lowercaseFrom_of_ascii (fun _ hx => ascii_of_isNameChar (h.isNameChar_of_mem hx)) []

namespace Wrapper

/-- What the names of the functions and the handle of a type begin with: the symbol prefix and the
name of the type in the lower case of ASCII. -/
def stem (settings : WrapperSettings) (t : TypeDecl) : List Char :=
  settings.symbolPrefix.toList ++ t.name.toList.map Char.toLower

variable {settings : WrapperSettings} {t : TypeDecl}

theorem toList_functionStem (ht : IsAsciiName t.name.toList) :
    (Names.ofType settings t).functionStem.toList = stem settings t := by
  rw [Names.ofType, String.toList_append, String.toList_ofList,
    Text.lowercase_of_isAsciiName ht, stem]

theorem toList_handle (ht : IsAsciiName t.name.toList) :
    (Names.ofType settings t).handle.toList = stem settings t ++ "_t".toList := by
  rw [← toList_functionStem ht, ← String.toList_append]
  rfl

theorem toList_parameter (ht : IsAsciiName t.name.toList) :
    (Names.ofType settings t).parameter.toList = t.name.toList.map Char.toLower := by
  rw [Names.ofType, String.toList_ofList, Text.lowercase_of_isAsciiName ht]

theorem isAsciiName_stem
    (hsymbols : settings.symbolPrefix = "" ∨ IsAsciiName settings.symbolPrefix.toList)
    (ht : IsAsciiName t.name.toList) : IsAsciiName (stem settings t) := by
  rw [stem]
  rcases hsymbols with h | h
  · rw [h]
    exact ht.map_toLower
  · exact h.append fun x hx => ht.map_toLower.isNameChar_of_mem hx

/-- A stem with an ending that no barred word has is a plain name. -/
theorem exists_symbol {s ending : List Char} (hs : IsAsciiName s)
    (hchars : ∀ x ∈ ending, isNameChar x = true)
    (hending : ∀ w ∈ barredWords, ¬ ending <:+ w.toList) :
    ∃ n : PlainName, n.text = s ++ ending := by
  refine (hs.append hchars).exists_plainName fun w hw heq => ?_
  exact hending w hw ⟨s, heq⟩

end Wrapper
end HeaderSurvey
