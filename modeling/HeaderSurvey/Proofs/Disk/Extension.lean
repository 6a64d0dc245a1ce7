import HeaderSurvey.Proofs.Disk.Follow

/-!
# File names and their extensions

A path ends in a name behind a slash, or is a name by itself; the functions on the last component
then only see that name.  Of a name `stem.old` they find `old`, and put another extension in its
place (`withExtension_append`).  Only a stem of one dot is an exception: what is left of the name
without the old extension are two dots, and they are no file name.
-/

namespace HeaderSurvey
namespace Path

/-- What may stand in front of the last name of a path. -/
def IsFront (front : List Char) : Prop :=
  front = [] ∨ ∃ s, front = s ++ ['/']

variable {front name : List Char}

/-! ### The last component -/

theorem trimIdle_append_singleton (pieces : List (List Char)) (h : isIdle name = false) :
    trimIdle (pieces ++ [name]) = pieces ++ [name] := by
  rw [trimIdle, List.reverse_append, List.reverse_singleton, List.singleton_append,
    List.dropWhile_cons_of_neg (by simp [h]), List.reverse_cons, List.reverse_reverse]

/-- A path is split in front of its last name, and put together again around another one. -/
theorem exists_split_append (hfront : IsFront front) (hidle : isIdle name = false)
    (hslash : '/' ∉ name) :
    ∃ start pieces, split (front ++ name) = (start, pieces ++ [name]) ∧
      ∀ x, start ++ Text.join ['/'] (pieces ++ [x]) = front ++ x := by
  have hname := splitBy_of_no_slash hslash
  have hnameIdle : name ≠ [] ∧ name ≠ ['.'] := by
    simpa [isIdle] using hidle
  rcases hfront with rfl | ⟨s, rfl⟩
  · have habsolute : isAbsolute name = false := by
      obtain ⟨x, t, rfl⟩ := List.exists_cons_of_ne_nil hnameIdle.1
      refine isAbsolute_of_ne rfl ?_
      rintro rfl
      exact hslash (List.mem_cons_self ..)
    refine ⟨[], [], ?_, fun x => by simp [Text.join]⟩
    rw [split, List.nil_append, hname]
    simp only [habsolute, hnameIdle.2, if_false, Bool.false_eq_true]
    exact congrArg (Prod.mk []) (trimIdle_append_singleton [] hidle)
  · have hsplit : Text.splitBy (· = '/') (s ++ ['/'] ++ name) =
        Text.splitBy (· = '/') s ++ [name] := by
      rw [List.append_assoc, List.singleton_append, Text.splitBy_append_cons (by simp), hname]
    -- the pieces in front of the name give back what is in front of the slash
    have hjoin : ∀ x, Text.join ['/'] (Text.splitBy (· = '/') s ++ [x]) = s ++ ['/'] ++ x := by
      intro x
      rw [Text.join_append_singleton (Text.splitBy_ne_nil _ s), Text.join_splitBy]
    obtain ⟨piece, pieces, hpieces⟩ :=
      List.exists_cons_of_ne_nil (Text.splitBy_ne_nil (· = '/') s)
    rw [hpieces] at hsplit hjoin
    have htail : ∀ x, Text.join ['/'] (piece :: pieces ++ [x]) =
        piece ++ ['/'] ++ Text.join ['/'] (pieces ++ [x]) := by
      intro x
      cases pieces <;> rfl
    have habsolute : isAbsolute (s ++ ['/'] ++ name) = true → piece = [] := by
      intro h
      cases s with
      | nil => exact (List.cons.inj hpieces).1.symm
      | cons c s =>
        have hc : c = '/' := by simpa [isAbsolute] using h
        rw [hc] at hpieces
        have hcons : Text.splitBy (· = '/') ('/' :: s) = [] :: Text.splitBy (· = '/') s := by
          simp [Text.splitBy]
        rw [hcons] at hpieces
        exact (List.cons.inj hpieces).1.symm
    rw [split, hsplit]
    simp only [List.cons_append]
    split_ifs with h hdot
    · refine ⟨['/'], pieces, by rw [trimIdle_append_singleton pieces hidle], fun x => ?_⟩
      rw [← hjoin x, htail x, habsolute h]
      rfl
    · refine ⟨['.', '/'], pieces, ?_, fun x => ?_⟩
      · rw [trimIdle_append_singleton pieces hidle]
        cases pieces <;> rfl
      · rw [← hjoin x, htail x, hdot]
        rfl
    · refine ⟨[], piece :: pieces, ?_, hjoin⟩
      rw [← List.cons_append, trimIdle_append_singleton _ hidle]

theorem fileName?_append (hfront : IsFront front) (hname : IsPiece name) :
    fileName? (front ++ name) = some name := by
  obtain ⟨start, pieces, hsplit, -⟩ :=
    exists_split_append hfront hname.not_idle hname.no_slash
  rw [fileName?, hsplit]
  simp [hname.not_dots]

/-- Two dots are no file name. -/
theorem fileName?_append_dots (hfront : IsFront front) :
    fileName? (front ++ ['.', '.']) = none := by
  obtain ⟨start, pieces, hsplit, -⟩ :=
    exists_split_append hfront (by decide : isIdle ['.', '.'] = false) (by decide)
  rw [fileName?, hsplit]
  simp

theorem extension?_append (hfront : IsFront front) (hname : IsPiece name) :
    extension? (front ++ name) = (splitName name).2 := by
  rw [extension?, fileName?_append hfront hname]
  rfl

theorem setExtension_append (extension : List Char) (hfront : IsFront front)
    (hname : IsPiece name) :
    setExtension extension (front ++ name) = front ++ ((splitName name).1 ++ '.' :: extension) := by
  obtain ⟨start, pieces, hsplit, hjoin⟩ :=
    exists_split_append hfront hname.not_idle hname.no_slash
  rw [setExtension, fileName?_append hfront hname, hsplit]
  simp only [List.dropLast_concat]
  exact hjoin _

/-- What a relative path is continued with stands behind the same front, whatever it is. -/
theorem exists_join_eq (path : List Char) :
    ∃ front, IsFront front ∧ ∀ more, isAbsolute more = false → join path more = front ++ more := by
  by_cases hslash : path = [] ∨ path.getLast? = some '/'
  · refine ⟨path, ?_, fun more hmore => ?_⟩
    · rcases hslash with h | h
      · exact Or.inl h
      · exact Or.inr (List.getLast?_eq_some_iff.mp h)
    · rw [join, hmore]
      simpa [or_iff_not_imp_left] using hslash
  · refine ⟨path ++ ['/'], Or.inr ⟨path, rfl⟩, fun more hmore => ?_⟩
    rw [not_or] at hslash
    rw [join, hmore]
    simp [hslash.1, hslash.2]

/-! ### Names with an extension -/

variable {stem old : List Char}

theorem splitName_append (hstem : stem ≠ []) (hold : '.' ∉ old) :
    splitName (stem ++ '.' :: old) = (stem, some old) := by
  have hreverse : (stem ++ '.' :: old).reverse = old.reverse ++ '.' :: stem.reverse := by simp
  have hne : ∀ x ∈ old.reverse, decide (x ≠ '.') = true := by
    intro x hx
    have hx' : x ≠ '.' := by
      rintro rfl
      exact hold (List.mem_reverse.mp hx)
    simpa using hx'
  have hdrop : (old.reverse ++ '.' :: stem.reverse).dropWhile (· ≠ '.') = '.' :: stem.reverse := by
    rw [List.dropWhile_append_of_pos hne]
    simp
  have htake : (old.reverse ++ '.' :: stem.reverse).takeWhile (· ≠ '.') = old.reverse := by
    rw [List.takeWhile_append_of_pos hne]
    simp
  rw [splitName]
  simp only [hreverse, hdrop, htake]
  simp [hstem]

/-- A name with an extension is its stem, a dot and the extension. -/
theorem eq_of_splitName (h : (splitName name).2 = some old) :
    ∃ stem, name = stem ++ '.' :: old ∧ stem ≠ [] ∧ '.' ∉ old := by
  rw [splitName] at h
  -- the name is taken apart from its end, at the last dot
  have hparts := (name.reverse.takeWhile_append_dropWhile (p := (· ≠ '.'))).symm
  have hfree : ∀ x ∈ name.reverse.takeWhile (· ≠ '.'), x ≠ '.' := by
    intro x hx
    simpa using List.mem_takeWhile_imp hx
  cases hdrop : name.reverse.dropWhile (· ≠ '.') with
  | nil =>
    simp only [hdrop] at h
    exact absurd h (by simp)
  | cons c stem =>
    have hc : c = '.' := by
      have hhead := List.head?_dropWhile_not (· ≠ '.') name.reverse
      rw [hdrop] at hhead
      simpa using hhead
    simp only [hdrop] at h
    split_ifs at h with hempty
    have hold := Option.some.inj h
    refine ⟨stem.reverse, ?_, by simpa using hempty, ?_⟩
    · rw [hdrop, hc] at hparts
      have hname := congrArg List.reverse hparts
      rw [List.reverse_reverse, List.reverse_append, hold, List.reverse_cons,
        List.append_assoc] at hname
      exact hname
    · rw [← hold, List.mem_reverse]
      intro hmem
      exact hfree _ hmem rfl

/-- A piece of a path with something else than dots in it. -/
theorem isPiece_of_mem {x : Char} (hx : x ∈ name) (hdot : x ≠ '.') (hslash : '/' ∉ name) :
    IsPiece name := by
  refine ⟨?_, ?_, hslash⟩
  · simp only [isIdle, Bool.or_eq_false_iff, List.isEmpty_eq_false_iff, decide_eq_false_iff_not]
    refine ⟨List.ne_nil_of_mem hx, ?_⟩
    rintro rfl
    exact hdot (List.mem_singleton.mp hx)
  · rintro rfl
    simp only [List.mem_cons, List.not_mem_nil, or_false, or_self] at hx
    exact hdot hx

theorem take_extension (front stem old : List Char) :
    (front ++ (stem ++ '.' :: old)).take ((front ++ (stem ++ '.' :: old)).length - old.length) =
      front ++ (stem ++ ['.']) := by
  have hsplit : front ++ (stem ++ '.' :: old) = front ++ (stem ++ ['.']) ++ old := by simp
  rw [hsplit, List.length_append, Nat.add_sub_cancel, List.take_left]

/-- The extension of the last name is replaced. -/
theorem withExtension_append (extension : List Char) (hfront : IsFront front)
    (hname : IsPiece (stem ++ '.' :: old)) (hstem : stem ≠ []) (hdot : stem ≠ ['.'])
    (hold : '.' ∉ old) :
    withExtension extension (front ++ (stem ++ '.' :: old)) =
      front ++ (stem ++ '.' :: extension) := by
  have hbare : IsPiece (stem ++ ['.']) := by
    refine ⟨?_, ?_, ?_⟩
    · simp only [isIdle, Bool.or_eq_false_iff, List.isEmpty_eq_false_iff, decide_eq_false_iff_not]
      refine ⟨by simp, fun heq => hstem ?_⟩
      exact List.append_cancel_right (heq.trans (List.nil_append ['.']).symm)
    · intro heq
      exact hdot (List.append_cancel_right (heq.trans (rfl : ['.', '.'] = ['.'] ++ ['.'])))
    · intro hmem
      rcases List.mem_append.mp hmem with hmem | hmem
      · exact hname.no_slash (List.mem_append_left _ hmem)
      · exact absurd hmem (by decide)
  rw [withExtension, extension?_append hfront hname, splitName_append hstem hold]
  simp only
  rw [take_extension, setExtension_append extension hfront hbare,
    splitName_append hstem (by simp)]

/-- Of a name with a dot for a stem two dots are left. -/
theorem withExtension_append_dots (extension : List Char) (hfront : IsFront front)
    (hname : IsPiece ('.' :: '.' :: old)) (hold : '.' ∉ old) :
    withExtension extension (front ++ '.' :: '.' :: old) = front ++ ['.', '.'] := by
  have hsplit : ('.' :: '.' :: old) = ['.'] ++ '.' :: old := rfl
  rw [withExtension, extension?_append hfront hname, hsplit,
    splitName_append (by simp) hold]
  simp only
  rw [take_extension, setExtension]
  have hnone : fileName? (front ++ (['.'] ++ ['.'])) = none := fileName?_append_dots hfront
  rw [hnone]
  rfl

end Path
end HeaderSurvey
