import HeaderSurvey.Proofs.Declaration.InsertedWalk
import HeaderSurvey.Proofs.Declaration.Seam

/-!
# The types behind an inserted text

What stands in front of a text makes no difference to its types but for two things: the last word
must not go on into the text, and it must not be `enum` in front of the first type (`KeepsEnum`).  So
behind a text that is put in, the types are the same, further on (`exists_reads_behind`).
-/

namespace HeaderSurvey

open Pattern

/-! ### The word in front of a type -/

/-- A character that is no blank and does not belong to the word ends what decides. -/
theorem isAfterEnum_append_cons {y : Char} (hy : y ∉ "enum".toList.reverse)
    (hblank : isBlank y = false) (s t rest : List Char) :
    isAfterEnum ⟨s ++ y :: t, rest⟩ =
      match Text.dropStart? "enum".toList.reverse (s.dropWhile isBlank) with
      | none => false
      | some [] => !(isAlphanumeric y || y = '_')
      | some (x :: _) => !(isAlphanumeric x || x = '_') := by
  have hdrop : (s ++ y :: t).dropWhile isBlank = s.dropWhile isBlank ++ y :: t := by
    rw [List.dropWhile_append, List.dropWhile_cons_of_neg (by simp [hblank])]
    split_ifs with h
    · rw [List.isEmpty_iff.mp h, List.nil_append]
    · rfl
  rw [isAfterEnum, hdrop, Text.dropStart?_append_cons hy]
  rcases Text.dropStart? "enum".toList.reverse (s.dropWhile isBlank) with _ | ⟨_ | ⟨x, s⟩⟩ <;> rfl

/-- In a text behind `pre` the word `enum` stands in front of a type where it does without `pre`. -/
def KeepsEnum (pre text : List Char) : Prop :=
  ∀ c m, Cursor.between [] text ≤ c → typePattern.matchAt? c = some m →
    isAfterEnum ((Frame.behind pre).place c) = isAfterEnum c

theorem keepsEnum_brace (pre text : List Char) : KeepsEnum (pre ++ ['{']) text := by
  rintro ⟨before, rest⟩ m - -
  rw [Frame.place_behind, List.reverse_append, List.reverse_singleton, List.singleton_append,
    isAfterEnum_append_cons (by decide) (by decide), isAfterEnum]
  rcases Text.dropStart? "enum".toList.reverse (before.dropWhile isBlank) with _ | ⟨_ | ⟨x, s⟩⟩ <;> rfl

/-- In a text that begins with a keyword only the first type needs a look. -/
theorem keepsEnum_keyword {pre : List Char} (hpre : isAfterEnum (Cursor.between pre []) = false)
    (kw : TypeKeyword) (rest : List Char) : KeepsEnum pre (kw.text.toList ++ rest) := by
  rintro ⟨before, ahead⟩ m ⟨s, hs, hbefore⟩ -
  obtain ⟨y, front, hkw, hstart, hy, -⟩ := exists_keyword_cons kw
  have hmem : y ∉ "enum".toList.reverse := by
    cases kw <;> rw [← (List.cons.inj hkw).1] <;> decide
  have hblank : isBlank y = false := isBlank_of_isNameChar (isNameChar_of_isNameStart hstart)
  rw [Cursor.rest_between, hkw] at hs
  rw [Cursor.before_between, List.reverse_nil, List.append_nil] at hbefore
  rw [Frame.place_behind]
  dsimp only at hbefore ⊢
  rw [hbefore]
  cases s with
  | nil =>
    rw [List.reverse_nil, List.nil_append]
    exact hpre
  | cons z s =>
    obtain rfl := (List.cons.inj hs).1
    rw [List.reverse_cons, List.append_assoc, List.singleton_append,
      isAfterEnum_append_cons hmem hblank, isAfterEnum_append_cons hmem hblank]

/-! ### The walk behind a text -/

section Behind

variable {unit : SourceUnit} {pre text : List Char}

theorem suits_typePattern_behind (hpre : Cursor.headIsWord pre.reverse = false) :
    (Frame.behind pre).Suits typePattern := by
  refine (Frame.passesOthers_behind pre).suits_typePattern (Frame.suits_commentPattern_behind pre) ?_
  rintro ⟨before, rest⟩ -
  rw [Frame.place_behind]
  cases before with
  | nil => rw [Cursor.isWordBoundary, Cursor.isWordBoundary, List.nil_append, hpre]; rfl
  | cons x before => rfl

/-- **The types of a text behind another** are those of the text alone, further on. -/
theorem readsTypes_behind_iff (hpre : Cursor.headIsWord pre.reverse = false)
    (henum : KeepsEnum pre text) {xs : List TypeDecl} :
    ReadsTypes unit (Cursor.between pre text) xs ↔
      ∃ ys, ReadsTypes unit (Cursor.between [] text) ys ∧ ys.map (TypeDecl.behind pre) = xs := by
  have hplace : Cursor.between pre text = (Frame.behind pre).place (Cursor.between [] text) := by
    rw [Frame.place_behind]
    rfl
  have hblocks : ((typeScanner unit).moveTo (Cursor.between pre text)).blocks =
      (((typeScanner unit).moveTo (Cursor.between [] text)).blocks.map
        (List.map (Frame.behind pre).block)).mapError (UnclosedBlock.behind pre) := by
    rw [Scanner.blocks, hplace, Scanner.results_behind (suits_typePattern_behind hpre),
      Scanner.collect_resultBehind]
    rfl
  have htypes : ∀ bs, ((typeScanner unit).moveTo (Cursor.between [] text)).blocks = .ok bs →
      (bs.map (Frame.behind pre).block).filterMap (typeOfBlock? unit) =
        (bs.filterMap (typeOfBlock? unit)).map (TypeDecl.behind pre) := by
    intro bs hbs
    rw [List.filterMap_map, List.map_filterMap]
    refine List.filterMap_congr fun b hb => ?_
    obtain ⟨hreported, hle⟩ := Scanner.isReported_of_mem_moveTo hbs hb
    exact typeOfBlock?_block unit hreported (henum _ _ hle hreported.matchAt)
  rcases hbs : ((typeScanner unit).moveTo (Cursor.between [] text)).blocks with e | bs
  · simp only [ReadsTypes, Scanner.Reads, hblocks, hbs, Except.map, Except.mapError, reduceCtorEq,
      false_and, exists_false]
  · simp only [ReadsTypes, Scanner.Reads, hblocks, hbs, Except.map, Except.mapError, Except.ok.injEq,
      exists_eq_left', htypes bs hbs]

end Behind

/-- Behind a text that is put in, the types are the same, further on. -/
theorem exists_reads_behind {unit : SourceUnit} {u v w text : List Char} {xs : List TypeDecl}
    (hword : Cursor.headIsWord (u ++ v).reverse = false)
    (hword' : Cursor.headIsWord (u ++ (w ++ v)).reverse = false) (henum : KeepsEnum (u ++ v) text)
    (henum' : KeepsEnum (u ++ (w ++ v)) text)
    (h : ReadsTypes unit (Cursor.between (u ++ v) text) xs) :
    ∃ ys, ReadsTypes unit (Cursor.between (u ++ (w ++ v)) text) ys ∧
      List.Forall₂ (TypeDecl.Inserted w (Text.byteLength u)) xs ys := by
  obtain ⟨zs, hzs, rfl⟩ := (readsTypes_behind_iff hword henum).mp h
  refine ⟨_, (readsTypes_behind_iff hword' henum').mpr ⟨zs, hzs, rfl⟩, ?_⟩
  refine List.forall₂_map_left_iff.mpr (List.forall₂_map_right_iff.mpr ?_)
  refine List.forall₂_same.mpr fun t _ => ?_
  have hbehind : t.behind (u ++ (w ++ v)) = (t.behind (u ++ v)).behind w := by
    have hshift : ∀ n, n + Text.byteLength (u ++ (w ++ v)) =
        n + Text.byteLength (u ++ v) + Text.byteLength w := by
      intro n
      simp only [Text.byteLength_append]
      omega
    have hline : t.line + (u ++ (w ++ v)).count '\n' =
        t.line + (u ++ v).count '\n' + w.count '\n' := by
      simp only [List.count_append]
      omega
    simp only [TypeDecl.behind, Span.shift, hshift, hline]
  rw [hbehind]
  refine .behind ?_
  simp only [TypeDecl.behind, Span.shift, Text.byteLength_append]
  omega

end HeaderSurvey
