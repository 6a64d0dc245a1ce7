import HeaderSurvey.Proofs.Block.Reads
import HeaderSurvey.Proofs.Declaration.TypeName

/-!
# Files under another number

The number of a file stands in its types and in the error that ends its walk, and nothing that is
read depends on it: under another number a unit parses to the same declarations and to the same
error, with that number in them (`SourceUnit.parse_renumber`).
-/

namespace HeaderSurvey

/-- The error under another number of the file. -/
def UnclosedBlock.renumber (n : Nat) (e : UnclosedBlock) : UnclosedBlock :=
  { e with fileId := n }

/-- The type under another number of the file. -/
def TypeDecl.renumber (n : Nat) (t : TypeDecl) : TypeDecl :=
  { t with fileId := n }

/-- The unit under another number. -/
def SourceUnit.renumber (n : Nat) (unit : SourceUnit) : SourceUnit :=
  { unit with fileId := n }

/-- The walk with another number of the file. -/
def Scanner.renumber (n : Nat) (s : Scanner) : Scanner :=
  { s with fileId := n }

/-- The declarations with another number of the file. -/
def Declarations.renumber (n : Nat) (d : Declarations) : Declarations :=
  ⟨d.types.map (TypeDecl.renumber n), d.routines⟩

variable (n : Nat)

/-! ### The walk -/

namespace Scanner

theorem next_renumber (s : Scanner) :
    (s.renumber n).next =
      (s.next.1.map (Except.mapError (UnclosedBlock.renumber n)), s.next.2.renumber n) := by
  obtain ⟨pattern, resume, fileId, cursor⟩ := s
  cases cursor with
  | none => rfl
  | some c =>
    rw [next, next, renumber]
    simp only
    cases pattern.find? c with
    | none => rfl
    | some m =>
      simp only
      by_cases hempty : m.isEmpty = true
      · rw [if_pos hempty, if_pos hempty]
        rfl
      · rw [if_neg hempty, if_neg hempty]
        cases bracesAt m.stop <;> rfl

theorem resultsWithin_renumber (budget : List Char) (s : Scanner) :
    resultsWithin budget (s.renumber n) =
      (resultsWithin budget s).map (Except.mapError (UnclosedBlock.renumber n)) := by
  induction budget generalizing s with
  | nil => rfl
  | cons c budget ih =>
    rw [resultsWithin, resultsWithin, next_renumber]
    rcases s.next with ⟨_ | r, s'⟩
    · rfl
    · simp only [Option.map_some, List.map_cons]
      rw [ih s']

theorem blocks_renumber (s : Scanner) :
    (s.renumber n).blocks = s.blocks.mapError (UnclosedBlock.renumber n) := by
  have hresults : (s.renumber n).results =
      s.results.map (Except.mapError (UnclosedBlock.renumber n)) := by
    have hcursor : (s.renumber n).cursor = s.cursor := rfl
    rw [results, results, hcursor]
    cases s.cursor with
    | none => rfl
    | some c => exact resultsWithin_renumber n c.rest s
  rw [blocks, hresults, collect_mapError]
  rfl

end Scanner

/-! ### Declarations -/

theorem typeOfBlock?_renumber (unit : SourceUnit) (b : Block) :
    typeOfBlock? (unit.renumber n) b = (typeOfBlock? unit b).map (TypeDecl.renumber n) := by
  rw [typeOfBlock?, typeOfBlock?]
  cases b.body? with
  | none => rfl
  | some body =>
    cases b.bodySpan? with
    | none => rfl
    | some bodySpan =>
      simp only [Option.bind_eq_bind, Option.bind_some]
      split_ifs
      · rfl
      · cases b.keyword.captured? 1 with
        | none => rfl
        | some keyword =>
          cases b.keyword.captured? 2 with
          | none => rfl
          | some name => rfl

theorem extractTypes_renumber (unit : SourceUnit) :
    extractTypes (unit.renumber n) =
      match extractTypes unit with
      | .ok types => .ok (types.map (TypeDecl.renumber n))
      | .error e => .error (e.renumber n) := by
  have hscanner : typeScanner (unit.renumber n) = (typeScanner unit).renumber n := rfl
  rw [extractTypes, extractTypes, hscanner, Scanner.blocks_renumber]
  cases (typeScanner unit).blocks with
  | error e => rfl
  | ok blocks =>
    have hok : (Except.ok blocks : Except UnclosedBlock (List Block)).mapError
        (UnclosedBlock.renumber n) = .ok blocks := rfl
    rw [hok]
    simp only
    have hblocks : typeOfBlock? (unit.renumber n) =
        fun b => (typeOfBlock? unit b).map (TypeDecl.renumber n) :=
      funext (typeOfBlock?_renumber n unit)
    rw [hblocks, List.map_filterMap]

theorem extractRoutines_renumber (unit : SourceUnit) (index : ScopeIndex) :
    extractRoutines (unit.renumber n) index =
      (extractRoutines unit index).mapError (UnclosedBlock.renumber n) := by
  have hscanner : routineScanner (unit.renumber n) = (routineScanner unit).renumber n := rfl
  rw [extractRoutines, extractRoutines, hscanner, Scanner.blocks_renumber]
  cases (routineScanner unit).blocks <;> rfl

/-- What a unit parses to under another number. -/
theorem SourceUnit.parse_renumber (unit : SourceUnit) (mode : ParseMode) :
    (unit.renumber n).parse mode =
      match unit.parse mode with
      | .ok d => .ok (d.renumber n)
      | .error e => .error (e.renumber n) := by
  rw [parse, parse, extractTypes_renumber]
  cases extractTypes unit with
  | error e => rfl
  | ok types =>
    have hindex : ScopeIndex.ofTypes (types.map (TypeDecl.renumber n)) =
        ScopeIndex.ofTypes types := by
      rw [ScopeIndex.ofTypes, ScopeIndex.ofTypes, List.map_map]
      rfl
    have hkept : keepLast (types.map (TypeDecl.renumber n)) =
        (keepLast types).map (TypeDecl.renumber n) :=
      keepLast_map (f := TypeDecl.renumber n) (fun _ => rfl) types
    simp only [hkept, hindex, extractRoutines_renumber]
    cases mode with
    | types => rfl
    | typesAndRoutines =>
      cases extractRoutines unit (ScopeIndex.ofTypes types) <;> rfl

end HeaderSurvey
