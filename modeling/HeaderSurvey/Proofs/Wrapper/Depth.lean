import HeaderSurvey.Proofs.Wrapper.Walk

/-!
# The walk ends by itself

The walk has a depth, and a directory at the end of it ends the run.  Where the headers are left alone
by their wrappers, no walk comes so far: the locations do not get deeper than the wrappers lead
(`Untouched.within`), and the entries stand for nodes.  So a walk that may go deeper does the same
(`walk_add`); in particular over a tree that is apart from the destination
(`generateTree_eq_of_apart`).
-/

namespace HeaderSurvey.Wrapper

variable {settings : WrapperSettings} {src dest : String} {w : World} {report : Report}
  {root : Location} {before : Disk} {e : Entry} {entries : List Entry}

/-- What is done at an entry depends on what is done below it, for the entries that it has now. -/
theorem visit_congr {below below' : Report → List Entry → Run Report}
    (h : ∀ report, e.isDir = true → (below report (e.children w.disk)).result w =
      (below' report (e.children w.disk)).result w) :
    (visit settings dest below report e).result w =
      (visit settings dest below' report e).result w := by
  rw [visit, visit]
  by_cases hdir : e.isDir = true
  · rw [if_pos hdir, if_pos hdir, Run.result_bind, Run.result_bind]
    exact h { report with visited := report.visited + 1 } hdir
  · rw [if_neg hdir, if_neg hdir]

/-- A walk that may go deeper does the same, if the walk may already go deeper than the wrappers of
the headers lead. -/
theorem walk_add (hbefore : before.WellFormed) (hsrc : before.locate src.toList = .ok root)
    (depth k : ℕ) (hw : Untouched settings src dest root before w.disk)
    (hentries : ∀ e ∈ entries, e.IsAt src root w.disk)
    (hdepth : ∀ e ∈ entries, reach before dest < e.names.length + depth)
    (hspares : ∀ h ∈ entries.flatMap fun e => headersAt settings src before root depth e.names,
      h.Spares settings src dest root before) :
    (walk settings dest (depth + k) report entries).result w =
      (walk settings dest depth report entries).result w := by
  induction depth generalizing report entries w with
  | zero =>
    obtain rfl := hw.entries_eq_nil hentries hdepth
    rw [walk_nil, walk_nil]
  | succ depth ih =>
    rw [Nat.add_right_comm]
    induction entries generalizing report w with
    | nil => rw [walk_nil, walk_nil]
    | cons e entries ihEntries =>
      obtain ⟨he, hrest⟩ := List.forall_mem_cons.mp hentries
      obtain ⟨hdeep, hdepth'⟩ := List.forall_mem_cons.mp hdepth
      rw [List.flatMap_cons] at hspares
      obtain ⟨hfirst, hlater⟩ := List.forall_mem_append.mp hspares
      have hvisit : (visit settings dest (walk settings dest (depth + k)) report e).result w =
          (visit settings dest (walk settings dest depth) report e).result w := by
        refine visit_congr fun report hdir => ?_
        obtain ⟨hchildren, hdeep'⟩ := hw.children hsrc he hdir hdeep
        refine ih hw hchildren hdeep' ?_
        rwa [flatMap_children hbefore hsrc hw he hdir]
      rw [walk_cons, walk_cons, Run.result_bind, Run.result_bind, hvisit]
      rcases hresult : (visit settings dest (walk settings dest depth) report e).result w with
        ⟨fault | report', w'⟩
      · rfl
      · obtain ⟨hw', hstill⟩ := hw.of_visit hbefore hsrc he hdeep hfirst hresult
        exact ihEntries hw' (fun e he => hstill e (hrest e he)) hdepth' hlater

/-- **The depth of a run is no bound to it** if the destination is apart from the source directory:
the walk does the same with any greater one. -/
theorem generateTree_eq_of_apart {d : Disk} (hd : d.WellFormed)
    (hsrc : d.locate src.toList = .ok root) (hroot : d.node? root = some .dir)
    (hapart : Apart root (d.aim dest.toList)) (events : List Event) (k : ℕ) :
    (generateTree settings src dest).result ⟨d, events⟩ =
      (walk settings dest (depthBound d dest + k) ⟨[], [], 0⟩ [⟨src, [], true⟩]).result
        ⟨d, events⟩ := by
  have hspares : ∀ h ∈ headersAt settings src d root (depthBound d dest) [],
      h.Spares settings src dest root d := fun h hh =>
    (isIn_headersAt hd hroot h hh).spares hd hapart
  have hwalk := @walk_add settings src dest ⟨d, events⟩ ⟨[], [], 0⟩ root d [⟨src, [], true⟩] hd hsrc
    (depthBound d dest) k (Untouched.refl hd root) (by simpa using Entry.isAt_root hroot)
    (by simpa using reach_lt_depthBound d dest) (by rwa [List.flatMap_singleton])
  have hlookup := Disk.lookup_eq_ok_iff.mpr ⟨root, hsrc, hroot⟩
  rw [hwalk, result_generateTree, hlookup]
  rfl

end HeaderSurvey.Wrapper
