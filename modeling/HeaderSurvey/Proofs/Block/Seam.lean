import HeaderSurvey.Proofs.Block.Nested
import HeaderSurvey.Proofs.Block.Reads
import HeaderSurvey.Proofs.Block.Unclosed
import HeaderSurvey.Proofs.Pattern.Seam
import Mathlib.Data.List.Basic

/-!
# Walking across a seam

A text that is `SelfContained` and has a walk without an error is put in front of another one.  For
a pattern that is `IsLocal` the walk over the whole reports the blocks of the first text and then
those of the second, and it ends in the error of the second if that has one
(`Scanner.blocks_append`).

The braces of a block in a frame are the braces of the block (`Frame.bracesAt_place`).  In front of
more text this needs that they close, and so no more is said there of a walk that ends in an error.
-/

namespace HeaderSurvey

/-- The error behind the text `pre`. -/
def UnclosedBlock.behind (pre : List Char) (e : UnclosedBlock) : UnclosedBlock :=
  { e with keyword := e.keyword.shift (Text.byteLength pre) }

/-! ### Blocks in a frame -/

namespace Frame

variable (F : Frame)

/-- The braces in the framed text. -/
def braces (b : Braces) : Braces :=
  ⟨F.place b.opening, F.place b.inside, F.place b.closing, F.place b.outside⟩

/-- The block in the framed text. -/
def block (b : Block) : Block :=
  ⟨F.matched b.keyword, b.braces.map F.braces⟩

theorem place_between (pre post : List Char) :
    F.place (Cursor.between pre post) = Cursor.between (F.pre ++ pre) (post ++ F.post) := by
  rw [place, Cursor.between, Cursor.between, List.reverse_append]

theorem braces_around (pre body post : List Char) :
    F.braces (Braces.around pre body post) =
      Braces.around (F.pre ++ pre) body (post ++ F.post) := by
  simp [braces, Braces.around, place_between]

theorem stop_block (b : Block) : (F.block b).stop = F.place b.stop := by
  rcases b with ⟨keyword, _ | braces⟩ <;> rfl

theorem resumeAfter_block (s : Scanner) (b : Block) :
    s.resumeAfter (F.block b) = F.place (s.resumeAfter b) := by
  rw [Scanner.resumeAfter, Scanner.resumeAfter, stop_block]
  cases s.resume <;> rfl

variable {F}

theorem body?_block (b : Block) : (F.block b).body? = b.body? := by
  rcases b with ⟨keyword, _ | braces⟩
  · rfl
  · exact congrArg some (F.upTo_place braces.inside braces.closing)

theorem span_block (b : Block) :
    (F.block b).span = b.span.shift (Text.byteLength F.pre) := by
  rw [Block.span, stop_block, Block.span]
  exact span_place b.keyword.start b.stop

/-- The body lies as much further on as the text that the frame puts in front. -/
theorem bodySpan?_block {p : Pattern} {b : Block} (hb : b.IsReported p) :
    (F.block b).bodySpan? = b.bodySpan?.map (Span.shift (Text.byteLength F.pre)) := by
  rcases hbraces : b.braces with _ | braces
  · simp [Block.bodySpan?, Block.body?, block, hbraces]
  · have hopen := hb.braces_eq
    rw [hbraces] at hopen
    obtain ⟨pre, body, post, -, rfl, -⟩ := bracesAt_eq_some hopen
    have hframe : (F.block b).braces =
        some (Braces.around (F.pre ++ pre) body (post ++ F.post)) := by
      rw [block, hbraces, Option.map_some, braces_around]
    rw [Block.bodySpan?_of_around hframe, Block.bodySpan?_of_around hbraces, Option.map_some]
    simp only [Text.byteLength_append, Span.shift, Option.some.injEq, Span.mk.injEq]
    omega

variable {c : Cursor}

/-- **The braces behind a place inside are the same in the frame.** -/
theorem bracesAt_place (hblank : ∀ x, isAsciiBlank x = true → F.Passes x) (hc : F.Inside c)
    {b : Option Braces} (h : bracesAt c = .ok b) :
    bracesAt (F.place c) = .ok (b.map F.braces) := by
  have hskip := skipWhile_place hblank hc
  cases b with
  | none =>
    rw [bracesAt_eq_none_iff] at h
    refine bracesAt_of_ne fun rest hrest => ?_
    have hfar : F.Inside (c.skipWhile isAsciiBlank) :=
      inside_of_le hc (Cursor.le_skipWhile isAsciiBlank c) fun x hx =>
        hblank x (Cursor.of_mem_upTo_skipWhile hx)
    rw [hskip] at hrest
    rcases hs : c.skipWhile isAsciiBlank with ⟨before, _ | ⟨x, ahead⟩⟩
    · rw [hs] at hfar hrest
      rw [rest_place, F.ends hfar] at hrest
      exact absurd hrest (by simp)
    · rw [hs, rest_place, List.cons_append] at hrest
      obtain ⟨rfl, -⟩ := List.cons.inj hrest
      exact h ahead (by rw [hs])
  | some b =>
    obtain ⟨pre, body, post, hbody, rfl, hopen⟩ := bracesAt_eq_some h
    rw [Option.map_some, braces_around]
    refine bracesAt_of_balanced ?_ hbody
    rw [hskip, hopen, place_between]
    simp

/-- A brace that is never closed is not closed behind more text in front of it either. -/
theorem bracesAt_behind (pre : List Char) {n : Nat} (h : bracesAt c = .error n) :
    bracesAt ((Frame.behind pre).place c) = .error n := by
  obtain ⟨rest, hopen, hnot, hn⟩ := bracesAt_eq_error_iff.mp h
  refine bracesAt_eq_error_iff.mpr ⟨rest, ?_, hnot, hn⟩
  rw [skipWhile_place (fun _ _ => trivial) trivial, place_behind]
  exact hopen

end Frame

/-! ### The walk from a place -/

namespace Scanner

variable {s : Scanner} {c : Cursor}

/-- The result behind the text `pre`. -/
def resultBehind (pre : List Char) (r : Except UnclosedBlock Block) :
    Except UnclosedBlock Block :=
  (r.map (Frame.behind pre).block).mapError (UnclosedBlock.behind pre)

/-- **Behind a text a walk has the results that it has without it.** -/
theorem results_behind {pre : List Char} (hp : (Frame.behind pre).Suits s.pattern) (c : Cursor) :
    (s.moveTo ((Frame.behind pre).place c)).results =
      (s.moveTo c).results.map (resultBehind pre) := by
  induction hn : c.rest.length using Nat.strongRecOn generalizing c with
  | _ n ih =>
    subst hn
    have hframe := Pattern.find?_behind hp c
    rcases hm : s.pattern.find? c with _ | m
    · rw [hm] at hframe
      rw [results_moveTo, results_moveTo, hframe, hm]
      rfl
    rw [hm] at hframe
    have hempty' : ((Frame.behind pre).matched m).isEmpty = m.isEmpty := Frame.isEmpty_matched m
    rcases hempty : m.isEmpty with _ | _
    · have hl := Pattern.find?_eq_some_iff.mp hm
      have hlt := (Match.isEmpty_eq_false_iff hl.start_le_stop).mp hempty
      rcases hb : bracesAt m.stop with n | b
      · have hspan : ((Frame.behind pre).matched m).span = m.span.shift (Text.byteLength pre) :=
          Frame.span_place m.start m.stop
        rw [results_moveTo_error hm hempty hb, results_moveTo_error hframe (hempty'.trans hempty)
          (Frame.bracesAt_behind pre hb), hspan]
        rfl
      · -- the walk goes on behind the same block, with less text ahead
        have hless := length_rest_resumeAfter_lt (s := s) (b := ⟨m, b⟩) hl hlt hb
        have hmore := ih _ hless (s.resumeAfter ⟨m, b⟩) rfl
        rw [← Frame.resumeAfter_block] at hmore
        rw [results_moveTo_ok hm hempty hb, results_moveTo_ok hframe (hempty'.trans hempty)
          (Frame.bracesAt_place (fun _ _ => trivial) trivial hb), List.map_cons, ← hmore]
        rfl
    · rw [results_moveTo_empty hm hempty, results_moveTo_empty hframe (hempty'.trans hempty)]
      rfl

/-- A walk goes on inside, if it comes from there. -/
theorem selfContained_resumeAfter (s : Scanner) {b : Block}
    (hstop : SelfContained b.keyword.stop.rest)
    (hb : bracesAt b.keyword.stop = .ok b.braces) : SelfContained (s.resumeAfter b).rest := by
  have hblock : SelfContained b.stop.rest := by
    rcases hbraces : b.braces with _ | braces
    · rwa [Block.stop, hbraces]
    · rw [hbraces] at hb
      obtain ⟨pre, body, post, -, rfl, hopen⟩ := bracesAt_eq_some hb
      have hrest := Cursor.rest_eq_upTo (Cursor.le_skipWhile isAsciiBlank b.keyword.stop)
      rw [hopen, Cursor.rest_between] at hrest
      rw [hrest, ← List.singleton_append, ← List.append_assoc, ← List.append_assoc] at hstop
      rw [Block.stop_of_around hbraces]
      exact hstop.of_append_cons (by decide) (by decide)
  rw [resumeAfter]
  split
  · exact hstop
  · exact hblock

/-- **In front of a text a walk without an error has the results that it has without it**, and then
those that the text has on its own. -/
theorem results_inFront (hp : s.pattern.IsLocal) (post : List Char) {bs : List Block}
    (hc : SelfContained c.rest) (h : (s.moveTo c).results = bs.map .ok) :
    (s.moveTo ((Frame.inFront post).place c)).results =
      bs.map (fun b => .ok ((Frame.inFront post).block b)) ++
        (s.moveTo (Cursor.between c.text post)).results := by
  induction hn : c.rest.length using Nat.strongRecOn generalizing c bs with
  | _ n ih =>
    subst hn
    rcases Pattern.find?_inFront hp post hc with ⟨m, hm, hframe⟩ | ⟨hm, hframe⟩
    · have hl := Pattern.find?_eq_some_iff.mp hm
      have hlt := Pattern.start_lt_stop_of_advances hp.advances hl.matchAt
      have hempty := (Match.isEmpty_eq_false_iff hl.start_le_stop).mpr hlt
      have hinside : SelfContained m.stop.rest := hp.selfContained_stop hc hl.le_start hl.matchAt
      have hempty' : ((Frame.inFront post).matched m).isEmpty = false := by
        rw [Frame.isEmpty_matched]
        exact hempty
      rcases hb : bracesAt m.stop with k | b
      · -- an error is no block
        rw [results_moveTo_error hm hempty hb] at h
        rcases bs with _ | ⟨b, bs⟩ <;> simp at h
      · rw [results_moveTo_ok hm hempty hb] at h
        rcases bs with _ | ⟨b', bs⟩
        · simp at h
        rw [List.map_cons] at h
        obtain ⟨hfirst, hrest⟩ := List.cons.inj h
        obtain rfl := Except.ok.inj hfirst
        have hless := length_rest_resumeAfter_lt (s := s) (b := ⟨m, b⟩) hl hlt hb
        have hgo := s.selfContained_resumeAfter (b := ⟨m, b⟩) hinside hb
        have hmore := ih _ hless hgo hrest rfl
        have htext : (s.resumeAfter ⟨m, b⟩).text = c.text :=
          (Cursor.text_eq_of_le (hl.le_start.trans
            (hlt.le.trans (@keyword_stop_le_resumeAfter s ⟨m, b⟩ hb)))).symm
        have hblank : ∀ x, isAsciiBlank x = true → (Frame.inFront post).Passes x := by
          rintro x hx rfl
          exact absurd hx (by decide)
        -- what is still to come is the same as behind this block
        rw [← Frame.resumeAfter_block, htext] at hmore
        rw [results_moveTo_ok hframe hempty' (Frame.bracesAt_place hblank hinside hb),
          List.map_cons, List.cons_append, ← hmore]
        rfl
    · rw [results_moveTo, hm] at h
      obtain rfl : bs = [] := by
        rcases bs with _ | ⟨b, bs⟩
        · rfl
        · simp at h
      rw [results_moveTo_eq hframe]
      rfl

/-! ### The walk over a whole text -/

theorem collect_resultBehind (pre : List Char) (rs : List (Except UnclosedBlock Block)) :
    collect (rs.map (resultBehind pre)) =
      ((collect rs).map (List.map (Frame.behind pre).block)).mapError
        (UnclosedBlock.behind pre) := by
  have hmap : rs.map (resultBehind pre) =
      (rs.map (Except.map (Frame.behind pre).block)).map
        (Except.mapError (UnclosedBlock.behind pre)) := by
    rw [List.map_map]
    rfl
  rw [hmap, collect_mapError, collect_map]

/-- **The blocks of two texts, one behind the other.** -/
theorem blocks_append {p : Pattern} (hp : p.IsLocal) {resume : Resume} {fileId : Nat}
    {text : List Char} (htext : SelfContained text) (next : List Char) {bs : List Block}
    (h : (ofText p resume fileId text).blocks = .ok bs) :
    (ofText p resume fileId (text ++ next)).blocks =
      match (ofText p resume fileId next).blocks with
      | .ok bs' => .ok (bs.map (Frame.inFront next).block ++ bs'.map (Frame.behind text).block)
      | .error e => .error (e.behind text) := by
  have hfront : ofText p resume fileId (text ++ next) =
      (ofText p resume fileId []).moveTo ((Frame.inFront next).place (Cursor.atStart text)) := rfl
  have hseam : Cursor.between (Cursor.atStart text).text next =
      (Frame.behind text).place (Cursor.atStart next) := by
    rw [Frame.place_behind]
    rfl
  have hresults : (ofText p resume fileId (text ++ next)).results =
      (bs.map (Frame.inFront next).block).map .ok ++
        (ofText p resume fileId next).results.map (resultBehind text) := by
    rw [hfront, @results_inFront (ofText p resume fileId []) (Cursor.atStart text) hp next bs htext
      (results_of_blocks_eq_ok h), hseam,
      results_behind (hp.behind htext), List.map_map]
    rfl
  rw [blocks, hresults, collect_map_ok_append, collect_resultBehind, blocks]
  cases collect (ofText p resume fileId next).results <;> rfl

/-- What is known of every block of a text. -/
theorem isReported_of_mem_blocks {p : Pattern} {resume : Resume} {fileId : Nat}
    {text : List Char} {bs : List Block} (h : (ofText p resume fileId text).blocks = .ok bs)
    {b : Block} (hb : b ∈ bs) : b.IsReported p ∧ Cursor.atStart text ≤ b.keyword.start := by
  have hmem : .ok b ∈ (ofText p resume fileId text).results := by
    rw [results_of_blocks_eq_ok h]
    exact List.mem_map_of_mem hb
  obtain ⟨hreported, c, hc, hle⟩ := isReported_of_mem_results hmem
  obtain rfl := Option.some.inj hc
  exact ⟨hreported, hle⟩

/-- The keywords of a self-contained text end in front of its last semicolon. -/
theorem selfContained_of_mem_blocks {p : Pattern} (hp : p.IsLocal) {resume : Resume} {fileId : Nat}
    {text : List Char} (htext : SelfContained text) {bs : List Block}
    (h : (ofText p resume fileId text).blocks = .ok bs) {b : Block} (hb : b ∈ bs) :
    SelfContained b.keyword.stop.rest := by
  obtain ⟨hreported, hle⟩ := isReported_of_mem_blocks h hb
  exact hp.selfContained_stop (c := Cursor.atStart text) htext hle hreported.matchAt

/-- **What is made of the blocks of two texts, one behind the other**: of the first what is made of
its own blocks, and of the second this, further on. -/
theorem map_blocks_append {α : Type} {p : Pattern} (hp : p.IsLocal) {resume : Resume}
    {fileId : Nat} {text : List Char} (htext : SelfContained text) (next : List Char)
    {bs : List Block} (h : (ofText p resume fileId text).blocks = .ok bs)
    {f f₁ f₂ : Block → Option α} {g : α → α}
    (hfirst : ∀ b ∈ bs, f ((Frame.inFront next).block b) = f₁ b)
    (hsecond : ∀ b, b.IsReported p → f ((Frame.behind text).block b) = (f₂ b).map g) :
    (ofText p resume fileId (text ++ next)).blocks.map (List.filterMap f) =
      ((ofText p resume fileId next).blocks.map fun bs' =>
        bs.filterMap f₁ ++ (bs'.filterMap f₂).map g).mapError (UnclosedBlock.behind text) := by
  rw [blocks_append hp htext next h]
  rcases hbs' : (ofText p resume fileId next).blocks with e | bs'
  · rfl
  have hfront : (bs.map (Frame.inFront next).block).filterMap f = bs.filterMap f₁ := by
    rw [List.filterMap_map]
    exact List.filterMap_congr hfirst
  have hbehind : (bs'.map (Frame.behind text).block).filterMap f = (bs'.filterMap f₂).map g := by
    rw [List.filterMap_map, List.map_filterMap]
    exact List.filterMap_congr fun b hb => hsecond b (isReported_of_mem_blocks hbs' hb).1
  simp only [Except.map, Except.mapError, List.filterMap_append, hfront, hbehind]

end Scanner
end HeaderSurvey
