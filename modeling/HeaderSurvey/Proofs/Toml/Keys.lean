import HeaderSurvey.Proofs.Toml.Strings

/-!
# How keys are written

A key is one or more names with dots between them and spaces around each, and a name stands as it is
or between quotes (`IsKey`).  Up to the depth limit, what is written so is read as a key with just
these names (`IsKey.reads`); a longer key is refused, so that a key that is read has in any case the
names that are written (`IsKey.gives_bind`).
-/

namespace HeaderSurvey.Toml

open Reader

variable {post : List Char}

/-! ### Names -/

/-- A name: as it is, or between quotes of either kind. -/
inductive IsName : List Char → List Char → Prop
  | bare {n : List Char} : n ≠ [] → (∀ c ∈ n, isKeyChar c = true) → IsName n n
  | basic {v n : List Char} : IsBasicText v n → IsName ('"' :: (v ++ ['"'])) n
  | literal {n : List Char} : (∀ c ∈ n, isStringChar c = true ∧ c ≠ '\'') →
      IsName ('\'' :: (n ++ ['\''])) n

theorem isKeyChar_of_blank {x : Char} (h : isSpace x = true ∨ isQuote x = true ∨ x = '\ufeff' ∨
    x = '[' ∨ x = '#' ∨ isLineBreak x = true) : isKeyChar x = false := by
  simp only [isSpace, isQuote, isLineBreak, Bool.or_eq_true, decide_eq_true_eq] at h
  rcases h with (rfl | rfl) | (rfl | rfl) | rfl | rfl | rfl | rfl | rfl
  all_goals decide

/-- The first character of a name tells it from anything else that a line can begin with. -/
theorem IsName.exists_cons {w n : List Char} (h : IsName w n) :
    ∃ x rest, w = x :: rest ∧ (isKeyChar x = true ∨ x = '"' ∨ x = '\'') := by
  cases h with
  | bare hne hchars =>
    obtain ⟨x, rest, rfl⟩ := List.exists_cons_of_ne_nil hne
    exact ⟨x, rest, rfl, Or.inl (hchars x (List.mem_cons_self ..))⟩
  | basic _ => exact ⟨_, _, rfl, Or.inr (Or.inl rfl)⟩
  | literal _ => exact ⟨_, _, rfl, Or.inr (Or.inr rfl)⟩

/-- No space is the first character of a name. -/
theorem stops_of_key {x : Char} {s : List Char} (h : isKeyChar x = true ∨ x = '"' ∨ x = '\'') :
    Stops isSpace (x :: s) := by
  refine stops_cons ?_
  by_contra hspace
  rw [Bool.not_eq_false] at hspace
  rcases h with h | rfl | rfl
  · rw [isKeyChar_of_blank (Or.inl hspace)] at h
    exact Bool.false_ne_true h
  · exact absurd hspace (by decide)
  · exact absurd hspace (by decide)

theorem IsName.stops_isSpace {w n s : List Char} (h : IsName w n) : Stops isSpace (w ++ s) := by
  obtain ⟨x, rest, rfl, hx⟩ := h.exists_cons
  exact stops_of_key hx

/-- A name is read as itself where it cannot go on. -/
theorem IsName.reads {w n : List Char} (h : IsName w n) (hpost : Stops isKeyChar post) :
    Reads simpleKey w post (·.name = String.ofList n) := by
  refine Reads.bind_pure (Reads.located (Q := (· = n)) (Reads.peek_bind ?_)) ?_
  · cases h with
    | bare hne hchars =>
      obtain ⟨x, rest, rfl⟩ := List.exists_cons_of_ne_nil hne
      have hx := hchars x (List.mem_cons_self ..)
      have htaken : Reads (do
          let name ← takeWhile isKeyChar
          if name.isEmpty then failure else return name : Reader (List Char)) (x :: rest) post
          (· = x :: rest) := by
        refine (reads_takeWhile hchars hpost).bind_last ?_
        rintro _ rfl
        exact reads_pure rfl
      rw [List.cons_append, List.head?_cons]
      split <;> rename_i heq
      · rw [Option.some.inj heq] at hx
        exact absurd hx (by decide)
      · rw [Option.some.inj heq] at hx
        exact absurd hx (by decide)
      · exact htaken
    | basic hv => exact hv.reads
    | literal hn => exact reads_literalString hn
  · rintro ⟨start, _, stop⟩ rfl
    rfl

/-! ### Keys with dots -/

/-- One or more names, with dots between them and spaces around each. -/
inductive IsKey : List Char → List (List Char) → Prop
  | last {g w g' n : List Char} : IsGap g → IsName w n → IsGap g' → IsKey (g ++ (w ++ g')) [n]
  | dot {g w g' v n : List Char} {ns : List (List Char)} : IsGap g → IsName w n → IsGap g' →
      IsKey v ns → IsKey (g ++ (w ++ (g' ++ '.' :: v))) (n :: ns)

/-- The names of a key. -/
def DottedKey.names (k : DottedKey) : List String :=
  k.path.map (·.name) ++ [k.last.name]

/-- A key begins with spaces and the first character of a name. -/
theorem IsKey.exists_cons {k : List Char} {ns : List (List Char)} (h : IsKey k ns) :
    ∃ g x rest, k = g ++ x :: rest ∧ IsGap g ∧ IsKey (x :: rest) ns ∧
      (isKeyChar x = true ∨ x = '"' ∨ x = '\'') := by
  cases h with
  | @last g w g' n hg hw hg' =>
    have hkey := IsKey.last isGap_nil hw hg'
    obtain ⟨x, rest, rfl, hx⟩ := hw.exists_cons
    exact ⟨g, x, rest ++ g', rfl, hg, hkey, hx⟩
  | @dot g w g' v n ns hg hw hg' hv =>
    have hkey := IsKey.dot isGap_nil hw hg' hv
    obtain ⟨x, rest, rfl, hx⟩ := hw.exists_cons
    exact ⟨g, x, rest ++ (g' ++ '.' :: v), rfl, hg, hkey, hx⟩

/-- A character with which no key begins. -/
theorem IsKey.head?_ne {k s : List Char} {ns : List (List Char)} {y : Char} (h : IsKey k ns)
    (hy : y = '[' ∨ y = '\ufeff') : (k ++ s).head? ≠ some y := by
  obtain ⟨g, x, rest, rfl, hg, -, hx⟩ := h.exists_cons
  have hspace : isSpace y = false := by rcases hy with rfl | rfl <;> decide
  have hkey : isKeyChar y = false := by rcases hy with rfl | rfl <;> decide
  have hquote : y ≠ '"' ∧ y ≠ '\'' := by rcases hy with rfl | rfl <;> decide
  intro hhead
  cases g with
  | nil =>
    obtain rfl : x = y := Option.some.inj hhead
    rw [hkey] at hx
    rcases hx with hx | hx | hx
    · exact Bool.false_ne_true hx
    · exact hquote.1 hx
    · exact hquote.2 hx
  | cons z g =>
    obtain rfl : z = y := Option.some.inj hhead
    rw [hg z (List.mem_cons_self ..)] at hspace
    exact Bool.false_ne_true hspace.symm

/-- A character with which a key can go on. -/
def isKeyPart (c : Char) : Bool :=
  isSpace c || isKeyChar c || c = '.'

/-- The keys that the rounds of a key give have its names. -/
def HaveNames (ns : List (List Char)) (keys : List Key) : Prop :=
  keys.map (·.name) = ns.map String.ofList

theorem IsGap.stops_isKeyChar {g s : List Char} (hg : IsGap g) (hs : Stops isKeyChar s) :
    Stops isKeyChar (g ++ s) :=
  hg.stops_of (by decide) (by decide) hs

/-- A name is read in a round with the spaces around it, and the dot if one follows. -/
theorem IsName.reads_keyRound {g w g' n : List Char} (hg : IsGap g) (hw : IsName w n)
    (hg' : IsGap g') (hpost : Stops isKeyPart post) :
    Reads keyRound (g ++ (w ++ g')) post fun t => t.2 = false ∧ HaveNames [n] t.1 := by
  obtain ⟨hparts, hdot⟩ := Stops.of_or hpost
  obtain ⟨hspace, hchar⟩ := Stops.of_or hparts
  refine Reads.bind (hg.reads (by rw [List.append_assoc]; exact hw.stops_isSpace)) fun _ _ => ?_
  refine Reads.bind (hw.reads (hg'.stops_isKeyChar hchar)) fun key hkey => ?_
  rw [← List.append_nil g']
  refine Reads.bind (hg'.reads hspace) fun _ _ => Reads.peek_bind ?_
  have hne : ([] ++ post).head? ≠ some '.' := by
    intro hhead
    obtain ⟨rest, hrest⟩ := List.head?_eq_some_iff.mp hhead
    exact absurd (hdot '.' rest hrest) (by decide)
  rw [if_neg hne]
  exact reads_pure ⟨rfl, congrArg (fun s => [s]) hkey⟩

theorem IsName.reads_keyRound_dot {g w g' n : List Char} (hg : IsGap g) (hw : IsName w n)
    (hg' : IsGap g') :
    Reads keyRound (g ++ (w ++ (g' ++ ['.']))) post fun t => t.2 = true ∧ HaveNames [n] t.1 := by
  refine Reads.bind (hg.reads (by rw [List.append_assoc]; exact hw.stops_isSpace)) fun _ _ => ?_
  have hchar : Stops isKeyChar (g' ++ ['.'] ++ post) := by
    rw [List.append_assoc]
    exact hg'.stops_isKeyChar (stops_cons (by decide))
  refine Reads.bind (hw.reads hchar) fun key hkey => ?_
  refine Reads.bind (hg'.reads (stops_cons (by decide))) fun _ _ => Reads.peek_bind ?_
  rw [show (['.'] ++ post).head? = some '.' from rfl, if_pos rfl]
  exact reads_text.bind_pure fun _ _ => ⟨rfl, congrArg (fun s => [s]) hkey⟩

theorem IsKey.readsRounds {w : List Char} {ns : List (List Char)} (h : IsKey w ns)
    (hpost : Stops isKeyPart post) : ReadsRounds keyRound w post (HaveNames ns) := by
  induction h with
  | last hg hw hg' => exact ReadsRounds.last (hw.reads_keyRound hg hg' hpost)
  | @dot g w g' v n ns hg hw hg' _ ih =>
    have htext : g ++ (w ++ (g' ++ '.' :: v)) = g ++ (w ++ (g' ++ ['.'])) ++ v := by simp
    rw [htext]
    refine ReadsRounds.more (A := HaveNames [n]) (hw.reads_keyRound_dot hg hg') (by simp) ih ?_
    intro xs ys hxs hys
    rw [HaveNames, List.map_append, hxs, hys]
    rfl

theorem names_dropLast {keys : List Key} {last : Key} (h : keys.getLast? = some last) :
    (DottedKey.mk keys.dropLast last).names = keys.map (·.name) := by
  obtain ⟨init, rfl⟩ := List.getLast?_eq_some_iff.mp h
  rw [DottedKey.names, List.dropLast_concat, List.map_append]
  rfl

theorem HaveNames.length_eq {ns : List (List Char)} {keys : List Key} (h : HaveNames ns keys) :
    keys.length = ns.length := by
  have hlength := congrArg List.length h
  rwa [List.length_map, List.length_map] at hlength

/-- **A key is read as its names.** -/
theorem IsKey.reads {w : List Char} {ns : List (List Char)} (h : IsKey w ns)
    (hlength : ns.length ≤ depthLimit) (hpost : Stops isKeyPart post) :
    Reads dottedKey w post (·.names = ns.map String.ofList) := by
  have hne : ns ≠ [] := by cases h <;> exact List.cons_ne_nil _ _
  rw [← List.append_nil w]
  refine Reads.bind (Reads.collect (h.readsRounds hpost)) fun keys hkeys => ?_
  have hcount := hkeys.length_eq
  cases hlast : keys.getLast? with
  | none =>
    rw [List.getLast?_eq_none_iff.mp hlast] at hcount
    exact absurd (List.length_eq_zero_iff.mp hcount.symm) hne
  | some last =>
    simp only [ofKeys, hlast]
    rw [if_neg (by omega)]
    exact reads_pure ((names_dropLast hlast).trans hkeys)

/-- **If a key is read, it has the names that are written.** -/
theorem IsKey.gives_bind {α : Type} {f : DottedKey → Reader α} {Q : α → Prop} {w s : List Char}
    {ns : List (List Char)} (h : IsKey w ns) (hs : Stops isKeyPart s)
    (hf : ∀ k : DottedKey, k.names = ns.map String.ofList → Gives (f k) s Q) :
    Gives (dottedKey >>= f) (w ++ s) Q := by
  rw [dottedKey, bind_assoc]
  refine Reads.gives_bind (Reads.collect (h.readsRounds hs)) fun keys hkeys => ?_
  cases hlast : keys.getLast? with
  | none =>
    rw [ofKeys, hlast]
    exact fun _ _ _ hrun => nomatch hrun
  | some last =>
    simp only [ofKeys, hlast]
    by_cases hlong : depthLimit < keys.length
    · rw [if_pos hlong]
      exact fun _ _ _ hrun => nomatch hrun
    · rw [if_neg hlong, pure_bind]
      exact hf _ ((names_dropLast hlast).trans hkeys)

end HeaderSurvey.Toml
