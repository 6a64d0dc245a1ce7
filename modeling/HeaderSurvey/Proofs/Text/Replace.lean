import HeaderSurvey.Proofs.Text.Words
import Mathlib.Data.List.Basic

/-!
# Replacing placeholders

`Text.replace` fills one placeholder of a text.  `replaceEach` fills several at once: it goes over
the text a single time, and what it puts in is never looked at.  This file says when filling one
after the other comes to the same.

* `replace_append_cons` — a character that the key does not hold separates the text before it from
  the text behind it;
* `exists_join_pieces` — where a key occurs does not depend on what is put in its place;
* `Layout.replaceEach_fill` — a template whose placeholders stand apart can be filled in steps, as
  long as no value that is already in place holds an at sign.  The values that come last may hold
  anything.
-/

namespace HeaderSurvey.Text

/-! ### The beginning of a text -/

theorem dropStart?_append (start rest : List Char) :
    dropStart? start (start ++ rest) = some rest := by
  induction start with
  | nil => rfl
  | cons c start ih => rw [List.cons_append, dropStart?, if_pos rfl, ih]

/-- What a text begins with it also begins with after it has been made longer, and a character that
is not in the key cannot help. -/
theorem dropStart?_append_cons {key : List Char} {x : Char} (hx : x ∉ key) (s t : List Char) :
    dropStart? key (s ++ x :: t) = (dropStart? key s).map (· ++ x :: t) := by
  induction key generalizing s with
  | nil => rfl
  | cons k key ih =>
    rw [List.mem_cons, not_or] at hx
    obtain ⟨hk, hkey⟩ := hx
    cases s with
    | nil => simp [dropStart?, Ne.symm hk]
    | cons c s =>
      rw [List.cons_append, dropStart?, dropStart?]
      split_ifs
      · exact ih hkey s
      · rfl

theorem isSome_dropStart?_append_cons {key : List Char} {x : Char} (hx : x ∉ key)
    (s t : List Char) :
    (dropStart? key (s ++ x :: t)).isSome = (dropStart? key s).isSome := by
  rw [dropStart?_append_cons hx, Option.isSome_map]

theorem length_le_of_dropStart? {start text : List Char} (h : (dropStart? start text).isSome) :
    start.length ≤ text.length := by
  obtain ⟨rest, hrest⟩ := Option.isSome_iff_exists.mp h
  rw [eq_append_of_dropStart? hrest, List.length_append]
  omega

/-! ### One key -/

/-- What is covered of the text in front does not reach the separating character. -/
theorem replaceFrom_append_cons {key : List Char} {x : Char} (hkey : key ≠ []) (hx : x ∉ key)
    (value t : List Char) {n : Nat} {s : List Char} (hn : n ≤ s.length) :
    replaceFrom key value n (s ++ x :: t) =
      replaceFrom key value n s ++ x :: replaceFrom key value 0 t := by
  -- by induction on the text in front, in which every occurrence ends
  induction s generalizing n with
  | nil =>
    obtain rfl : n = 0 := Nat.le_zero.mp hn
    cases key with
    | nil => exact absurd rfl hkey
    | cons k key =>
      have hk : k ≠ x := fun h => hx (h ▸ List.mem_cons_self ..)
      simp [replaceFrom, dropStart?, hk]
  | cons c s ih =>
    cases n with
    | succ n =>
      rw [List.cons_append, replaceFrom, replaceFrom]
      exact ih (Nat.le_of_succ_le_succ hn)
    | zero =>
      have hsome := isSome_dropStart?_append_cons hx (c :: s) t
      rw [List.cons_append] at hsome ⊢
      rw [replaceFrom, replaceFrom]
      cases hs : dropStart? key (c :: s) with
      | none =>
        rw [hs, Option.isSome_none, Option.isSome_eq_false_iff, Option.isNone_iff_eq_none] at hsome
        rw [hsome]
        dsimp only
        rw [ih (Nat.zero_le _), List.cons_append]
      | some rest =>
        rw [hs] at hsome
        obtain ⟨rest', hrest'⟩ := Option.isSome_iff_exists.mp hsome
        have hlen : key.length ≤ (c :: s).length := by
          apply length_le_of_dropStart?
          rw [hs, Option.isSome_some]
        rw [List.length_cons] at hlen
        rw [hrest']
        dsimp only
        rw [ih (by omega), List.append_assoc]

/-- **A foreign character separates.**  The text before a character that is not in the key is
replaced by itself, and so is the text behind it. -/
theorem replace_append_cons {key : List Char} {x : Char} (hkey : key ≠ []) (hx : x ∉ key)
    (value s t : List Char) :
    replace key value (s ++ x :: t) = replace key value s ++ x :: replace key value t :=
  replaceFrom_append_cons hkey hx value t (Nat.zero_le _)

/-- One more separator behind joined texts. -/
theorem exists_join_append (piece : List Char) (pieces : List (List Char)) (s t : List Char) :
    ∃ pieces', 2 ≤ pieces'.length ∧ ∀ separator,
      join separator (piece :: pieces) ++ (s ++ (separator ++ t)) = join separator pieces' := by
  induction pieces generalizing piece with
  | nil => exact ⟨[piece ++ s, t], Nat.le_refl 2, fun separator => by simp [join]⟩
  | cons next pieces ih =>
    obtain ⟨pieces', hlen, hjoin⟩ := ih next
    cases pieces' with
    | nil => simp at hlen
    | cons next' pieces' =>
      refine ⟨piece :: next' :: pieces', by simp, fun separator => ?_⟩
      rw [join_cons_cons, List.append_assoc, hjoin, join_cons_cons]

theorem exists_join_pieces_from (key : List Char) (n : Nat) (text : List Char) :
    ∃ piece pieces, ∀ value, replaceFrom key value n text = join value (piece :: pieces) := by
  induction text generalizing n with
  | nil => exact ⟨[], [], fun value => by cases n <;> rfl⟩
  | cons c text ih =>
    cases n with
    | succ n => exact ih n
    | zero =>
      cases hstart : dropStart? key (c :: text) with
      | none =>
        obtain ⟨piece, pieces, h⟩ := ih 0
        refine ⟨c :: piece, pieces, fun value => ?_⟩
        rw [replaceFrom, hstart]
        dsimp only
        rw [h]
        cases pieces <;> simp [join]
      | some rest =>
        obtain ⟨piece, pieces, h⟩ := ih (key.length - 1)
        refine ⟨[], piece :: pieces, fun value => ?_⟩
        rw [replaceFrom, hstart]
        dsimp only
        rw [h, join_cons_cons, List.nil_append]

/-- Where a key occurs does not depend on the value: the replaced text consists of the same pieces,
with the value between them. -/
theorem exists_join_pieces (key text : List Char) :
    ∃ piece pieces, ∀ value, replace key value text = join value (piece :: pieces) :=
  exists_join_pieces_from key 0 text

/-! ### Several keys at once -/

/-- The text with the value of the first key that it begins with in place of each occurrence, from
left to right.  The first argument counts the characters still covered by an occurrence. -/
def replaceEachFrom (table : List (List Char × List Char)) : (covered : Nat) → List Char → List Char
  | _, [] => []
  | covered + 1, _ :: text => replaceEachFrom table covered text
  | 0, c :: text =>
    match table.find? fun entry => (dropStart? entry.1 (c :: text)).isSome with
    | some (key, value) => value ++ replaceEachFrom table (key.length - 1) text
    | none => c :: replaceEachFrom table 0 text

/-- Puts the value of each key of the table in place of its occurrences, all at once: nothing that
is put in is looked at again. -/
def replaceEach (table : List (List Char × List Char)) (text : List Char) : List Char :=
  replaceEachFrom table 0 text

theorem replaceFrom_eq_replaceEachFrom (key value : List Char) (n : Nat) (text : List Char) :
    replaceFrom key value n text = replaceEachFrom [(key, value)] n text := by
  induction text generalizing n with
  | nil => cases n <;> rfl
  | cons c text ih =>
    cases n with
    | succ n => exact ih n
    | zero =>
      rw [replaceFrom, replaceEachFrom, List.find?_singleton]
      cases dropStart? key (c :: text) <;> simp [ih]

theorem replace_eq_replaceEach (key value text : List Char) :
    replace key value text = replaceEach [(key, value)] text :=
  replaceFrom_eq_replaceEachFrom key value 0 text

section Each

variable {table : List (List Char × List Char)}

/-- Where no key begins, the text goes on by one character. -/
theorem replaceEach_cons {c : Char} {text : List Char}
    (h : ∀ entry ∈ table, dropStart? entry.1 (c :: text) = none) :
    replaceEach table (c :: text) = c :: replaceEach table text := by
  have hnone : (table.find? fun entry => (dropStart? entry.1 (c :: text)).isSome) = none := by
    rw [List.find?_eq_none]
    intro entry hentry
    simp [h entry hentry]
  rw [replaceEach, replaceEachFrom, hnone]
  rfl

theorem replaceEachFrom_append (s rest : List Char) :
    replaceEachFrom table s.length (s ++ rest) = replaceEach table rest := by
  induction s with
  | nil => rfl
  | cons c s ih => rw [List.length_cons, List.cons_append, replaceEachFrom, ih]

/-- Where a key begins, its value stands instead. -/
theorem replaceEach_of_find? {key value rest : List Char} (hkey : key ≠ [])
    (h : (table.find? fun entry => (dropStart? entry.1 (key ++ rest)).isSome) = some (key, value)) :
    replaceEach table (key ++ rest) = value ++ replaceEach table rest := by
  cases key with
  | nil => exact absurd rfl hkey
  | cons c key =>
    rw [List.cons_append] at h ⊢
    rw [replaceEach, replaceEachFrom, h]
    dsimp only
    rw [List.length_cons, Nat.add_sub_cancel, replaceEachFrom_append]

end Each

/-! ### Placeholders

A placeholder is a name between at signs.  In a template nothing else holds an at sign, and behind
each placeholder stands a character that no name begins with, so that the second at sign of one
placeholder is not the first of another. -/

/-- The placeholder with a name. -/
def mark (name : List Char) : List Char :=
  '@' :: (name ++ ['@'])

theorem mark_ne_nil (name : List Char) : mark name ≠ [] :=
  List.cons_ne_nil _ _

theorem mem_mark {x : Char} {name : List Char} : x ∈ mark name ↔ x = '@' ∨ x ∈ name := by
  simp [mark, or_comm]

/-- The table of the placeholders with the given names and values. -/
def marks (values : List (List Char × List Char)) : List (List Char × List Char) :=
  values.map fun entry => (mark entry.1, entry.2)

/-- A placeholder of a template and the text behind it, up to the next one. -/
structure Slot where
  name : List Char
  /-- The first character behind the placeholder. -/
  next : Char
  text : List Char
  deriving DecidableEq

/-- A template, taken apart at its placeholders. -/
structure Layout where
  front : List Char
  slots : List Slot
  deriving DecidableEq

/-- The slot with the value of its name, or with the placeholder itself if there is none. -/
def Slot.fill (values : List (List Char × List Char)) (slot : Slot) : List Char :=
  (values.lookup slot.name).getD (mark slot.name) ++ slot.next :: slot.text

/-- The template with the values of those placeholders that have one. -/
def Layout.fill (values : List (List Char × List Char)) (layout : Layout) : List Char :=
  layout.front ++ layout.slots.flatMap (Slot.fill values)

/-- What a name must be like for its placeholder to stand in a template with this slot. -/
structure Slot.Apart (slot : Slot) (name : List Char) : Prop where
  ne_nil : name ≠ []
  notMem : '@' ∉ name
  next_notMem : slot.next ∉ name

/-- At signs delimit the placeholder of the slot and stand nowhere else. -/
structure Slot.Plain (slot : Slot) : Prop where
  name : '@' ∉ slot.name
  behind : '@' ∉ slot.next :: slot.text

/-- A template in which the placeholders with the given names can be found. -/
structure Layout.Plain (layout : Layout) (names : List (List Char)) : Prop where
  front : '@' ∉ layout.front
  slots : ∀ slot ∈ layout.slots, slot.Plain
  apart : ∀ slot ∈ layout.slots, ∀ name ∈ names, slot.Apart name

instance (slot : Slot) (name : List Char) : Decidable (slot.Apart name) :=
  decidable_of_iff (name ≠ [] ∧ '@' ∉ name ∧ slot.next ∉ name)
    ⟨fun ⟨h1, h2, h3⟩ => ⟨h1, h2, h3⟩, fun ⟨h1, h2, h3⟩ => ⟨h1, h2, h3⟩⟩

instance (slot : Slot) : Decidable slot.Plain :=
  decidable_of_iff ('@' ∉ slot.name ∧ '@' ∉ slot.next :: slot.text)
    ⟨fun ⟨h1, h2⟩ => ⟨h1, h2⟩, fun ⟨h1, h2⟩ => ⟨h1, h2⟩⟩

instance (layout : Layout) (names : List (List Char)) : Decidable (layout.Plain names) :=
  decidable_of_iff ('@' ∉ layout.front ∧ (∀ slot ∈ layout.slots, slot.Plain) ∧
      ∀ slot ∈ layout.slots, ∀ name ∈ names, slot.Apart name)
    ⟨fun ⟨h1, h2, h3⟩ => ⟨h1, h2, h3⟩, fun ⟨h1, h2, h3⟩ => ⟨h1, h2, h3⟩⟩

/-- The layout is that of the template, its placeholders have these names in this order, and each of
them can be found in it. -/
structure Layout.Describes (layout : Layout) (template : List Char) (names : List (List Char)) :
    Prop where
  fill_nil : layout.fill [] = template
  map_name : layout.slots.map Slot.name = names
  plain : layout.Plain names

instance (layout : Layout) (template : List Char) (names : List (List Char)) :
    Decidable (layout.Describes template names) :=
  decidable_of_iff
    (layout.fill [] = template ∧ layout.slots.map Slot.name = names ∧ layout.Plain names)
    ⟨fun ⟨h1, h2, h3⟩ => ⟨h1, h2, h3⟩, fun ⟨h1, h2, h3⟩ => ⟨h1, h2, h3⟩⟩

theorem dropStart?_mark_of_ne {c : Char} (hc : c ≠ '@') (name text : List Char) :
    dropStart? (mark name) (c :: text) = none := by
  rw [mark, dropStart?, if_neg hc.symm]

/-- The at sign behind a placeholder begins none. -/
theorem Slot.Apart.dropStart?_mark {slot : Slot} {name : List Char} (h : slot.Apart name)
    (text : List Char) : dropStart? (mark name) ('@' :: slot.next :: text) = none := by
  cases name with
  | nil => exact absurd rfl h.ne_nil
  | cons c name =>
    have hc : c ≠ slot.next := fun heq => h.next_notMem (heq ▸ List.mem_cons_self ..)
    simp [mark, dropStart?, hc]

/-- A text that begins with one placeholder begins with no other. -/
theorem isSome_dropStart?_mark {name other : List Char} (hname : '@' ∉ name) (hother : '@' ∉ other)
    (text : List Char) :
    (dropStart? (mark other) (mark name ++ text)).isSome = (name == other) := by
  have hclass : ∀ s : List Char, '@' ∉ s → ∀ x ∈ s, decide (x ≠ '@') = true := by
    intro s hs x hx
    exact decide_eq_true (ne_of_mem_of_not_mem hx hs)
  rw [Bool.eq_iff_iff, beq_iff_eq]
  constructor
  · intro h
    obtain ⟨rest, hrest⟩ := Option.isSome_iff_exists.mp h
    have heq := eq_append_of_dropStart? hrest
    simp only [mark, List.cons_append, List.append_assoc, List.nil_append, List.cons.injEq,
      true_and] at heq
    exact (append_cons_inj_of_class (hclass name hname) (hclass other hother) (by simp) (by simp)
      heq).1
  · rintro rfl
    rw [dropStart?_append, Option.isSome_some]

section Fill

variable {values more : List (List Char × List Char)}

/-- A text without at signs is passed over. -/
theorem replaceEach_marks_append {s : List Char} (hs : '@' ∉ s) (rest : List Char) :
    replaceEach (marks more) (s ++ rest) = s ++ replaceEach (marks more) rest := by
  induction s with
  | nil => rfl
  | cons c s ih =>
    rw [List.mem_cons, not_or] at hs
    rw [List.cons_append, replaceEach_cons, ih hs.2, List.cons_append]
    intro entry hentry
    obtain ⟨⟨name, value⟩, -, rfl⟩ := List.mem_map.mp hentry
    exact dropStart?_mark_of_ne (Ne.symm hs.1) name (s ++ rest)

/-- The placeholder of a name is looked up by this name. -/
theorem find?_marks {name : List Char} (hname : '@' ∉ name) (hmore : ∀ entry ∈ more, '@' ∉ entry.1)
    (text : List Char) :
    ((marks more).find? fun entry => (dropStart? entry.1 (mark name ++ text)).isSome) =
      (more.lookup name).map fun value => (mark name, value) := by
  induction more with
  | nil => rfl
  | cons entry more ih =>
    obtain ⟨hentry, hmore⟩ := List.forall_mem_cons.mp hmore
    rw [marks, List.map_cons, List.find?_cons, isSome_dropStart?_mark hname hentry, ← marks,
      ih hmore, List.lookup_cons]
    by_cases heq : name = entry.1
    · simp [heq]
    · simp [beq_eq_false_iff_ne.mpr heq]

/-- A placeholder that is not in the table is passed over. -/
theorem Slot.replaceEach_mark_append {slot : Slot} (hslot : slot.Plain)
    (hmore : ∀ entry ∈ more, slot.Apart entry.1) (hlookup : more.lookup slot.name = none)
    (rest : List Char) :
    replaceEach (marks more) (mark slot.name ++ slot.next :: rest) =
      mark slot.name ++ replaceEach (marks more) (slot.next :: rest) := by
  have hfirst : ∀ entry ∈ marks more,
      dropStart? entry.1 ('@' :: (slot.name ++ '@' :: slot.next :: rest)) = none := by
    have hfind := find?_marks hslot.name (fun entry hentry => (hmore entry hentry).notMem)
      (slot.next :: rest)
    rw [hlookup, Option.map_none, List.find?_eq_none] at hfind
    intro entry hentry
    simpa [mark] using hfind entry hentry
  have hsecond : ∀ entry ∈ marks more, dropStart? entry.1 ('@' :: slot.next :: rest) = none := by
    intro entry hentry
    obtain ⟨entry, hmem, rfl⟩ := List.mem_map.mp hentry
    exact (hmore entry hmem).dropStart?_mark rest
  calc replaceEach (marks more) (mark slot.name ++ slot.next :: rest)
      = replaceEach (marks more) ('@' :: (slot.name ++ '@' :: slot.next :: rest)) := by simp [mark]
    _ = '@' :: (slot.name ++ replaceEach (marks more) ('@' :: slot.next :: rest)) := by
      rw [replaceEach_cons hfirst, replaceEach_marks_append hslot.name]
    _ = mark slot.name ++ replaceEach (marks more) (slot.next :: rest) := by
      rw [replaceEach_cons hsecond]
      simp [mark]

/-- Filling a slot further: a value that it has is passed over, and the value of its name in the
table is put in otherwise. -/
theorem Slot.replaceEach_fill {slot : Slot} (hslot : slot.Plain)
    (hvalues : ∀ entry ∈ values, '@' ∉ entry.2) (hmore : ∀ entry ∈ more, slot.Apart entry.1)
    (rest : List Char) :
    replaceEach (marks more) (slot.fill values ++ rest) =
      slot.fill (values ++ more) ++ replaceEach (marks more) rest := by
  have hbehind : replaceEach (marks more) (slot.next :: slot.text ++ rest) =
      slot.next :: slot.text ++ replaceEach (marks more) rest :=
    replaceEach_marks_append hslot.behind rest
  rw [Slot.fill, Slot.fill, List.append_assoc, List.append_assoc, List.lookup_append]
  cases hvalue : values.lookup slot.name with
  | some value =>
    obtain ⟨front, back, hentries, -⟩ := List.lookup_eq_some_iff.mp hvalue
    have hmem : '@' ∉ value := hvalues (slot.name, value) (by simp [hentries])
    rw [Option.getD_some, Option.some_or, Option.getD_some, replaceEach_marks_append hmem, hbehind]
  | none =>
    rw [Option.getD_none, Option.none_or]
    cases hlookup : more.lookup slot.name with
    | some value =>
      have hfind := find?_marks hslot.name (fun entry hentry => (hmore entry hentry).notMem)
        (slot.next :: slot.text ++ rest)
      rw [hlookup] at hfind
      rw [Option.getD_some, replaceEach_of_find? (mark_ne_nil _) hfind, hbehind]
    | none =>
      have hmiss := Slot.replaceEach_mark_append hslot hmore hlookup (slot.text ++ rest)
      rw [← List.cons_append, hbehind] at hmiss
      rw [Option.getD_none, hmiss]

/-- **Filling in steps.**  A template in which some placeholders have been filled with texts without
at signs is filled further as if all values had been put in at once. -/
theorem Layout.replaceEach_fill {layout : Layout} {names : List (List Char)}
    (hlayout : layout.Plain names) (hvalues : ∀ entry ∈ values, '@' ∉ entry.2)
    (hmore : ∀ entry ∈ more, entry.1 ∈ names) :
    replaceEach (marks more) (layout.fill values) = layout.fill (values ++ more) := by
  obtain ⟨hfront, hslots, hapart⟩ := hlayout
  have hfill : ∀ slots : List Slot, (∀ slot ∈ slots, slot ∈ layout.slots) →
      replaceEach (marks more) (slots.flatMap (Slot.fill values)) =
        slots.flatMap (Slot.fill (values ++ more)) := by
    intro slots hmem
    induction slots with
    | nil => rfl
    | cons slot slots ih =>
      obtain ⟨hslot, hmem⟩ := List.forall_mem_cons.mp hmem
      have happly : ∀ entry ∈ more, slot.Apart entry.1 := fun entry hentry =>
        hapart slot hslot entry.1 (hmore entry hentry)
      rw [List.flatMap_cons, List.flatMap_cons,
        Slot.replaceEach_fill (hslots slot hslot) hvalues happly, ih hmem]
  rw [Layout.fill, Layout.fill, replaceEach_marks_append hfront, hfill _ fun _ h => h]

/-- Filling a template at once. -/
theorem Layout.replaceEach_template {layout : Layout} {template : List Char}
    {names : List (List Char)} (h : layout.Describes template names)
    (hmore : ∀ entry ∈ more, entry.1 ∈ names) :
    replaceEach (marks more) template = layout.fill more := by
  rw [← h.fill_nil, Layout.replaceEach_fill h.plain (by simp) hmore, List.nil_append]

/-- Filling one more placeholder. -/
theorem Layout.replace_fill {layout : Layout} {names : List (List Char)} {name : List Char}
    (hlayout : layout.Plain names) (hname : name ∈ names)
    (hvalues : ∀ entry ∈ values, '@' ∉ entry.2) (value : List Char) :
    replace (mark name) value (layout.fill values) = layout.fill (values ++ [(name, value)]) := by
  have hmore : ∀ entry ∈ [(name, value)], entry.1 ∈ names := by simpa using hname
  rw [replace_eq_replaceEach]
  exact Layout.replaceEach_fill hlayout hvalues hmore

end Fill

/-! ### Taking a template apart -/

/-- The slots of a template, from the pieces between the at signs behind its first one. -/
def slotsOf : List (List Char) → List Slot
  | name :: (next :: text) :: pieces => ⟨name, next, text⟩ :: slotsOf pieces
  | _ => []

/-- A template taken apart at its at signs. -/
def Layout.ofTemplate (template : List Char) : Layout :=
  match splitBy (· = '@') template with
  | [] => ⟨[], []⟩
  | front :: pieces => ⟨front, slotsOf pieces⟩

end HeaderSurvey.Text
