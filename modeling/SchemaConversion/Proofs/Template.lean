import SchemaConversion.Databases
import SchemaConversion.CustomType.Conversion
import SchemaConversion.Proofs.Outcome
import SchemaConversion.Proofs.Substitution
import SchemaConversion.Proofs.TypeName

/-!
# Filling templates

A template is meant to be read as a whole: `filled` puts the values in the places of their names,
wherever these stand in the pattern, and never looks at what it has put in.

> `fill_append_placeholder`: every place is filled, and what is around it by itself.

It is rendered one name after the other, however, and the text that is searched for a name has the
values of those before it. Between two places of a name in the pattern, the names before it have
made a text in which it may stand as well:

> `AreKept`: a list of values whose names never come to stand anywhere but in the pattern.

> `render_eq_filled_iff`: the rendered text is the filled one from the first name to the last
> exactly if that is so.

The argument takes the pattern for the stretches between the places of a name. As names have no
braces, no place overlaps another one, and filling goes on in each of the stretches by itself
(`fill_of_mem`, `fill_of_notMem`). So does the search for the name when it is replaced.
-/

namespace SchemaConversion

namespace NativeTemplate

variable {key value : String} {entries : List (String × String)} {a b s w : List Char}

/-! ## Filling all places at once -/

/-- The entry in whose place the text begins. -/
def entryAt? (entries : List (String × String)) (s : List Char) : Option (String × String) :=
  entries.find? fun entry => (placeholder entry.1).toList.isPrefixOf s

/-- Fills the text behind its first `skip` characters, which are dropped. -/
def fillFrom (entries : List (String × String)) : Nat → List Char → List Char
  | _, [] => []
  | skip + 1, _ :: rest => fillFrom entries skip rest
  | 0, c :: rest =>
    match entryAt? entries (c :: rest) with
    | some entry => entry.2.toList ++ fillFrom entries (entry.1.length + 1) rest
    | none => c :: fillFrom entries 0 rest

/-- The text with the values in their places and everything else as it is. -/
def fill (entries : List (String × String)) (s : List Char) : List Char := fillFrom entries 0 s

/-- The pattern with the values in their places. -/
def filled (t : NativeTemplate) (entries : List (String × String)) : String :=
  String.ofList (fill entries t.pattern.toList)

/-- The stretches between the places of a name. -/
def stretches (key : String) (s : List Char) : List (List Char) :=
  Text.cut (placeholder key).toList s

/-- A name without braces, so that none of its places has another one in it. -/
def IsKey (key : String) : Prop := '\x7b' ∉ key.toList ∧ '\x7d' ∉ key.toList

instance (key : String) : Decidable (IsKey key) := inferInstanceAs (Decidable (_ ∧ _))

/-- Names without braces, none of them twice. -/
structure AreKeys (entries : List (String × String)) : Prop where
  isKey : ∀ entry ∈ entries, IsKey entry.1
  nodup : (entries.map Prod.fst).Nodup

theorem AreKeys.sublist {part : List (String × String)} (h : AreKeys entries)
    (hpart : part.Sublist entries) : AreKeys part :=
  ⟨fun entry hmem => h.isKey entry (hpart.subset hmem), h.nodup.sublist (hpart.map Prod.fst)⟩

/-- Once the names before it are filled in, no name stands anywhere but in its places in the
pattern, unless its value is its own place. -/
def AreKept (t : NativeTemplate) (entries : List (String × String)) : Prop :=
  ∀ i : Fin entries.length, entries[i].2 = placeholder entries[i].1 ∨
    ∀ stretch ∈ stretches entries[i].1 t.pattern.toList,
      ¬(placeholder entries[i].1).toList <:+: fill (entries.take i) stretch

instance (t : NativeTemplate) (entries : List (String × String)) : Decidable (t.AreKept entries) :=
  inferInstanceAs (Decidable (∀ _ : Fin _, _ ∨ _))

theorem toList_placeholder (key : String) :
    (placeholder key).toList = '\x7b' :: (key.toList ++ ['\x7d']) := by
  simp [placeholder]

theorem IsKey.brace_notMem (h : IsKey key) : '\x7b' ∉ key.toList ++ ['\x7d'] := by
  simpa using h.1

/-! ## Where places are found -/

/-- A place ends before the next brace. -/
theorem placeholder_prefix_append_iff (h : IsKey key) (hne : a ≠ []) :
    (placeholder key).toList <+: a ++ '\x7b' :: s ↔ (placeholder key).toList <+: a := by
  rw [toList_placeholder]
  exact ⟨Text.prefix_of_prefix_append h.brace_notMem hne, fun hbegins =>
    hbegins.trans (List.prefix_append a _)⟩

/-- No place is the beginning of another. -/
theorem placeholder_prefix_placeholder_iff {key' : String} (h : IsKey key) (h' : IsKey key')
    (s : List Char) :
    (placeholder key').toList <+: (placeholder key).toList ++ s ↔ key' = key := by
  constructor
  · rintro ⟨rest, heq⟩
    rw [toList_placeholder, toList_placeholder] at heq
    have htails : key'.toList ++ '\x7d' :: rest = key.toList ++ '\x7d' :: s := by simpa using heq
    have hsplit := congrArg (TypeName.splitAt? '\x7d') htails
    rw [TypeName.splitAt?_append h'.2, TypeName.splitAt?_append h.2] at hsplit
    simpa [String.toList_inj] using (Prod.mk.inj (Option.some.inj hsplit)).1
  · rintro rfl
    exact List.prefix_append _ _

theorem entryAt?_eq_none_iff :
    entryAt? entries s = none ↔ ∀ entry ∈ entries, ¬(placeholder entry.1).toList <+: s := by
  simp [entryAt?, List.find?_eq_none]

theorem mem_of_entryAt? {entry : String × String} (h : entryAt? entries s = some entry) :
    entry ∈ entries ∧ (placeholder entry.1).toList <+: s := by
  obtain ⟨hbegins, before, after, rfl, -⟩ := List.find?_eq_some_iff_append.1 h
  exact ⟨by simp, List.isPrefixOf_iff_prefix.1 hbegins⟩

/-- At the place of a name that is listed stands its entry. -/
theorem entryAt?_placeholder (h : AreKeys entries) (hmem : (key, value) ∈ entries)
    (s : List Char) : entryAt? entries ((placeholder key).toList ++ s) = some (key, value) := by
  cases hat : entryAt? entries ((placeholder key).toList ++ s) with
  | none =>
    have hnone : ¬(placeholder key).toList <+: (placeholder key).toList ++ s :=
      entryAt?_eq_none_iff.1 hat (key, value) hmem
    exact absurd (List.prefix_append _ s) hnone
  | some entry =>
    obtain ⟨hentry, hbegins⟩ := mem_of_entryAt? hat
    have hkey : entry.1 = key :=
      (placeholder_prefix_placeholder_iff (h.isKey (key, value) hmem) (h.isKey entry hentry) s).1
        hbegins
    rw [List.inj_on_of_nodup_map h.nodup hentry hmem hkey]

/-- At the place of a name that is not listed stands none. -/
theorem entryAt?_placeholder_of_notMem (h : ∀ entry ∈ entries, IsKey entry.1) (hkey : IsKey key)
    (hnot : key ∉ entries.map Prod.fst) (s : List Char) :
    entryAt? entries ((placeholder key).toList ++ s) = none := by
  refine entryAt?_eq_none_iff.2 fun entry hentry hbegins => hnot ?_
  rw [← (placeholder_prefix_placeholder_iff hkey (h entry hentry) s).1 hbegins]
  exact List.mem_map_of_mem hentry

/-- What follows from the next brace on does not count. -/
theorem entryAt?_append (h : ∀ entry ∈ entries, IsKey entry.1) (hne : a ≠ []) (s : List Char) :
    entryAt? entries (a ++ '\x7b' :: s) = entryAt? entries a := by
  unfold entryAt?
  induction entries with
  | nil => rfl
  | cons entry entries ih =>
    obtain ⟨hentry, hrest⟩ := List.forall_mem_cons.1 h
    have hsame : (placeholder entry.1).toList.isPrefixOf (a ++ '\x7b' :: s) =
        (placeholder entry.1).toList.isPrefixOf a := by
      rw [Bool.eq_iff_iff, List.isPrefixOf_iff_prefix, List.isPrefixOf_iff_prefix]
      exact placeholder_prefix_append_iff hentry hne
    rw [List.find?_cons, List.find?_cons, hsame, ih hrest]

/-! ## One place after the other -/

theorem fillFrom_eq_drop (entries : List (String × String)) (skip : Nat) (s : List Char) :
    fillFrom entries skip s = fill entries (s.drop skip) := by
  induction s generalizing skip with
  | nil => cases skip <;> rfl
  | cons c s ih =>
    cases skip with
    | zero => rfl
    | succ skip => exact ih skip

/-- Without names there is nothing to fill. -/
theorem fill_nil (s : List Char) : fill [] s = s := by
  induction s with
  | nil => rfl
  | cons c s ih => exact congrArg (c :: ·) ih

theorem fill_cons_of_none {c : Char} (h : entryAt? entries (c :: s) = none) :
    fill entries (c :: s) = c :: fill entries s := by
  show fillFrom entries 0 (c :: s) = _
  rw [fillFrom, h]
  rfl

theorem fill_placeholder_of_some
    (h : entryAt? entries ((placeholder key).toList ++ s) = some (key, value)) :
    fill entries ((placeholder key).toList ++ s) = value.toList ++ fill entries s := by
  rw [toList_placeholder, List.cons_append] at h ⊢
  show fillFrom entries 0 ('\x7b' :: (key.toList ++ ['\x7d'] ++ s)) = _
  rw [fillFrom, h]
  have hlength : key.length + 1 = (key.toList ++ ['\x7d']).length := by
    rw [List.length_append, String.length_toList, List.length_singleton]
  simp only [fillFrom_eq_drop, hlength, List.drop_left]

/-- Induction along filling: from place to place, and over each character where there is none. -/
theorem fill_induction {motive : List Char → Prop} (entries : List (String × String))
    (nil : motive [])
    (char : ∀ c s, entryAt? entries (c :: s) = none → motive s → motive (c :: s))
    (place : ∀ entry s, entryAt? entries ((placeholder entry.1).toList ++ s) = some entry →
      motive s → motive ((placeholder entry.1).toList ++ s))
    (s : List Char) : motive s := by
  induction hn : s.length using Nat.strong_induction_on generalizing s with
  | _ n ih =>
    cases s with
    | nil => exact nil
    | cons c s =>
      cases hat : entryAt? entries (c :: s) with
      | none =>
        refine char c s hat (ih _ ?_ s rfl)
        rw [← hn, List.length_cons]
        omega
      | some entry =>
        obtain ⟨-, rest, hrest⟩ := mem_of_entryAt? hat
        rw [← hrest] at hat hn ⊢
        refine place entry rest hat (ih _ ?_ rest rfl)
        rw [← hn, List.length_append, toList_placeholder, List.length_cons]
        omega

/-- Without a brace there is nothing to fill. -/
theorem fill_append_of_brace_notMem (hw : '\x7b' ∉ w) (s : List Char) :
    fill entries (w ++ s) = w ++ fill entries s := by
  induction w with
  | nil => rfl
  | cons c w ih =>
    -- a place begins with a brace
    have hnone : entryAt? entries (c :: (w ++ s)) = none := by
      refine entryAt?_eq_none_iff.2 fun entry _ hbegins => hw ?_
      rw [toList_placeholder] at hbegins
      exact (List.cons_prefix_cons.1 hbegins).1 ▸ List.mem_cons_self
    rw [List.cons_append, fill_cons_of_none hnone, ih fun hmem => hw (List.mem_cons_of_mem c hmem)]
    rfl

/-- **From the next brace on a text is filled by itself.** -/
theorem fill_append (h : ∀ entry ∈ entries, IsKey entry.1) (a s : List Char) :
    fill entries (a ++ '\x7b' :: s) = fill entries a ++ fill entries ('\x7b' :: s) := by
  induction a using fill_induction entries with
  | nil => rfl
  | char c a hnone ih =>
    have hsame := entryAt?_append h (List.cons_ne_nil c a) s
    rw [List.cons_append] at hsame ⊢
    rw [fill_cons_of_none hnone, fill_cons_of_none (hsame.trans hnone), ih]
    rfl
  | place entry a hplace ih =>
    -- the brace comes behind a place, so that the same place is found with it and without it
    have hne : (placeholder entry.1).toList ++ a ≠ [] := by simp [toList_placeholder]
    have hsame := entryAt?_append h hne s
    rw [List.append_assoc] at hsame ⊢
    rw [fill_placeholder_of_some hplace, fill_placeholder_of_some (hsame.trans hplace), ih,
      List.append_assoc]

/-- **Each place of a name that is listed is filled**, and what is around it by itself. -/
theorem fill_append_placeholder (h : AreKeys entries) (hmem : (key, value) ∈ entries)
    (a b : List Char) :
    fill entries (a ++ (placeholder key).toList ++ b) =
      fill entries a ++ value.toList ++ fill entries b := by
  have hplace := fill_placeholder_of_some (entryAt?_placeholder h hmem b)
  rw [toList_placeholder, List.cons_append] at hplace
  rw [toList_placeholder, List.append_assoc, List.cons_append, fill_append h.isKey, hplace,
    List.append_assoc]

/-- A place of a name that is not listed is kept. -/
theorem fill_append_placeholder_of_notMem (h : ∀ entry ∈ entries, IsKey entry.1)
    (hkey : IsKey key) (hnot : key ∉ entries.map Prod.fst) (a b : List Char) :
    fill entries (a ++ (placeholder key).toList ++ b) =
      fill entries a ++ (placeholder key).toList ++ fill entries b := by
  have hnone := entryAt?_placeholder_of_notMem h hkey hnot b
  rw [toList_placeholder, List.cons_append] at hnone
  rw [toList_placeholder, List.append_assoc, List.cons_append, fill_append h,
    fill_cons_of_none hnone, fill_append_of_brace_notMem hkey.brace_notMem]
  simp

/-- A name that does not stand in the text is not filled in. -/
theorem fill_concat_of_absent (h : ¬(placeholder key).toList <:+: s)
    (entries : List (String × String)) (value : String) :
    fill (entries ++ [(key, value)]) s = fill entries s := by
  -- no place is found under this name, so the list may as well end before it
  have hsame {s : List Char} (h : ¬(placeholder key).toList <:+: s) :
      entryAt? (entries ++ [(key, value)]) s = entryAt? entries s := by
    have hnot : (placeholder key).toList.isPrefixOf s = false :=
      Bool.eq_false_iff.2 fun hbegins => h (List.isPrefixOf_iff_prefix.1 hbegins).isInfix
    unfold entryAt?
    rw [List.find?_append, List.find?_singleton, hnot]
    simp
  induction s using fill_induction entries with
  | nil => rfl
  | char c s hnone ih =>
    rw [fill_cons_of_none hnone, fill_cons_of_none ((hsame h).trans hnone),
      ih fun hin => h (hin.trans (List.suffix_cons c s).isInfix)]
  | place entry s hplace ih =>
    rw [fill_placeholder_of_some hplace, fill_placeholder_of_some ((hsame h).trans hplace),
      ih fun hin => h (hin.trans (List.suffix_append _ s).isInfix)]

/-! ## Between the places of a name -/

theorem intercalate_stretches (key : String) (s : List Char) :
    (placeholder key).toList.intercalate (stretches key s) = s := by
  unfold stretches
  rw [toList_placeholder]
  exact Text.intercalate_cut _ _ s

theorem not_infix_of_mem_stretches (h : w ∈ stretches key s) :
    ¬(placeholder key).toList <:+: w := by
  unfold stretches at h
  rw [toList_placeholder] at h ⊢
  exact Text.not_infix_of_mem_cut h

/-- **A name that is listed** has its value between the stretches, which are filled by
themselves. -/
theorem fill_of_mem (h : AreKeys entries) (hmem : (key, value) ∈ entries) (s : List Char) :
    fill entries s = value.toList.intercalate ((stretches key s).map (fill entries)) := by
  conv_lhs => rw [← intercalate_stretches key s]
  exact Text.map_intercalate rfl (fill_append_placeholder h hmem) _

/-- A name that is not listed keeps its places. -/
theorem fill_of_notMem (h : ∀ entry ∈ entries, IsKey entry.1) (hkey : IsKey key)
    (hnot : key ∉ entries.map Prod.fst) (s : List Char) :
    fill entries s =
      (placeholder key).toList.intercalate ((stretches key s).map (fill entries)) := by
  conv_lhs => rw [← intercalate_stretches key s]
  exact Text.map_intercalate rfl (fill_append_placeholder_of_notMem h hkey hnot) _

/-- The next name goes between the stretches, where the names before it are filled in. -/
theorem fill_concat (h : AreKeys (entries ++ [(key, value)])) (s : List Char) :
    fill (entries ++ [(key, value)]) s =
      value.toList.intercalate ((stretches key s).map (fill entries)) := by
  rw [fill_of_mem h (List.mem_append_right _ (List.mem_singleton_self _))]
  refine congrArg _ (List.map_congr_left fun stretch hmem => ?_)
  exact fill_concat_of_absent (not_infix_of_mem_stretches hmem) entries value

/-! ## One name after the other -/

/-- **The next name.** It is filled in by replacing its places exactly if it stands nowhere else in
what has been made of the pattern, or if it is its own value. -/
theorem replaceText_filled_iff {entry : String × String} (t : NativeTemplate)
    (h : AreKeys (entries ++ [entry])) :
    Text.replaceText (placeholder entry.1) entry.2 (t.filled entries) =
        t.filled (entries ++ [entry]) ↔
      entry.2 = placeholder entry.1 ∨
        ∀ stretch ∈ stretches entry.1 t.pattern.toList,
          ¬(placeholder entry.1).toList <:+: fill entries stretch := by
  obtain ⟨key, value⟩ := entry
  have hkey : IsKey key := h.isKey (key, value) (by simp)
  have hkeys : ∀ entry ∈ entries, IsKey entry.1 := fun entry hmem =>
    h.isKey entry (List.mem_append_left _ hmem)
  -- no name is listed twice
  have hnot : key ∉ entries.map Prod.fst := by
    have hnodup := h.nodup
    rw [List.map_append, List.nodup_append] at hnodup
    exact fun hmem => hnodup.2.2 key hmem key (by simp) rfl
  have hreplaced (texts : List (List Char)) :
      Text.replaceAll (placeholder key).toList value.toList
          ((placeholder key).toList.intercalate texts) = value.toList.intercalate texts ↔
        value = placeholder key ∨ ∀ text ∈ texts, ¬(placeholder key).toList <:+: text := by
    rw [← String.toList_inj, toList_placeholder]
    exact Text.replaceAll_intercalate_iff hkey.brace_notMem
  have hplaces := hreplaced ((stretches key t.pattern.toList).map (fill entries))
  rw [List.forall_mem_map] at hplaces
  unfold Text.replaceText filled
  rw [String.ofList_inj, String.toList_ofList, fill_concat h, fill_of_notMem hkeys hkey hnot]
  exact hplaces

/-- A place that a template does not have is not filled. -/
theorem render_cons_of_absent {t : NativeTemplate} (h : t.hasPlaceholder key = false)
    (value : String) (entries : List (String × String)) :
    t.render ((key, value) :: entries) = t.render entries := by
  have habsent : Text.replaceText (placeholder key) value t.pattern = t.pattern := by
    unfold Text.replaceText
    rw [Text.replaceAll_of_not_occurs _ h, String.ofList_toList]
  unfold render
  rw [List.foldl_cons, habsent]

theorem render_take_succ (t : NativeTemplate) {i : ℕ} (hi : i < entries.length) :
    t.render (entries.take (i + 1)) =
      Text.replaceText (placeholder entries[i].1) entries[i].2 (t.render (entries.take i)) := by
  unfold render
  rw [List.take_succ_eq_append_getElem hi, List.foldl_append]
  rfl

theorem replaceText_filled_take_iff (t : NativeTemplate) (h : AreKeys entries) {i : ℕ}
    (hi : i < entries.length) :
    Text.replaceText (placeholder entries[i].1) entries[i].2 (t.filled (entries.take i)) =
        t.filled (entries.take (i + 1)) ↔
      entries[i].2 = placeholder entries[i].1 ∨
        ∀ stretch ∈ stretches entries[i].1 t.pattern.toList,
          ¬(placeholder entries[i].1).toList <:+: fill (entries.take i) stretch := by
  have hkeys := h.sublist (List.take_sublist (i + 1) entries)
  rw [List.take_succ_eq_append_getElem hi] at hkeys ⊢
  exact replaceText_filled_iff t hkeys

/-- Each name is filled in if it comes to stand nowhere else. -/
theorem render_take (h : AreKeys entries) {t : NativeTemplate} (hkept : t.AreKept entries)
    (n : ℕ) : t.render (entries.take n) = t.filled (entries.take n) := by
  induction n with
  | zero =>
    rw [List.take_zero, filled, fill_nil, String.ofList_toList]
    rfl
  | succ n ih =>
    by_cases hn : n < entries.length
    · rw [render_take_succ t hn, ih]
      exact (replaceText_filled_take_iff t h hn).2 (hkept ⟨n, hn⟩)
    -- all names have been filled in
    · rw [List.take_of_length_le (by omega)] at ih ⊢
      exact ih

theorem render_of_areKept (h : AreKeys entries) {t : NativeTemplate} (hkept : t.AreKept entries) :
    t.render entries = t.filled entries := by
  have hall := render_take h hkept entries.length
  rwa [List.take_length] at hall

/-- **When templates are filled.** The rendered text is the pattern with the values in their places
and everything else as it is if no name comes to stand anywhere else, and only then is it so from
the first name to the last. Names have no braces, and none of them is listed twice. -/
theorem render_eq_filled_iff (t : NativeTemplate) (h : AreKeys entries) :
    (t.AreKept entries → t.render entries = t.filled entries) ∧
      ((∀ n, t.render (entries.take n) = t.filled (entries.take n)) ↔ t.AreKept entries) := by
  refine ⟨render_of_areKept h, fun hall i => ?_, render_take h⟩
  refine (replaceText_filled_take_iff t h i.isLt).1 ?_
  rw [← hall i, ← render_take_succ t i.isLt, hall]

/-- Braces in a name and in a value, neither of which is a name that comes later. -/
theorem enum_filled :
    let entries := [("name", placeholder "status"),
      ("values", "'" ++ placeholder "name" ++ "', 'open'")]
    ∃ t, Databases.postgresql.types.customTypes.enums = some t ∧ AreKeys entries ∧
      t.AreKept entries ∧ t.render entries = t.filled entries ∧
      t.filled entries = "CREATE TYPE \x7bstatus\x7d AS ENUM ('\x7bname\x7d', 'open')" := by
  intro entries
  have hkeys : AreKeys entries := ⟨by decide, by decide⟩
  refine ⟨_, rfl, hkeys, by decide +kernel, ?_, by decide +kernel⟩
  exact (render_eq_filled_iff _ hkeys).1 (by decide +kernel)

/-- A type whose name is the place of its values is created under another name. -/
theorem enum_filled_twice :
    let entries := [("name", placeholder "values"), ("values", "'open'")]
    ∃ t, Databases.postgresql.types.customTypes.enums = some t ∧ AreKeys entries ∧
      t.render entries = "CREATE TYPE 'open' AS ENUM ('open')" ∧
      t.filled entries = "CREATE TYPE \x7bvalues\x7d AS ENUM ('open')" ∧
      t.render entries ≠ t.filled entries := by
  intro entries
  exact ⟨_, rfl, ⟨by decide, by decide⟩, by decide +kernel, by decide +kernel, by decide +kernel⟩

end NativeTemplate

namespace CustomConverter

variable {c : CustomConverter} {t : CustomType}
  {resolve : CustomType → Except ConversionError CustomConversion}

theorem domainFilling_keys {name baseType : String} {conditions : List String} {filling : Filling}
    (h : c.domainFilling name baseType conditions = .ok filling) :
    filling.values.map Prod.fst = ["base", "checks"] := by
  unfold domainFilling at h
  simp only [bind_eq_ok] at h
  obtain ⟨_, -, _, -, _, -, h⟩ := h
  split at h
  · cases h
    rfl
  · split at h
    · cases h
      rfl
    · split at h <;> cases h <;> rfl

/-- The names that a template is filled in with, next to that of the type. -/
theorem filling_keys {filling : Filling} (h : c.filling resolve t = .ok filling) :
    filling.values.map Prod.fst ∈
      [["values"], ["fields"], ["base", "checks"], ["element"], ["base"]] := by
  unfold CustomConverter.filling at h
  split at h
  -- one case for each sort of type, in the order of the definition
  · split at h
    · cases h
    · obtain ⟨_, -, ⟨⟩⟩ := bind_eq_ok.1 h
      simp
  · split at h
    · cases h
    · simp only [bind_eq_ok] at h
      obtain ⟨_, -, _, -, ⟨⟩⟩ := h
      simp
  · rw [domainFilling_keys h]
    simp
  · simp only [bind_eq_ok] at h
    obtain ⟨_, -, _, -, ⟨⟩⟩ := h
    simp
  · split at h
    · cases h
    · obtain ⟨_, -, ⟨⟩⟩ := bind_eq_ok.1 h
      simp
  · obtain ⟨_, -, ⟨⟩⟩ := bind_eq_ok.1 h
    simp
  · cases h

/-- They have no braces, and none of them is listed twice. -/
theorem areKeys_filling {filling : Filling} (h : c.filling resolve t = .ok filling) :
    NativeTemplate.AreKeys (("name", t.name) :: filling.values) := by
  have hall : ∀ keys ∈ [["values"], ["fields"], ["base", "checks"], ["element"], ["base"]],
      (∀ key ∈ "name" :: keys, NativeTemplate.IsKey key) ∧ ("name" :: keys).Nodup := by decide
  obtain ⟨hkeys, hnodup⟩ := hall _ (filling_keys h)
  rw [← List.map_cons (f := Prod.fst) (a := ("name", t.name))] at hkeys hnodup
  exact ⟨fun entry hmem => hkeys entry.1 (List.mem_map_of_mem hmem), hnodup⟩

/-- **A native type has its values as they are** if no name comes to stand in them: in the statement
that creates it or in its spelling. -/
theorem asNative_filled {rendition : Rendition} (h : c.asNative resolve t = .ok rendition) :
    ∃ filling, c.filling resolve t = .ok filling ∧
      (filling.template.AreKept (("name", t.name) :: filling.values) →
        rendition.definition.or rendition.convertedType =
          some (filling.template.filled (("name", t.name) :: filling.values))) := by
  obtain ⟨filling, hfilling, ⟨⟩⟩ := bind_eq_ok.1 h
  refine ⟨filling, hfilling, fun hkept => ?_⟩
  rw [← NativeTemplate.render_of_areKept (areKeys_filling hfilling) hkept]
  cases hcreates : filling.template.isStatement <;> simp

end CustomConverter

end SchemaConversion
