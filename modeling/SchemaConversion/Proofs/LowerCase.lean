import SchemaConversion.Text.Blank
import SchemaConversion.Text.LowerCase
import Mathlib.Data.List.Nodup

/-!
# Disregarding case

References are looked up without regard to the case of ASCII letters, while the names of a catalog
are told apart in full lower case. The first comparison is the finer one:

> `lowerCase_eq`: texts that differ only in the case of ASCII letters are the same in lower case.

> `equalIgnoringCase_iff_of_ascii`: for texts in ASCII the two comparisons do not differ.

Full lower-casing looks at the neighbours of a capital sigma, so it is not enough that each letter
has the same image: a letter must also be a neighbour with a case in both of its forms.

Spellings are compared in lower case and without the blanks around them, and what has been brought
into that form has it:

> `lowerCase_lowerCase`, `trim_lowerCase_trim`: doing so once more changes nothing.

The images of characters are listed in runs. No image lies in a run again, and none is a capital
sigma or a blank.
-/

namespace SchemaConversion.Text

/-- Nothing that lower-casing looks at tells an ASCII character from its lower case. -/
theorem toLower_ascii : ∀ n < 128,
    lowerChar (Char.ofNat n).toLower = lowerChar (Char.ofNat n) ∧
      ((Char.ofNat n).toLower = 'Σ' ↔ Char.ofNat n = 'Σ') ∧
      inRanges casedRanges (Char.ofNat n).toLower.toNat =
        inRanges casedRanges (Char.ofNat n).toNat ∧
      inRanges caseIgnorableRanges (Char.ofNat n).toLower.toNat =
        inRanges caseIgnorableRanges (Char.ofNat n).toNat := by
  decide +kernel

/-- Beyond ASCII nothing has an ASCII lower case. -/
theorem toLower_eq_self {c : Char} (h : 128 ≤ c.toNat) : c.toLower = c := by
  unfold Char.toLower
  rw [dif_neg]
  rintro ⟨-, hle⟩
  have hupper : c.toNat ≤ 90 := UInt32.le_iff_toNat_le.1 hle
  omega

/-- Nothing that lower-casing looks at tells a character from its ASCII lower case. -/
theorem toLower_alike (c : Char) :
    lowerChar c.toLower = lowerChar c ∧ (c.toLower = 'Σ' ↔ c = 'Σ') ∧
      inRanges casedRanges c.toLower.toNat = inRanges casedRanges c.toNat ∧
      inRanges caseIgnorableRanges c.toLower.toNat =
        inRanges caseIgnorableRanges c.toNat := by
  by_cases hascii : c.toNat < 128
  · have halike := toLower_ascii c.toNat hascii
    rw [Char.ofNat_toNat] at halike
    exact halike
  · rw [toLower_eq_self (Nat.le_of_not_lt hascii)]
    exact ⟨rfl, Iff.rfl, rfl, rfl⟩

/-- Whether a letter comes next does not depend on the case of ASCII letters. -/
theorem startsCased_map_toLower (l : List Char) :
    startsCased (l.map Char.toLower) = startsCased l := by
  induction l with
  | nil => rfl
  | cons c rest ih =>
    obtain ⟨-, -, hcased, hignorable⟩ := toLower_alike c
    rw [List.map_cons, startsCased, startsCased, hcased, hignorable, ih]

/-- Neither does the lower case of what follows some characters. -/
theorem lowerAfter_map_toLower (before l : List Char) :
    lowerAfter (before.map Char.toLower) (l.map Char.toLower) = lowerAfter before l := by
  induction l generalizing before with
  | nil => rfl
  | cons c rest ih =>
    -- what a sigma becomes depends on the characters on both sides
    obtain ⟨hlower, hsigma, -, -⟩ := toLower_alike c
    have hends : endsWord (before.map Char.toLower) (rest.map Char.toLower) =
        endsWord before rest := by
      unfold endsWord
      rw [startsCased_map_toLower, startsCased_map_toLower]
    have hrest := ih (c :: before)
    rw [List.map_cons] at hrest
    rw [List.map_cons, lowerAfter, lowerAfter, hends, hlower, hrest]
    simp only [hsigma]

/-- To put ASCII letters in lower case first changes nothing about the full lower case. -/
theorem lowerCase_asciiLower (s : String) : lowerCase (asciiLower s) = lowerCase s := by
  unfold lowerCase lowerChars asciiLower
  rw [String.toList_ofList]
  exact congrArg String.ofList (lowerAfter_map_toLower [] s.toList)

/-- **Equality up to the case of ASCII letters is the finer comparison.** -/
theorem lowerCase_eq {a b : String} (h : equalIgnoringCase a b = true) :
    lowerCase a = lowerCase b := by
  rw [← lowerCase_asciiLower a, ← lowerCase_asciiLower b, eq_of_beq h]

/-- What differs in lower case differs in more than the case of ASCII letters. -/
theorem nodup_asciiLower {names : List String} (h : (names.map lowerCase).Nodup) :
    (names.map asciiLower).Nodup := by
  refine List.Nodup.of_map lowerCase ?_
  have hboth : lowerCase ∘ asciiLower = lowerCase := funext lowerCase_asciiLower
  rw [List.map_map, hboth]
  exact h

/-! ## Texts in ASCII -/

/-- A text of ASCII characters only. -/
def IsAscii (s : String) : Prop := ∀ c ∈ s.toList, c.toNat < 128

instance (s : String) : Decidable (IsAscii s) := inferInstanceAs (Decidable (∀ c ∈ _, _))

/-- What is left of a text in ASCII when it is trimmed is in ASCII. -/
theorem IsAscii.trim {s : String} (h : IsAscii s) : IsAscii (trim s) := by
  intro c hc
  unfold Text.trim trimChars dropBlanks at hc
  rw [String.toList_ofList, List.mem_reverse] at hc
  have hreversed := (List.dropWhile_suffix isBlank).subset hc
  rw [List.mem_reverse] at hreversed
  exact h c ((List.dropWhile_suffix isBlank).subset hreversed)

/-- In ASCII each letter is put in lower case for itself, whatever stands before. -/
theorem lowerAfter_of_ascii (before : List Char) {l : List Char} (h : ∀ c ∈ l, c.toNat < 128) :
    lowerAfter before l = l.map Char.toLower := by
  induction l generalizing before with
  | nil => rfl
  | cons c rest ih =>
    have hc : c.toNat < 128 := h c List.mem_cons_self
    have hsigma : c ≠ 'Σ' := by
      rintro rfl
      exact absurd hc (by decide)
    rw [lowerAfter, if_neg hsigma, ih _ fun d hd => h d (List.mem_cons_of_mem c hd)]
    unfold lowerChar
    rw [if_pos hc]
    rfl

/-- The lower case of a text in ASCII is its ASCII lower case. -/
theorem lowerCase_of_ascii {s : String} (h : IsAscii s) : lowerCase s = asciiLower s := by
  unfold lowerCase lowerChars asciiLower
  rw [lowerAfter_of_ascii [] h]

/-- **In ASCII the two comparisons are the same.** -/
theorem equalIgnoringCase_iff_of_ascii {a b : String} (ha : IsAscii a) (hb : IsAscii b) :
    equalIgnoringCase a b = true ↔ lowerCase a = lowerCase b := by
  unfold equalIgnoringCase
  rw [beq_iff_eq, lowerCase_of_ascii ha, lowerCase_of_ascii hb]

example : lowerCase "ΣΑΣ" = "σας" ∧ lowerCase "ΣAΣ" = lowerCase "ΣaΣ" := by decide

/-! ## Lower case once more -/

/-- The images of a run lie outside an interval. -/
def avoids (run : Nat × Nat × Nat × Nat) (first last : Nat) : Bool :=
  last.blt run.2.2.2 || (run.2.2.2 + (run.2.1 - run.1)).blt first

/-- The images of a run are no members of another: they lie outside of it, or they have one parity
and its members have the other. -/
def apart (run other : Nat × Nat × Nat × Nat) : Bool :=
  avoids run other.1 other.2.1 ||
    ((run.2.2.1 == 2 || run.1 == run.2.1) && other.2.2.1 == 2 &&
      (run.2.2.2 + other.1) % 2 == 1)

/-- The interval lies before the first image or behind the last one. -/
theorem avoids_iff {run : Nat × Nat × Nat × Nat} {first last : Nat} :
    avoids run first last = true ↔
      last < run.2.2.2 ∨ run.2.2.2 + (run.2.1 - run.1) < first := by
  unfold avoids
  rw [Bool.or_eq_true, Nat.blt_eq, Nat.blt_eq]

/-- No run has an image that is a member of some run. -/
theorem lowerCaseRuns_apart :
    (lowerCaseRuns.all fun run => lowerCaseRuns.all fun other => apart run other) = true := by
  decide +kernel

/-- The images of runs are characters, and none of them is treated in a special way or is blank. -/
theorem lowerCaseRuns_avoid : (lowerCaseRuns.all fun run =>
    avoids run 0xD800 0xDFFF && (run.2.2.2 + (run.2.1 - run.1)).blt 0x110000 &&
      avoids run 0x130 0x130 && avoids run 0x3A3 0x3A3 &&
      blankRanges.all fun blank => avoids run blank.1 blank.2) = true := by
  decide +kernel

/-- The only image in ASCII is the small k, that of the sign for kelvins. -/
theorem lowerCaseRuns_ascii : (lowerCaseRuns.all fun run =>
    avoids run 0 127 || (run.1 == run.2.1 && run.2.2.2 == 107)) = true := by
  decide +kernel

/-- What has an image is a member of a run. -/
theorem runImage?_eq_some {runs : List (Nat × Nat × Nat × Nat)} {n m : Nat}
    (h : runImage? runs n = some m) :
    ∃ run ∈ runs, run.1 ≤ n ∧ n ≤ run.2.1 ∧ (n - run.1) % run.2.2.1 = 0 ∧
      m = run.2.2.2 + (n - run.1) := by
  induction runs with
  | nil => cases h
  | cons run rest ih =>
    obtain ⟨first, last, step, image⟩ := run
    unfold runImage? at h
    split at h
    · cases h
    · next hfirst =>
      split at h
      · next hlast =>
        split at h
        · next hstep =>
          exact ⟨_, List.mem_cons_self, Nat.le_of_not_lt hfirst, hlast, hstep,
            (Option.some.inj h).symm⟩
        · cases h
      · obtain ⟨run, hrun, hmember⟩ := ih h
        exact ⟨run, List.mem_cons_of_mem _ hrun, hmember⟩

/-- **No image has an image.** -/
theorem runImage?_image {n m : Nat} (h : runImage? lowerCaseRuns n = some m) :
    runImage? lowerCaseRuns m = none := by
  obtain ⟨run, hrun, hfirst, hlast, hstep, hm⟩ := runImage?_eq_some h
  rw [Option.eq_none_iff_forall_ne_some]
  intro k hk
  obtain ⟨other, hother, hfirst', hlast', hstep', -⟩ := runImage?_eq_some hk
  have hapart := List.all_eq_true.1 (List.all_eq_true.1 lowerCaseRuns_apart run hrun) other hother
  unfold apart at hapart
  rcases Bool.or_eq_true_iff.1 hapart with havoids | hparity
  · -- the images lie outside the other run
    have houtside := avoids_iff.1 havoids
    omega
  · simp only [Bool.and_eq_true, Bool.or_eq_true, beq_iff_eq] at hparity
    -- capitals and small letters alternate in both runs, and the images are the small ones
    obtain ⟨⟨htwo | hsingle, htwo'⟩, hparity⟩ := hparity
    · rw [htwo] at hstep
      rw [htwo'] at hstep'
      omega
    · rw [htwo'] at hstep'
      omega

/-- What is in ascending ranges is in one of them. -/
theorem exists_range {ranges : List (Nat × Nat)} {n : Nat} (h : inRanges ranges n = true) :
    ∃ range ∈ ranges, range.1 ≤ n ∧ n ≤ range.2 := by
  induction ranges with
  | nil => cases h
  | cons range rest ih =>
    simp only [inRanges, Bool.and_eq_true, Bool.or_eq_true, decide_eq_true_eq] at h
    obtain ⟨hfirst, hlast | hrest⟩ := h
    · exact ⟨range, List.mem_cons_self, hfirst, hlast⟩
    · obtain ⟨later, hlater, hmember⟩ := ih hrest
      exact ⟨later, List.mem_cons_of_mem range hlater, hmember⟩

/-- An image is a character, outside what is treated in a special way, and not blank. -/
theorem image_avoids {n m : Nat} (h : runImage? lowerCaseRuns n = some m) :
    (m < 0xD800 ∨ 0xDFFF < m ∧ m < 0x110000) ∧ m ≠ 0x130 ∧ m ≠ 0x3A3 ∧
      inRanges blankRanges m = false ∧ (128 ≤ m ∨ m = 107) := by
  obtain ⟨run, hrun, hfirst, hlast, -, hm⟩ := runImage?_eq_some h
  have hspecial := List.all_eq_true.1 lowerCaseRuns_avoid run hrun
  have hascii := List.all_eq_true.1 lowerCaseRuns_ascii run hrun
  simp only [Bool.and_eq_true, Bool.or_eq_true, beq_iff_eq, avoids_iff, List.all_eq_true,
    Nat.blt_eq] at hspecial hascii
  obtain ⟨⟨⟨⟨hsurrogate, hlimit⟩, hdotted⟩, hsigma⟩, hblank⟩ := hspecial
  refine ⟨by omega, by omega, by omega, ?_, ?_⟩
  · -- no range of blanks meets the images
    by_contra hin
    obtain ⟨blank, hmem, hrange⟩ := exists_range (by simpa using hin)
    have houtside := hblank blank hmem
    omega
  · omega

/-- A character that lower-casing leaves as it is, wherever it stands. -/
def IsLower (c : Char) : Prop := c ≠ 'Σ' ∧ lowerChar c = [c]

/-- What becomes of a character is in lower case, and it is not blank if the character is not. -/
structure IsLowered (c d : Char) : Prop where
  isLower : IsLower d
  visible : isBlank c = false → isBlank d = false

/-- A character in lower case that is not blank may stand for any other. -/
theorem isLowered_of_visible {c d : Char} (hlower : d ≠ 'Σ' ∧ lowerChar d = [d])
    (hvisible : isBlank d = false) : IsLowered c d :=
  ⟨hlower, fun _ => hvisible⟩

/-- The lower case of an ASCII character is one, is blank if that is, and has itself for its lower
case. -/
theorem toLower_toLower_ascii : ∀ n < 128,
    isBlank (Char.ofNat n).toLower = isBlank (Char.ofNat n) ∧
      (Char.ofNat n).toLower.toNat < 128 ∧
      (Char.ofNat n).toLower.toLower = (Char.ofNat n).toLower := by
  decide +kernel

/-- An ASCII character becomes one in lower case. -/
theorem isLowered_of_ascii {c : Char} (h : c.toNat < 128) : IsLowered c c.toLower := by
  obtain ⟨hblank, hascii, htwice⟩ := toLower_toLower_ascii c.toNat h
  rw [Char.ofNat_toNat] at hblank hascii htwice
  refine ⟨⟨?_, ?_⟩, fun hc => hblank.trans hc⟩
  · intro hsigma
    rw [hsigma] at hascii
    exact absurd hascii (by decide)
  · unfold lowerChar
    rw [if_pos hascii, htwice]

/-- A character in a run becomes its image, and this is in lower case. -/
theorem isLowered_image {c : Char} {m : Nat} (h : runImage? lowerCaseRuns c.toNat = some m) :
    IsLowered c (Char.ofNat m) := by
  obtain ⟨hvalid, hdotted, hsigma, hblank, hrange⟩ := image_avoids h
  have htoNat : (Char.ofNat m).toNat = m := by
    unfold Char.ofNat
    rw [dif_pos hvalid]
    rfl
  have hne {d : Char} (hd : m ≠ d.toNat) : Char.ofNat m ≠ d := by
    rintro rfl
    exact hd htoNat.symm
  refine ⟨⟨hne (d := 'Σ') hsigma, ?_⟩, fun _ => ?_⟩
  · rcases hrange with hge | rfl
    · -- beyond ASCII: no image has an image
      unfold lowerChar
      rw [htoNat, if_neg (by omega), if_neg (hne (d := '\u0130') hdotted), runImage?_image h]
      rfl
    · -- in ASCII there is the small k alone
      decide
  · unfold isBlank
    rw [htoNat, hblank]

/-- **A character becomes characters in lower case.** -/
theorem isLowered_of_mem {c d : Char} (hd : d ∈ lowerChar c) : IsLowered c d := by
  unfold lowerChar at hd
  split at hd
  · next hascii =>
    rw [List.mem_singleton.1 hd]
    exact isLowered_of_ascii hascii
  · next hascii =>
    split at hd
    -- a capital i with a dot becomes two characters
    · rcases List.mem_pair.1 hd with rfl | rfl
      · exact isLowered_of_visible (by decide +kernel) (by decide +kernel)
      · exact isLowered_of_visible (by decide +kernel) (by decide +kernel)
    · -- any other character becomes its image, or stays as it is if it has none
      next hdotted =>
      rw [List.mem_singleton.1 hd]
      cases himage : runImage? lowerCaseRuns c.toNat with
      | some m => exact isLowered_image himage
      | none =>
        -- a capital sigma is in a run, so a character without an image is none
        have hsigma : c ≠ 'Σ' := by
          rintro rfl
          exact absurd himage (by decide +kernel)
        refine ⟨⟨hsigma, ?_⟩, id⟩
        show lowerChar c = [c]
        unfold lowerChar
        rw [if_neg hascii, if_neg hdotted, himage]
        rfl

/-- What a character becomes, also if it is a capital sigma. -/
theorem isLowered_form {c d : Char} {ends : Bool}
    (hd : d ∈ if c = 'Σ' then [if ends then 'ς' else 'σ'] else lowerChar c) : IsLowered c d := by
  split at hd
  · rw [List.mem_singleton.1 hd]
    cases ends with
    | false => exact isLowered_of_visible (by decide +kernel) (by decide +kernel)
    | true => exact isLowered_of_visible (by decide +kernel) (by decide +kernel)
  · exact isLowered_of_mem hd

/-- What comes out of lower-casing is in lower case, character by character. -/
theorem isLower_of_mem_lowerAfter {before l : List Char} {d : Char} (hd : d ∈ lowerAfter before l) :
    IsLower d := by
  induction l generalizing before with
  | nil => cases hd
  | cons c rest ih =>
    rw [lowerAfter] at hd
    rcases List.mem_append.1 hd with hform | hrest
    · exact (isLowered_form hform).isLower
    · exact ih hrest

/-- Characters in lower case stay as they are. -/
theorem lowerAfter_of_isLower (before : List Char) {l : List Char} (h : ∀ c ∈ l, IsLower c) :
    lowerAfter before l = l := by
  induction l generalizing before with
  | nil => rfl
  | cons c rest ih =>
    obtain ⟨hsigma, hlower⟩ := h c List.mem_cons_self
    rw [lowerAfter, if_neg hsigma, hlower, ih _ fun d hd => h d (List.mem_cons_of_mem c hd)]
    rfl

/-- **A text in lower case stays as it is.** -/
theorem lowerCase_lowerCase (s : String) : lowerCase (lowerCase s) = lowerCase s := by
  unfold lowerCase lowerChars
  rw [String.toList_ofList, lowerAfter_of_isLower [] fun _ hd => isLower_of_mem_lowerAfter hd]

/-! ## The ends of a text in lower case -/

/-- No character disappears in lower case. -/
theorem lowerChar_ne_nil (c : Char) : lowerChar c ≠ [] := by
  unfold lowerChar
  split
  · exact List.cons_ne_nil _ _
  · split <;> exact List.cons_ne_nil _ _

theorem form_ne_nil (c : Char) (ends : Bool) :
    (if c = 'Σ' then [if ends then 'ς' else 'σ'] else lowerChar c) ≠ [] := by
  split
  · exact List.cons_ne_nil _ _
  · exact lowerChar_ne_nil c

theorem lowerAfter_ne_nil (before : List Char) (c : Char) (rest : List Char) :
    lowerAfter before (c :: rest) ≠ [] := by
  rw [lowerAfter]
  exact List.append_ne_nil_of_left_ne_nil (form_ne_nil c _) _

/-- A text in lower case begins with what its first character becomes. -/
theorem head?_lowerAfter {before l : List Char} {d : Char}
    (hd : (lowerAfter before l).head? = some d) : ∃ c, l.head? = some c ∧ IsLowered c d := by
  cases l with
  | nil => cases hd
  | cons c rest =>
    rw [lowerAfter, List.head?_append_of_ne_nil _ (form_ne_nil c _)] at hd
    exact ⟨c, rfl, isLowered_form (List.mem_of_head? hd)⟩

/-- A text in lower case ends with what its last character becomes. -/
theorem getLast?_lowerAfter {before l : List Char} {d : Char}
    (hd : (lowerAfter before l).getLast? = some d) : ∃ c, l.getLast? = some c ∧ IsLowered c d := by
  induction l generalizing before with
  | nil => cases hd
  | cons c rest ih =>
    cases rest with
    | nil =>
      rw [lowerAfter, lowerAfter, List.append_nil] at hd
      exact ⟨c, rfl, isLowered_form (List.mem_of_getLast? hd)⟩
    | cons next rest =>
      rw [lowerAfter, List.getLast?_append_of_ne_nil _ (lowerAfter_ne_nil _ _ _)] at hd
      rw [List.getLast?_cons_cons]
      exact ih hd

/-- A text without blanks at its ends. -/
def IsTrimmed (l : List Char) : Prop :=
  (∀ c ∈ l.head?, isBlank c = false) ∧ ∀ c ∈ l.getLast?, isBlank c = false

theorem dropBlanks_eq_self {l : List Char} (h : ∀ c ∈ l.head?, isBlank c = false) :
    dropBlanks l = l := by
  unfold dropBlanks
  cases l with
  | nil => rfl
  | cons c rest =>
    have hc : isBlank c = false := h c rfl
    exact List.dropWhile_cons_of_neg (by simp [hc])

theorem head?_dropBlanks (l : List Char) : ∀ c ∈ (dropBlanks l).head?, isBlank c = false := by
  intro c hc
  have hhead := List.head?_dropWhile_not isBlank l
  unfold dropBlanks at hc
  rw [hc] at hhead
  exact hhead

/-- What is left at the end of a text is its end. -/
theorem getLast?_dropBlanks (l : List Char) :
    ∀ c ∈ (dropBlanks l).getLast?, l.getLast? = some c := by
  intro c hc
  obtain ⟨front, hfront⟩ := List.dropWhile_suffix (l := l) isBlank
  unfold dropBlanks at hc
  rw [← hfront, List.getLast?_append, hc]
  rfl

/-- A text that has been trimmed has no blanks at its ends. -/
theorem isTrimmed_trimChars (l : List Char) : IsTrimmed (trimChars l) := by
  unfold IsTrimmed trimChars
  rw [List.head?_reverse, List.getLast?_reverse]
  refine ⟨fun c hc => ?_, head?_dropBlanks _⟩
  have hlast := getLast?_dropBlanks _ c hc
  rw [List.getLast?_reverse] at hlast
  exact head?_dropBlanks l c hlast

/-- What is left between the blanks at the ends of a text is a part of it. -/
theorem trimChars_isInfix (l : List Char) : trimChars l <:+: l := by
  have hfront : dropBlanks l <:+ l := List.dropWhile_suffix isBlank
  have hback : dropBlanks (dropBlanks l).reverse <:+ (dropBlanks l).reverse :=
    List.dropWhile_suffix isBlank
  have hprefix : trimChars l <+: dropBlanks l := by
    rw [← List.reverse_suffix]
    unfold trimChars
    rw [List.reverse_reverse]
    exact hback
  exact hprefix.isInfix.trans hfront.isInfix

/-- A text without blanks at its ends stays as it is. -/
theorem trimChars_eq_self {l : List Char} (h : IsTrimmed l) : trimChars l = l := by
  have hreversed : ∀ c ∈ l.reverse.head?, isBlank c = false := by
    rw [List.head?_reverse]
    exact h.2
  unfold trimChars
  rw [dropBlanks_eq_self h.1, dropBlanks_eq_self hreversed, List.reverse_reverse]

/-- Blanks at the ends come from blanks at the ends. -/
theorem IsTrimmed.lowerAfter {l : List Char} (h : IsTrimmed l) (before : List Char) :
    IsTrimmed (lowerAfter before l) := by
  constructor
  · intro d hd
    obtain ⟨c, hc, hlowered⟩ := head?_lowerAfter hd
    exact hlowered.visible (h.1 c hc)
  · intro d hd
    obtain ⟨c, hc, hlowered⟩ := getLast?_lowerAfter hd
    exact hlowered.visible (h.2 c hc)

/-- **A trimmed text in lower case stays as it is when it is trimmed.** -/
theorem trim_lowerCase_trim (s : String) : trim (lowerCase (trim s)) = lowerCase (trim s) := by
  have htrimmed : IsTrimmed (lowerChars (trim s).toList) := by
    unfold trim lowerChars
    rw [String.toList_ofList]
    exact (isTrimmed_trimChars s.toList).lowerAfter []
  show String.ofList (trimChars (lowerCase (trim s)).toList) = _
  unfold lowerCase
  rw [String.toList_ofList, trimChars_eq_self htrimmed]

end SchemaConversion.Text
