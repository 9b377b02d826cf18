import SchemaConversion.Proofs.LowerCase

/-!
# Lower case, letter by letter

What becomes of a character in lower case depends on what stands around it, so a text in lower case
is not put together from its parts in lower case. It is put together from what they may become:

> `Lowers`: a text in lower case is one of the texts that come from the forms of its characters,
> whatever stands around them (`lowers_lowerAfter`), and such texts can be parted and joined.

Some characters are the form of nothing but themselves and their capitals, `IsPlain`. A word of
such letters comes from the same word in any case, and the blanks next to it from blanks:

> `Lowers.before_plain`, `Lowers.of_plain`, `Lowers.eq_of_plain`: plain letters stand in lower case
> where the same letters stand in the text.

> `Lowers.opens_iff`, `Lowers.closes_iff`: what stands behind them begins with a blank or a
> parenthesis if it does so in lower case, and what stands before them ends with a blank.
-/

namespace SchemaConversion.Text

/-- What a character can become in lower case, wherever it stands. -/
def IsForm (c : Char) (form : List Char) : Prop :=
  ∃ ends : Bool, form = if c = 'Σ' then [if ends then 'ς' else 'σ'] else lowerChar c

/-- A text that another can become in lower case, wherever it stands. -/
inductive Lowers : List Char → List Char → Prop
  | nil : Lowers [] []
  | cons {c : Char} {form l lower : List Char} :
    IsForm c form → Lowers l lower → Lowers (c :: l) (form ++ lower)

/-- A text in lower case is one that it can become. -/
theorem lowers_lowerAfter (before l : List Char) : Lowers l (lowerAfter before l) := by
  induction l generalizing before with
  | nil => exact .nil
  | cons c rest ih => exact .cons ⟨endsWord before rest, rfl⟩ (ih (c :: before))

/-- The characters that nothing becomes but themselves and their capitals. -/
def IsPlain (d : Char) : Prop := d ∈ "execut(".toList

instance (d : Char) : Decidable (IsPlain d) := inferInstanceAs (Decidable (_ ∈ _))

theorem IsPlain.toNat {d : Char} (h : IsPlain d) : d.toNat < 128 ∧ d.toNat ≠ 107 := by
  have hall : "execut(".toList.all (fun d => d.toNat < 128 && d.toNat ≠ 107) = true := by decide
  simpa using List.all_eq_true.1 hall d h

theorem blank_stays : ∀ range ∈ blankRanges, ∀ k ≤ range.2 - range.1,
    Char.ofNat (range.1 + k) ≠ 'Σ' ∧
      lowerChar (Char.ofNat (range.1 + k)) = [Char.ofNat (range.1 + k)] := by
  decide +kernel

variable {c d : Char} {form lower a b k : List Char}

theorem IsForm.ne_nil (h : IsForm c form) : form ≠ [] := by
  obtain ⟨ends, rfl⟩ := h
  exact form_ne_nil c ends

/-- Blanks, and nothing else, become blanks. -/
theorem IsForm.isBlank_eq (h : IsForm c form) (hd : d ∈ form) : isBlank d = isBlank c := by
  obtain ⟨ends, rfl⟩ := h
  cases hc : isBlank c with
  | false => exact (isLowered_form hd).visible hc
  | true =>
    obtain ⟨range, hrange, hfirst, hlast⟩ := exists_range hc
    have hstays := blank_stays range hrange (c.toNat - range.1) (by omega)
    rw [Nat.add_sub_cancel' hfirst, Char.ofNat_toNat] at hstays
    rw [if_neg hstays.1, hstays.2, List.mem_singleton] at hd
    rw [hd, hc]

/-- A plain character comes from itself or its capital alone. -/
theorem IsForm.eq_of_plain (h : IsForm c form) (hd : d ∈ form) (hplain : IsPlain d) :
    form = [d] ∧ c.toLower = d := by
  obtain ⟨ends, rfl⟩ := h
  obtain ⟨hascii, hk⟩ := hplain.toNat
  split at hd
  -- what a capital sigma becomes is not plain
  · exfalso
    have hother : ¬IsPlain 'ς' ∧ ¬IsPlain 'σ' := by decide
    rw [List.mem_singleton.1 hd] at hplain
    cases ends with
    | false => exact hother.2 hplain
    | true => exact hother.1 hplain
  · next hsigma =>
    rw [if_neg hsigma]
    unfold lowerChar at hd ⊢
    split at hd
    · next hc =>
      rw [if_pos hc, List.mem_singleton.1 hd]
      exact ⟨rfl, rfl⟩
    · next hc =>
      split at hd
      -- neither are the two characters that a capital i with a dot becomes
      · exfalso
        rcases List.mem_pair.1 hd with rfl | rfl <;> exact absurd hplain (by decide)
      · exfalso
        rw [List.mem_singleton] at hd
        cases himage : runImage? lowerCaseRuns c.toNat with
        | none =>
          rw [himage] at hd
          rw [show d = c from hd] at hascii
          exact hc hascii
        | some m =>
          -- in ASCII the images have the small k alone, and this is not plain
          obtain ⟨hvalid, -, -, -, hrange⟩ := image_avoids himage
          have hm : d.toNat = m := by
            rw [himage] at hd
            rw [show d = Char.ofNat m from hd]
            unfold Char.ofNat
            rw [dif_pos hvalid]
            rfl
          omega

/-- What is a plain character but for its case becomes the plain character. -/
theorem IsForm.of_plain (h : IsForm c form) (hplain : IsPlain c.toLower) : form = [c.toLower] := by
  obtain ⟨ends, rfl⟩ := h
  have hascii : c.toNat < 128 := by
    by_contra hnot
    rw [toLower_eq_self (Nat.le_of_not_lt hnot)] at hplain
    exact hnot hplain.toNat.1
  have hsigma : c ≠ 'Σ' := by
    rintro rfl
    exact absurd hascii (by decide)
  unfold lowerChar
  rw [if_neg hsigma, if_pos hascii]

theorem toLower_eq_parenthesis : c.toLower = '(' ↔ c = '(' := by
  constructor
  · intro h
    -- beyond ASCII the lower case meant here changes nothing, so that ASCII can be searched
    have hall : ∀ n < 128, (Char.ofNat n).toLower = '(' → Char.ofNat n = '(' := by decide +kernel
    by_cases hascii : c.toNat < 128
    · have hc := hall c.toNat hascii
      rw [Char.ofNat_toNat] at hc
      exact hc h
    · rwa [toLower_eq_self (Nat.le_of_not_lt hascii)] at h
  · rintro rfl
    rfl

theorem Lowers.nil_iff (h : Lowers l lower) : lower = [] ↔ l = [] := by
  cases h with
  | nil => simp
  | cons hform _ => simp [hform.ne_nil]

/-- What stands before a place and behind it is put in lower case apart. -/
theorem Lowers.of_append (h : Lowers (a ++ b) lower) :
    ∃ front back, lower = front ++ back ∧ Lowers a front ∧ Lowers b back := by
  induction a generalizing lower with
  | nil => exact ⟨[], lower, rfl, .nil, h⟩
  | cons c a ih =>
    cases h with
    | cons hform hrest =>
      obtain ⟨front, back, rfl, hfront, hback⟩ := ih hrest
      exact ⟨_, back, (List.append_assoc _ _ _).symm, .cons hform hfront, hback⟩

/-- Before a plain character in lower case, the text itself can be parted. -/
theorem Lowers.before_plain (h : Lowers l (a ++ d :: b)) (hplain : IsPlain d) :
    ∃ front back, l = front ++ back ∧ Lowers front a ∧ Lowers back (d :: b) := by
  generalize hlower : a ++ d :: b = lower at h
  induction h generalizing a with
  | nil => cases (List.append_eq_nil_iff.1 hlower).2
  | @cons c form l lower hform hrest ih =>
    rcases List.append_eq_append_iff.1 hlower with ⟨more, rfl, heq⟩ | ⟨more, rfl, heq⟩
    · cases more with
      | nil =>
        rw [List.append_nil] at hform
        rw [List.nil_append] at heq
        exact ⟨[c], l, rfl, by simpa using Lowers.cons hform .nil, heq ▸ hrest⟩
      | cons e more =>
        -- the plain character is one of what the first character becomes, hence all of it
        obtain ⟨rfl, rfl⟩ := List.cons.inj heq
        obtain ⟨hsingle, -⟩ := hform.eq_of_plain (by simp) hplain
        have hnone : a = [] := by
          cases a with
          | nil => rfl
          | cons f a => simp at hsingle
        subst hnone
        exact ⟨[], c :: l, rfl, .nil, .cons hform hrest⟩
    · obtain ⟨front, back, rfl, hfront, hback⟩ := ih heq.symm
      exact ⟨c :: front, back, rfl, .cons hform hfront, hback⟩

/-- Plain letters in lower case come from letters that are equal to them but for the case. -/
theorem Lowers.of_plain (hk : ∀ d ∈ k, IsPlain d) (h : Lowers l (k ++ b)) :
    ∃ letters rest, l = letters ++ rest ∧ letters.map Char.toLower = k ∧ Lowers rest b := by
  induction k generalizing l with
  | nil => exact ⟨[], l, rfl, rfl, h⟩
  | cons d k ih =>
    have hd := hk d List.mem_cons_self
    rw [List.cons_append] at h
    generalize hlower : d :: (k ++ b) = lower at h
    cases h with
    | nil => cases hlower
    | @cons c form rest lower hform hrest =>
      -- the first character becomes something, and that begins with the letter
      have hmem : d ∈ form := by
        cases form with
        | nil => exact absurd rfl hform.ne_nil
        | cons e form => rw [(List.cons.inj hlower).1]; exact List.mem_cons_self
      obtain ⟨rfl, hc⟩ := hform.eq_of_plain hmem hd
      rw [← show k ++ b = lower from (List.cons.inj hlower).2] at hrest
      obtain ⟨letters, more, rfl, hletters, hmore⟩ :=
        ih (fun e he => hk e (List.mem_cons_of_mem d he)) hrest
      exact ⟨c :: letters, more, rfl, by rw [List.map_cons, hc, hletters], hmore⟩

/-- Letters that are plain but for their case become plain letters. -/
theorem Lowers.eq_of_plain (h : Lowers l lower) (hplain : ∀ d ∈ l.map Char.toLower, IsPlain d) :
    lower = l.map Char.toLower := by
  induction h with
  | nil => rfl
  | cons hform _ ih =>
    rw [hform.of_plain (hplain _ (by simp)), ih fun d hd => hplain d (List.mem_cons_of_mem _ hd)]
    rfl

/-- A text in lower case begins with a blank or a parenthesis if the text does. -/
theorem Lowers.opens_iff (h : Lowers l lower) :
    (∀ d ∈ lower.head?, isBlank d = true ∨ d = '(') ↔
      ∀ c ∈ l.head?, isBlank c = true ∨ c = '(' := by
  cases h with
  | nil => rfl
  | @cons c form l lower hform _ =>
    cases form with
    | nil => exact absurd rfl hform.ne_nil
    | cons d form =>
      have hblank : isBlank d = isBlank c := hform.isBlank_eq List.mem_cons_self
      have hparenthesis : d = '(' ↔ c = '(' := by
        constructor
        · rintro rfl
          exact toLower_eq_parenthesis.1 (hform.eq_of_plain List.mem_cons_self (by decide)).2
        · rintro rfl
          exact (List.cons.inj (hform.of_plain (by decide))).1
      simp [hblank, hparenthesis]

/-- A text in lower case ends with a blank if the text does. -/
theorem Lowers.closes_iff (h : Lowers l lower) :
    (∀ d ∈ lower.getLast?, isBlank d = true) ↔ ∀ c ∈ l.getLast?, isBlank c = true := by
  induction h with
  | nil => rfl
  | @cons c form l lower hform hrest ih =>
    cases l with
    | nil =>
      -- the last character decides, by the end of what it becomes
      obtain rfl := hrest.nil_iff.2 rfl
      have hlast := List.getLast_mem hform.ne_nil
      rw [List.append_nil, List.getLast?_eq_some_getLast hform.ne_nil]
      simp [hform.isBlank_eq hlast]
    | cons e l =>
      have hne : lower ≠ [] := fun hnil => absurd (hrest.nil_iff.1 hnil) (List.cons_ne_nil e l)
      rw [List.getLast?_append_of_ne_nil _ hne, List.getLast?_cons_cons]
      exact ih

end SchemaConversion.Text
