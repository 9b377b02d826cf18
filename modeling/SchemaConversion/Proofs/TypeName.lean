import SchemaConversion.TypeName
import SchemaConversion.Proofs.Spacing
import Mathlib.Tactic.IntervalCases

/-!
# Normal forms of spellings

A spelling is brought into its normal form by joining its words with single spaces, putting it in
lower case and dropping the spaces at parentheses and commas. Afterwards there is nothing left to
do:

> `normalize_normalize`: a normal form is its own normal form.

Normal forms may be put one behind the other, and parts of one may be trimmed to be one again, as
may be what stands between parentheses (`IsNormal.append`, `IsNormal.trimChars`, `IsNormal.inside`).
So a type that is written with parameters from another spelling is in normal form, and it is taken
apart into what it was made of:

> `splitParameters_parameterized`: what stands around the parentheses and what stands in them.

The first of several numbers in parentheses is read if it is not too large
(`declaredBound?_of_numerals?`).
-/

namespace SchemaConversion.TypeName

open Text

/-- The pairs of characters that do not stand next to each other in a normal form. -/
def loosePairs : List (Char × Char) :=
  [(' ', ','), (',', ' '), (' ', ')'), ('(', ' '), (' ', '('), (' ', ' ')]

/-- A text in normal form. -/
structure IsNormal (l : List Char) : Prop extends IsSpaced loosePairs l where
  lower : ∀ c ∈ l, IsLower c

variable {a b l : List Char} {s t : String}

theorem tightenings_toList : tightenings.map (fun change => (change.1.toList, change.2.toList)) =
    [([' ', '('], ['(']), (['(', ' '], ['(']), ([' ', ')'], [')']), ([',', ' '], [',']),
      ([' ', ','], [','])] := by
  decide

/-- The steps one after the other. -/
theorem toList_normalize (s : String) : (normalize s).toList =
    replaceAll [' ', ','] [','] (replaceAll [',', ' '] [','] (replaceAll [' ', ')'] [')']
      (replaceAll ['(', ' '] ['('] (replaceAll [' ', '('] ['(']
        (lowerChars ([' '].intercalate (words s.toList))))))) := by
  have hfold (l : List Char) : tightenings.foldl
      (fun l change => replaceAll change.1.toList change.2.toList l) l =
        (tightenings.map fun change => (change.1.toList, change.2.toList)).foldl
          (fun l change => replaceAll change.1 change.2 l) l := by
    rw [List.foldl_map]
  unfold normalize
  rw [String.toList_ofList, hfold, tightenings_toList]
  simp only [List.foldl_cons, List.foldl_nil]

/-- The text behind the first steps: its words in lower case. -/
theorem isSpaced_lowered (s : List Char) :
    IsSpaced [(' ', ' ')] (lowerChars ([' '].intercalate (words s))) :=
  isSpaced_lowerAfter [] (isSpaced_words s)

/-- **Every pair is dropped in its turn.** -/
theorem isNormal_normalize (s : String) : IsNormal (normalize s).toList := by
  have hone : AreLoose [(' ', ' ')] := ⟨by simp, by simp⟩
  have hopen : Drops ' ' '(' '(' := ⟨by simp, by decide⟩
  have hinside : Drops '(' ' ' '(' := ⟨by simp, by decide⟩
  have hclose : Drops ' ' ')' ')' := ⟨by simp, by decide⟩
  have hcomma : Drops ',' ' ' ',' := ⟨by simp, by decide⟩
  have hbefore : Drops ' ' ',' ',' := ⟨by simp, by decide⟩
  -- each step adds a pair to those that are gone
  have htwo := hone.cons hopen
  have hthree := htwo.cons hinside
  have hfour := hthree.cons hclose
  have hfive := hfour.cons hcomma
  rw [toList_normalize]
  refine ⟨((((isSpaced_lowered s.toList).drop hopen hone).drop hinside htwo).drop hclose
    hthree).drop hcomma hfour |>.drop hbefore hfive, fun c hc => ?_⟩
  exact isLower_of_mem_lowerAfter
    (hopen.mem (hinside.mem (hclose.mem (hcomma.mem (hbefore.mem hc)))))

theorem areLoose_loosePairs : AreLoose loosePairs := ⟨by decide, by decide⟩

/-- A text in normal form is its own normal form. -/
theorem normalize_eq_self (h : IsNormal s.toList) : normalize s = s := by
  have hlower : lowerChars s.toList = s.toList := lowerAfter_of_isLower [] h.lower
  have hpair {p q : Char} (hpq : (p, q) ∈ loosePairs) (k : List Char) :
      replaceAll [p, q] k s.toList = s.toList := h.toIsSpaced.replaceAll_eq hpq k
  rw [← String.toList_inj, toList_normalize, intercalate_words areLoose_loosePairs h.toIsSpaced,
    hlower, hpair (by decide), hpair (by decide), hpair (by decide), hpair (by decide),
    hpair (by decide)]

/-- **A normal form is its own normal form.** -/
theorem normalize_normalize (s : String) : normalize (normalize s) = normalize s :=
  normalize_eq_self (isNormal_normalize s)

theorem isNormal_of_eq (h : normalize s = s) : IsNormal s.toList := h ▸ isNormal_normalize s

/-- Only the words of a spelling count. -/
theorem normalize_congr (h : words s.toList = words t.toList) : normalize s = normalize t := by
  unfold normalize
  rw [h]

/-! ## Parts of normal forms -/

/-- Normal forms may be put one behind the other. -/
theorem IsNormal.append (ha : IsNormal a) (hb : IsNormal b) : IsNormal (a ++ b) :=
  ⟨ha.toIsSpaced.append areLoose_loosePairs hb.toIsSpaced, fun c hc =>
    (List.mem_append.1 hc).elim (ha.lower c) (hb.lower c)⟩

/-- Normal forms may be joined by a space that is not dropped between them. -/
theorem IsNormal.join (ha : IsNormal a) (hb : IsNormal b) (hne : a ≠ []) (hne' : b ≠ [])
    (hlast : ∀ c ∈ a.getLast?, (c, ' ') ∉ loosePairs)
    (hfirst : ∀ d ∈ b.head?, (' ', d) ∉ loosePairs) : IsNormal (a ++ ' ' :: b) := by
  refine ⟨ha.toIsSpaced.join hb.toIsSpaced hne hne' hlast hfirst, fun c hc => ?_⟩
  rcases List.mem_append.1 hc with hc | hc
  · exact ha.lower c hc
  · rcases List.mem_cons.1 hc with rfl | hc
    · exact ⟨by decide, by decide⟩
    · exact hb.lower c hc

/-- A part of a normal form may be trimmed. -/
theorem IsNormal.trimChars (h : IsNormal l) (hpart : a <:+: l) : IsNormal (trimChars a) :=
  ⟨h.toIsSpaced.trimChars hpart, fun c hc =>
    h.lower c (((trimChars_isInfix a).trans hpart).subset hc)⟩

/-- What stands between parentheses in a normal form. -/
theorem IsNormal.inside {before after : List Char}
    (h : IsNormal (before ++ '(' :: (l ++ ')' :: after))) : IsNormal l := by
  -- what stands in the parentheses is part of the whole, so its blanks are spaces and its letters
  -- small
  have hmem {c : Char} (hc : c ∈ l) : c ∈ before ++ '(' :: (l ++ ')' :: after) := by simp [hc]
  obtain ⟨hopen, hrest⟩ := List.isChain_cons.1 (List.isChain_append.1 h.apart).2.1
  obtain ⟨hchain, -, hclose⟩ := List.isChain_append.1 hrest
  -- a blank at an end would be a space next to a parenthesis
  have hspace {c : Char} (hc : c ∈ l) (hne : c ≠ ' ') : isBlank c = false := by
    by_contra hblank
    exact hne (h.blank c (hmem hc) (by simpa using hblank))
  refine ⟨⟨fun c hc => h.blank c (hmem hc), ⟨fun c hc => hspace (List.mem_of_head? hc) ?_,
    fun c hc => hspace (List.mem_of_getLast? hc) ?_⟩, hchain⟩, fun c hc => h.lower c (hmem hc)⟩
  · rintro rfl
    refine hopen ' ' ?_ (by decide)
    cases l with
    | nil => cases hc
    | cons d l => exact hc
  · rintro rfl
    exact hclose ' ' hc ')' rfl (by decide)

/-! ## Parameters -/

/-- What may stand in the parentheses of a normal form. -/
structure IsParameters (l : List Char) : Prop extends IsNormal l where
  unclosed : ')' ∉ l

theorem IsParameters.append (ha : IsParameters a) (hb : IsParameters b) : IsParameters (a ++ b) :=
  ⟨ha.toIsNormal.append hb.toIsNormal, fun hc =>
    (List.mem_append.1 hc).elim ha.unclosed hb.unclosed⟩

theorem isParameters_comma : IsParameters [','] :=
  ⟨isNormal_of_eq (s := ",") (by decide +kernel), by decide⟩

theorem mem_digits_of_isDigit {c : Char} (h : c.isDigit = true) : c ∈ "0123456789".toList := by
  unfold Char.isDigit at h
  rw [Bool.and_eq_true, decide_eq_true_iff, decide_eq_true_iff] at h
  obtain ⟨hlow, hhigh⟩ : 48 ≤ c.toNat ∧ c.toNat ≤ 57 := h
  rw [← Char.ofNat_toNat c]
  interval_cases c.toNat <;> decide

/-- Digits may stand in parentheses. -/
theorem isParameters_of_isDigit (h : ∀ c ∈ l, c.isDigit = true) : IsParameters l := by
  have hplain : ("0123456789".toList.all fun c =>
      decide ((isBlank c = false ∧ c ≠ ')') ∧ c ≠ 'Σ' ∧ lowerChar c = [c])) = true := by decide
  have hdigit (c : Char) (hc : c ∈ l) :=
    of_decide_eq_true (List.all_eq_true.1 hplain c (mem_digits_of_isDigit (h c hc)))
  exact ⟨⟨isSpaced_of_isVisible areLoose_loosePairs fun c hc => (hdigit c hc).1.1,
    fun c hc => (hdigit c hc).2⟩, fun hc => (hdigit _ hc).1.2 rfl⟩

theorem isDigit_toString {n : Nat} {c : Char} (hc : c ∈ (toString n).toList) :
    c.isDigit = true := by
  rw [Nat.toString_eq_ofList_toDigits, String.toList_ofList] at hc
  exact Nat.isDigit_of_mem_toDigits (by decide) (by decide) hc

theorem isParameters_toString (n : Nat) : IsParameters (toString n).toList :=
  isParameters_of_isDigit fun _ hc => isDigit_toString hc

/-! ## Taking spellings apart -/

variable {c : Char}

/-- A text is taken apart at the first character of a kind. -/
theorem splitAt?_append (h : c ∉ a) (b : List Char) : splitAt? c (a ++ c :: b) = some (a, b) := by
  induction a with
  | nil => exact if_pos rfl
  | cons d a ih =>
    have hd : d ≠ c := fun heq => h (heq ▸ List.mem_cons_self)
    rw [List.cons_append, splitAt?, if_neg hd, ih fun hc => h (List.mem_cons_of_mem d hc)]
    rfl

theorem splitAt?_eq_some (h : splitAt? c l = some (a, b)) : l = a ++ c :: b ∧ c ∉ a := by
  induction l generalizing a with
  | nil => cases h
  | cons d l ih =>
    rw [splitAt?] at h
    split at h
    · next hd =>
      cases h
      exact ⟨by rw [hd]; rfl, List.not_mem_nil⟩
    · next hd =>
      obtain ⟨⟨front, back⟩, hsplit, heq⟩ := Option.map_eq_some_iff.1 h
      obtain ⟨rfl, rfl⟩ := Prod.mk.inj heq
      obtain ⟨rfl, hfront⟩ := ih hsplit
      refine ⟨rfl, fun hc => ?_⟩
      rcases List.mem_cons.1 hc with rfl | hc
      · exact hd rfl
      · exact hfront hc

/-- **A spelling is taken apart** into what stands around the parentheses and what stands in
them. -/
theorem splitParameters_parameterized {name parameters after : List Char} (hname : '(' ∉ name)
    (hparameters : ')' ∉ parameters) :
    splitParameters (String.ofList (name ++ '(' :: (parameters ++ ')' :: after))) =
      some ⟨normalize (String.ofList (name ++ ' ' :: after)),
        String.ofList (trimChars parameters)⟩ := by
  unfold splitParameters
  rw [String.toList_ofList, splitAt?_append hname]
  show (splitAt? ')' (parameters ++ ')' :: after)).bind _ = _
  rw [splitAt?_append hparameters]
  rfl

/-- What stands in the parentheses of a normal form has no closing one in it. -/
theorem splitParameters_parameters {parts : Parts} (h : IsNormal s.toList)
    (hparts : splitParameters s = some parts) : IsParameters parts.parameters.toList := by
  unfold splitParameters at hparts
  obtain ⟨⟨before, rest⟩, hopen, hparts⟩ := Option.bind_eq_some_iff.1 hparts
  obtain ⟨⟨inside, after⟩, hclose, hparts⟩ := Option.bind_eq_some_iff.1 hparts
  obtain rfl := Option.some.inj hparts
  obtain ⟨hs, -⟩ := splitAt?_eq_some hopen
  obtain ⟨rfl, hinside⟩ := splitAt?_eq_some hclose
  rw [hs] at h
  have hnormal := h.inside
  rw [String.toList_ofList, trimChars_eq_self hnormal.trimmed]
  exact ⟨hnormal, hinside⟩

/-! ## Numerals -/

/-- The number that decimal digits stand for, however many there are. -/
def numeral? (s : List Char) : Option Nat :=
  if s ≠ [] ∧ s.all Char.isDigit = true then some (Nat.ofDigitChars 10 s 0) else none

/-- The numbers between the commas of parameters that hold nothing else. -/
def numerals? (parameters : String) : Option (List Nat) :=
  (pieces (· = ',') parameters.toList).mapM numeral?

variable {digits : List Char} {parameters : String} {n : Nat} {rest : List Nat}

/-- Numbers are read if they have no more than 64 bits. -/
theorem numeral64?_of_numeral? (h : numeral? digits = some n) :
    numeral64? digits = if n < 2 ^ 64 then some n else none := by
  unfold numeral? at h
  split at h
  · next hdigits =>
    obtain ⟨hne, hall⟩ := hdigits
    obtain rfl := Option.some.inj h
    have hvalue : digits.foldl (fun n c => n * 10 + (c.toNat - '0'.toNat)) 0 =
        Nat.ofDigitChars 10 digits 0 := by
      rw [Nat.ofDigitChars_eq_foldl]
      simp only [Nat.mul_comm]
    -- a sign would be read as well, but there are only digits
    have hplus (tail : List Char) : digits ≠ '+' :: tail := by
      rintro rfl
      simp at hall
    unfold numeral64?
    split
    · next tail => exact absurd rfl (hplus tail)
    · rw [if_neg (by simpa [hne] using hall)]
      dsimp only
      rw [hvalue]
      rfl
  · cases h

/-- The bound that is declared is the first of the numbers. -/
theorem declaredBound?_of_numerals? (h : numerals? parameters = some (n :: rest)) :
    declaredBound? parameters = if n < 2 ^ 64 then some n else none := by
  unfold numerals? at h
  obtain ⟨pieces, hpieces⟩ := pieces_eq_cons (· = ',') parameters.toList
  rw [hpieces, List.mapM_cons] at h
  obtain ⟨first, hfirst, h⟩ := Option.bind_eq_some_iff.1 h
  obtain ⟨others, -, h⟩ := Option.bind_eq_some_iff.1 h
  obtain ⟨rfl, -⟩ := List.cons.inj (Option.some.inj h)
  -- what stands before the first comma has no blanks to be trimmed
  have hdigits : ∀ c ∈ parameters.toList.takeWhile (fun c => !decide (c = ',')),
      c.isDigit = true := by
    unfold numeral? at hfirst
    split at hfirst
    · next hall => exact List.all_eq_true.1 hall.2
    · cases hfirst
  have htrim := trimChars_eq_self (isParameters_of_isDigit hdigits).trimmed
  unfold declaredBound?
  simp only [ne_eq, decide_not]
  rw [htrim]
  exact numeral64?_of_numeral? hfirst

end SchemaConversion.TypeName
