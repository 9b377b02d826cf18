import SchemaConversion.Proofs.Spacing

/-!
# Replacing a pattern between texts

A pattern whose first character does not come again in it never overlaps itself. Where it has been
put between texts it is found there again, whatever it meets, and beyond that only where it stands
in one of the texts:

> `replaceAll_intercalate`: replacing it replaces what is between the texts and what is in them.

Each time the text grows or shrinks by the same length, and that tells when the pattern stood in
none of them:

> `replaceAll_intercalate_iff`: only what is between the texts has been replaced exactly if the
> pattern is replaced by itself or stands in none of the texts.

Any text can be taken for texts with the pattern between them in which it does not stand:

> `cut_spec`: what is cut at the pattern, which is put together again with it.
-/

namespace SchemaConversion.Text

variable {x d : Char} {t r s a b w : List Char} {texts : List (List Char)}

/-! ## Where a pattern can stand -/

/-- A pattern stands on one side of a character that is not in it. -/
theorem infix_append_cons_iff {p : List Char} (hd : d ∉ p) :
    p <:+: a ++ d :: b ↔ p <:+: a ∨ p <:+: b := by
  constructor
  · rintro ⟨front, back, heq⟩
    rcases List.append_eq_append_iff.1 heq with ⟨more, rfl, -⟩ | ⟨more, hfront, hback⟩
    · exact .inl ⟨front, more, rfl⟩
    -- the pattern begins before the character, and as it does not hold it, it also ends there
    · cases more with
      | nil =>
        rw [List.append_nil] at hfront
        exact .inl ⟨front, [], by rw [List.append_nil, hfront]⟩
      | cons e more =>
        obtain ⟨rfl, rfl⟩ := List.cons.inj hback
        rcases List.append_eq_append_iff.1 hfront with ⟨_, -, hpattern⟩ | ⟨rest, -, hrest⟩
        · exact absurd (by rw [hpattern]; simp) hd
        · cases rest with
          | nil =>
          have hpattern : d :: more = p := hrest
          exact absurd (hpattern ▸ List.mem_cons_self) hd
          | cons f rest =>
            obtain ⟨-, rfl⟩ := List.cons.inj hrest
            exact .inr ⟨rest, back, rfl⟩
  · rintro (h | h)
    · exact h.trans (List.infix_append' [] a _)
    · exact h.trans ⟨a ++ [d], [], by simp⟩

/-- A pattern does not begin where its first character is missing. -/
theorem infix_append_iff_right (hx : x ∉ w) : x :: t <:+: w ++ b ↔ x :: t <:+: b := by
  induction w with
  | nil => rfl
  | cons c w ih =>
    have hne : x ≠ c := fun heq => hx (heq ▸ List.mem_cons_self)
    rw [List.cons_append, List.infix_cons_iff, ih fun hmem => hx (List.mem_cons_of_mem c hmem)]
    constructor
    · rintro (hbegins | h)
      · exact absurd (List.cons_prefix_cons.1 hbegins).1 hne
      · exact h
    · exact .inr

/-! ## Replacing it -/

theorem replaceFrom_eq_drop (pattern r : List Char) (skip : Nat) (s : List Char) :
    replaceFrom pattern r skip s = replaceAll pattern r (s.drop skip) := by
  induction s generalizing skip with
  | nil => cases skip <;> rfl
  | cons c s ih =>
    cases skip with
    | zero => rfl
    | succ skip => exact ih skip

/-- The pattern at the beginning is replaced. -/
theorem replaceAll_pattern_append (r s : List Char) :
    replaceAll (x :: t) r ((x :: t) ++ s) = r ++ replaceAll (x :: t) r s := by
  have hbegins : (x :: t).isPrefixOf (x :: (t ++ s)) = true :=
    List.isPrefixOf_iff_prefix.2 ⟨s, rfl⟩
  show replaceFrom (x :: t) r 0 (x :: (t ++ s)) = _
  rw [replaceFrom, if_pos hbegins, replaceFrom_eq_drop]
  simp

/-- A character where the pattern does not begin is kept. -/
theorem replaceAll_cons {p : List Char} {c : Char} (h : ¬p <+: c :: s) (r : List Char) :
    replaceAll p r (c :: s) = c :: replaceAll p r s := by
  show replaceFrom p r 0 (c :: s) = _
  rw [replaceFrom, if_neg (by rwa [List.isPrefixOf_iff_prefix])]
  rfl

/-- A pattern that begins before its first character comes again ends before it. -/
theorem prefix_of_prefix_append (hx : x ∉ t) (hne : a ≠ []) (h : x :: t <+: a ++ x :: b) :
    x :: t <+: a := by
  obtain ⟨rest, heq⟩ := h
  rcases List.append_eq_append_iff.1 heq with ⟨more, rfl, -⟩ | ⟨more, hpattern, hmore⟩
  · exact List.prefix_append _ _
  · cases more with
    | nil => rw [List.append_nil] at hpattern; exact hpattern ▸ List.prefix_rfl
    | cons c more =>
      obtain ⟨rfl, -⟩ := List.cons.inj hmore
      cases a with
      | nil => exact absurd rfl hne
      | cons e a =>
        rw [List.cons_append, List.cons.injEq] at hpattern
        exact absurd (by rw [hpattern.2]; simp) hx

/-- **Every occurrence is replaced**, since none overlaps another. -/
theorem replaceAll_append (hx : x ∉ t) (r a b : List Char) :
    replaceAll (x :: t) r (a ++ (x :: t) ++ b) =
      replaceAll (x :: t) r a ++ r ++ replaceAll (x :: t) r b := by
  induction hn : a.length using Nat.strong_induction_on generalizing a with
  | _ n ih =>
    cases a with
    | nil => exact replaceAll_pattern_append r b
    | cons c a =>
      by_cases hbegins : x :: t <+: c :: a
      · -- the pattern stands at the beginning, and what follows it is shorter
        obtain ⟨rest, hrest⟩ := hbegins
        have hshorter : rest.length < n := by
          rw [← hn, ← hrest, List.length_append, List.length_cons]
          omega
        rw [← hrest, List.append_assoc, List.append_assoc, replaceAll_pattern_append,
          replaceAll_pattern_append, ← List.append_assoc rest, ih _ hshorter rest rfl]
        simp only [List.append_assoc]
      · -- a pattern does not begin here, not even with what follows
        have hnot : ¬x :: t <+: c :: (a ++ (x :: t) ++ b) := by
          rw [List.append_assoc]
          exact fun h => hbegins (prefix_of_prefix_append hx (List.cons_ne_nil c a) h)
        have hshorter : a.length < n := by
          rw [← hn, List.length_cons]
          omega
        rw [replaceAll_cons hbegins]
        show replaceAll (x :: t) r (c :: (a ++ (x :: t) ++ b)) = _
        rw [replaceAll_cons hnot, ih _ hshorter a rfl]
        rfl

/-- What changes a pattern wherever it stands, and what is around it by itself, changes it between
texts. -/
theorem map_intercalate {f : List Char → List Char} {p r : List Char} (hnil : f [] = [])
    (h : ∀ a b, f (a ++ p ++ b) = f a ++ r ++ f b) (texts : List (List Char)) :
    f (p.intercalate texts) = r.intercalate (texts.map f) := by
  induction texts with
  | nil => exact hnil
  | cons text texts ih =>
    cases texts with
    | nil => simp
    | cons next texts =>
      rw [List.intercalate_cons_cons, h, ih]
      simp only [List.map_cons, List.intercalate_cons_cons]

/-- **What stands between texts is replaced and what stands in them.** -/
theorem replaceAll_intercalate (hx : x ∉ t) (r : List Char) (texts : List (List Char)) :
    replaceAll (x :: t) r ((x :: t).intercalate texts) =
      r.intercalate (texts.map (replaceAll (x :: t) r)) :=
  map_intercalate rfl (replaceAll_append hx r) texts

/-! ## How often it is replaced -/

/-- A text with the pattern is a text before it and one behind it, both of them shorter. -/
theorem exists_of_infix (h : x :: t <:+: s) :
    ∃ a b, s = a ++ (x :: t) ++ b ∧ a.length < s.length ∧ b.length < s.length := by
  obtain ⟨a, b, rfl⟩ := h
  refine ⟨a, b, rfl, ?_, ?_⟩ <;> simp only [List.length_append, List.length_cons] <;> omega

theorem replaceAll_of_absent (h : ¬x :: t <:+: s) (r : List Char) :
    replaceAll (x :: t) r s = s :=
  replaceAll_of_not_occurs r (by rw [← Bool.not_eq_true, occurs_iff]; exact h)

/-- The length changes by as much for each occurrence. -/
theorem length_replaceAll (hx : x ∉ t) (r s : List Char) :
    ∃ k, (replaceAll (x :: t) r s).length + k * (x :: t).length = s.length + k * r.length ∧
      (k = 0 ↔ ¬x :: t <:+: s) := by
  induction hn : s.length using Nat.strong_induction_on generalizing s with
  | _ n ih =>
    by_cases h : x :: t <:+: s
    · obtain ⟨a, b, heq, ha, hb⟩ := exists_of_infix h
      -- one occurrence, those before it and those behind it
      obtain ⟨k, hk, -⟩ := ih _ (hn ▸ ha) a rfl
      obtain ⟨l, hl, -⟩ := ih _ (hn ▸ hb) b rfl
      refine ⟨k + l + 1, ?_, by simp [h]⟩
      rw [← hn, heq, replaceAll_append hx]
      simp only [List.length_append, Nat.add_mul, Nat.one_mul]
      omega
    · refine ⟨0, ?_, by simp [h]⟩
      rw [replaceAll_of_absent h, hn, Nat.zero_mul, Nat.zero_mul]

/-- The same between texts. -/
theorem length_intercalate_replaceAll (hx : x ∉ t) (r : List Char) (texts : List (List Char)) :
    ∃ k, (r.intercalate (texts.map (replaceAll (x :: t) r))).length + k * (x :: t).length =
        (r.intercalate texts).length + k * r.length ∧
      (k = 0 ↔ ∀ text ∈ texts, ¬x :: t <:+: text) := by
  induction texts with
  | nil => exact ⟨0, by simp, by simp⟩
  | cons text texts ih =>
    obtain ⟨k, hk, hk0⟩ := length_replaceAll hx r text
    obtain ⟨l, hl, hl0⟩ := ih
    refine ⟨k + l, ?_, by rw [List.forall_mem_cons, ← hk0, ← hl0]; omega⟩
    cases texts with
    | nil =>
      rw [List.map_nil, List.intercalate_nil, List.length_nil] at hl
      simp only [List.map_cons, List.map_nil, List.intercalate_singleton, Nat.add_mul]
      omega
    | cons next texts =>
      simp only [List.map_cons, List.intercalate_cons_cons, List.length_append,
        Nat.add_mul] at hl ⊢
      omega

/-- To replace a pattern by itself changes nothing. -/
theorem replaceAll_self (hx : x ∉ t) (s : List Char) : replaceAll (x :: t) (x :: t) s = s := by
  induction hn : s.length using Nat.strong_induction_on generalizing s with
  | _ n ih =>
    by_cases h : x :: t <:+: s
    · obtain ⟨a, b, heq, ha, hb⟩ := exists_of_infix h
      rw [heq, replaceAll_append hx, ih _ (hn ▸ ha) a rfl, ih _ (hn ▸ hb) b rfl]
    · exact replaceAll_of_absent h _

/-- A pattern that something else of the same length stands for has been replaced. -/
theorem not_infix_of_replaceAll_eq (hx : x ∉ t) (hlength : r.length = (x :: t).length)
    (hne : r ≠ x :: t) (h : replaceAll (x :: t) r s = s) : ¬x :: t <:+: s := by
  intro hin
  obtain ⟨a, b, rfl, -, -⟩ := exists_of_infix hin
  have hsame : (replaceAll (x :: t) r a).length = a.length := by
    obtain ⟨k, hk, -⟩ := length_replaceAll hx r a
    rw [hlength] at hk
    exact Nat.add_right_cancel hk
  rw [replaceAll_append hx, List.append_assoc, List.append_assoc] at h
  -- the texts agree up to the pattern, so what stands for it has to be the pattern
  have htail := (List.append_inj h hsame).2
  exact hne (List.append_inj htail hlength).1

/-- Texts of the same lengths with the same between them are the same if they are so together. -/
theorem eq_of_intercalate_eq {f : List Char → List Char}
    (hf : ∀ text ∈ texts, (f text).length = text.length)
    (h : r.intercalate (texts.map f) = r.intercalate texts) : ∀ text ∈ texts, f text = text := by
  induction texts with
  | nil => exact fun _ hmem => absurd hmem List.not_mem_nil
  | cons text texts ih =>
    have htext := hf text List.mem_cons_self
    have hrest : ∀ text ∈ texts, (f text).length = text.length := fun text hmem =>
      hf text (List.mem_cons_of_mem _ hmem)
    cases texts with
    | nil =>
      rw [List.map_singleton, List.intercalate_singleton, List.intercalate_singleton] at h
      exact fun text' hmem => by rw [List.mem_singleton.1 hmem, h]
    | cons next texts =>
      rw [List.map_cons, List.map_cons, List.intercalate_cons_cons, List.intercalate_cons_cons,
        List.append_assoc, List.append_assoc] at h
      obtain ⟨hfirst, hothers⟩ := List.append_inj h htext
      exact List.forall_mem_cons.2 ⟨hfirst, ih hrest (List.append_cancel_left hothers)⟩

/-- **When only what is between the texts is replaced.** -/
theorem replaceAll_intercalate_iff (hx : x ∉ t) :
    replaceAll (x :: t) r ((x :: t).intercalate texts) = r.intercalate texts ↔
      r = x :: t ∨ ∀ text ∈ texts, ¬x :: t <:+: text := by
  rw [replaceAll_intercalate hx]
  constructor
  · intro h
    obtain ⟨k, hk, hk0⟩ := length_intercalate_replaceAll hx r texts
    rw [h] at hk
    rcases Nat.eq_zero_or_pos k with hzero | hpos
    · exact .inr (hk0.1 hzero)
    · -- something of the same length has been put in, so that each text can be compared
      have hlength : r.length = (x :: t).length :=
        (Nat.eq_of_mul_eq_mul_left hpos (Nat.add_left_cancel hk)).symm
      by_cases hsame : r = x :: t
      · exact .inl hsame
      · have hlengths : ∀ text ∈ texts, (replaceAll (x :: t) r text).length = text.length := by
          intro text _
          obtain ⟨l, hl, -⟩ := length_replaceAll hx r text
          rw [hlength] at hl
          exact Nat.add_right_cancel hl
        exact .inr fun text hmem =>
          not_infix_of_replaceAll_eq hx hlength hsame (eq_of_intercalate_eq hlengths h text hmem)
  · rintro (rfl | hnone)
    · rw [List.map_congr_left fun text _ => replaceAll_self hx text, List.map_id']
    · rw [List.map_congr_left fun text hmem => replaceAll_of_absent (hnone text hmem) r,
        List.map_id']

/-! ## Cutting at a pattern -/

/-- The stretches of the text behind its first `skip` characters, which are dropped. -/
def cutFrom (pattern : List Char) : Nat → List Char → List (List Char)
  | _, [] => [[]]
  | skip + 1, _ :: rest => cutFrom pattern skip rest
  | 0, c :: rest =>
    if pattern.isPrefixOf (c :: rest) then [] :: cutFrom pattern (pattern.length - 1) rest
    else (cutFrom pattern 0 rest).modifyHead (c :: ·)

/-- The stretches between the occurrences of a pattern, which is not empty. -/
def cut (pattern s : List Char) : List (List Char) := cutFrom pattern 0 s

theorem cutFrom_eq_drop (pattern : List Char) (skip : Nat) (s : List Char) :
    cutFrom pattern skip s = cut pattern (s.drop skip) := by
  induction s generalizing skip with
  | nil => cases skip <;> rfl
  | cons c s ih =>
    cases skip with
    | zero => rfl
    | succ skip => exact ih skip

theorem cut_pattern_append (s : List Char) :
    cut (x :: t) ((x :: t) ++ s) = [] :: cut (x :: t) s := by
  have hbegins : (x :: t).isPrefixOf (x :: (t ++ s)) = true :=
    List.isPrefixOf_iff_prefix.2 ⟨s, rfl⟩
  show cutFrom (x :: t) 0 (x :: (t ++ s)) = _
  rw [cutFrom, if_pos hbegins, cutFrom_eq_drop]
  simp

theorem cut_cons {p : List Char} {c : Char} (h : ¬p <+: c :: s) :
    cut p (c :: s) = (cut p s).modifyHead (c :: ·) := by
  show cutFrom p 0 (c :: s) = _
  rw [cutFrom, if_neg (by rwa [List.isPrefixOf_iff_prefix])]
  rfl

/-- What is cut is put together again, and no stretch has the pattern in it. -/
theorem cut_spec (x : Char) (t s : List Char) :
    ∃ first rest, cut (x :: t) s = first :: rest ∧ first <+: s ∧
      (x :: t).intercalate (first :: rest) = s ∧
      ∀ stretch ∈ first :: rest, ¬x :: t <:+: stretch := by
  induction hn : s.length using Nat.strong_induction_on generalizing s with
  | _ n ih =>
    by_cases hbegins : x :: t <+: s
    · obtain ⟨s, rfl⟩ := hbegins
      have hshorter : s.length < n := by
        rw [← hn, List.length_append, List.length_cons]
        omega
      obtain ⟨first, rest, hcut, -, htext, hnone⟩ := ih _ hshorter s rfl
      refine ⟨[], first :: rest, by rw [cut_pattern_append, hcut], List.nil_prefix, ?_, ?_⟩
      · rw [List.intercalate_cons_cons, htext, List.nil_append]
      · exact List.forall_mem_cons.2 ⟨by simp, hnone⟩
    · cases s with
      | nil => exact ⟨[], [], rfl, List.nil_prefix, by simp, by simp⟩
      | cons c s =>
        have hshorter : s.length < n := by
          rw [← hn, List.length_cons]
          omega
        obtain ⟨first, rest, hcut, hfirst, htext, hnone⟩ := ih _ hshorter s rfl
        have hbegin : c :: first <+: c :: s := List.cons_prefix_cons.2 ⟨rfl, hfirst⟩
        refine ⟨c :: first, rest, by rw [cut_cons hbegins, hcut]; rfl, hbegin, ?_, ?_⟩
        · cases rest with
          | nil => simpa using htext
          | cons next rest => simpa [List.intercalate_cons_cons] using htext
        · obtain ⟨hhead, hrest⟩ := List.forall_mem_cons.1 hnone
          -- the text begins with the first stretch, and the pattern does not begin the text
          refine List.forall_mem_cons.2 ⟨fun hin => ?_, hrest⟩
          rcases List.infix_cons_iff.1 hin with h | h
          · exact hbegins (h.trans hbegin)
          · exact hhead h

theorem intercalate_cut (x : Char) (t s : List Char) :
    (x :: t).intercalate (cut (x :: t) s) = s := by
  obtain ⟨first, rest, hcut, -, htext, -⟩ := cut_spec x t s
  rw [hcut, htext]

theorem not_infix_of_mem_cut {stretch : List Char} (h : stretch ∈ cut (x :: t) s) :
    ¬x :: t <:+: stretch := by
  obtain ⟨first, rest, hcut, -, -, hnone⟩ := cut_spec x t s
  rw [hcut] at h
  exact hnone stretch h

end SchemaConversion.Text
