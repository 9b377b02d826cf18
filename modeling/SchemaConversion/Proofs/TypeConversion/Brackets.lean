import SchemaConversion.Proofs.TypeConversion.NormalForms

/-!
# Brackets behind a spelling

An array is spelled by its element with brackets behind it. The brackets are found at the end of the
normal form of the spelling. Wherever they were put, each step on the way there keeps them at the
end of what it makes of the element, with at most a space between them:

> `IsBracketed`: by one lemma for the words, one for the lower case and one for each space that is
> dropped.

> `arrayElement?_normalize_brackets`: so what is found without the brackets is the normal form of
> the element.

> `resolve_brackets`: and what is converted is what the element is converted into, in the template
> for arrays.
-/

namespace SchemaConversion

namespace TypeName

open Text

variable {l s : List Char} {p q k : Char}

/-- What marks an array behind its element. -/
def brackets : List Char := ['[', ']']

/-- A text with brackets behind it and at most a space between. -/
def IsBracketed (l s : List Char) : Prop := s = l ++ brackets ∨ s = l ++ ' ' :: brackets

/-! ## Words -/

theorem intercalate_concat {α : Type} {sep : List α} {ws : List (List α)} (hne : ws ≠ [])
    (w : List α) : sep.intercalate (ws ++ [w]) = sep.intercalate ws ++ sep ++ w := by
  induction ws with
  | nil => exact absurd rfl hne
  | cons v ws ih =>
    by_cases hws : ws = []
    · simp [hws, List.intercalate_cons_cons]
    · rw [List.cons_append, List.intercalate_cons_of_ne_nil (by simp), ih hws,
        List.intercalate_cons_of_ne_nil hws]
      simp only [List.append_assoc]

/-- A text ends with the beginning of a word, which may be empty. -/
theorem exists_last_word (a : List Char) :
    ∃ front w, a = front ++ w ∧ IsVisible w ∧ ∀ c ∈ front.getLast?, isBlank c = true := by
  induction a using List.reverseRecOn with
  | nil => exact ⟨[], [], rfl, nofun, nofun⟩
  | append_singleton a c ih =>
    obtain ⟨front, w, rfl, hw, hfront⟩ := ih
    -- a blank ends the last word, and any other character makes it longer
    cases hc : isBlank c with
    | true => exact ⟨front ++ w ++ [c], [], by simp, nofun, by simpa using hc⟩
    | false =>
      refine ⟨front, w ++ [c], List.append_assoc .., fun d hd => ?_, hfront⟩
      rcases List.mem_append.1 hd with hd | hd
      · exact hw d hd
      · rw [List.mem_singleton.1 hd]
        exact hc

/-- Words are found for themselves on either side of a blank. -/
theorem words_append_of_blank {front : List Char} (h : ∀ c ∈ front.getLast?, isBlank c = true)
    (l : List Char) : words (front ++ l) = words front ++ words l := by
  rcases List.eq_nil_or_concat front with rfl | ⟨front, x, rfl⟩
  · rfl
  · rw [List.concat_eq_append] at h ⊢
    have hx : isBlank x = true := h x (by simp)
    have hfront : words (front ++ [x]) = words front := by
      rw [words_append hx]
      exact List.append_nil _
    rw [hfront, List.append_assoc, List.singleton_append, words_append hx]

/-- Brackets belong to the last word, or they are a word of their own. -/
theorem isBracketed_words (a : List Char) :
    IsBracketed ([' '].intercalate (words a)) ([' '].intercalate (words (a ++ brackets))) := by
  obtain ⟨front, w, rfl, hw, hfront⟩ := exists_last_word a
  have hvisible : IsVisible (w ++ brackets) := by
    intro c hc
    rcases List.mem_append.1 hc with hc | hc
    · exact hw c hc
    · have hall : brackets.all (fun c => !isBlank c) = true := by decide
      simpa using List.all_eq_true.1 hall c hc
  rw [List.append_assoc, words_append_of_blank hfront, words_append_of_blank hfront,
    words_of_isVisible (by simp [brackets]) hvisible]
  by_cases hw' : w = [] <;> by_cases hwords : words front = []
  · rw [hwords, hw']
    exact .inl rfl
  · rw [intercalate_concat hwords, hw']
    exact .inr (by simp [words, pieces])
  · rw [hwords, words_of_isVisible hw' hw]
    exact .inl (by simp)
  · rw [intercalate_concat hwords, words_of_isVisible hw' hw, intercalate_concat hwords]
    exact .inl (List.append_assoc ..).symm

/-! ## Lower case -/

/-- Brackets have no case, nor does a space before them. -/
theorem startsCased_append (h : s = brackets ∨ s = ' ' :: brackets) (l : List Char) :
    startsCased (l ++ s) = startsCased l := by
  induction l with
  | nil => rcases h with rfl | rfl <;> decide
  | cons c l ih => rw [List.cons_append, startsCased, startsCased, ih]

/-- Brackets do not change in lower case, and nothing before them does because of them. -/
theorem lowerAfter_append (h : s = brackets ∨ s = ' ' :: brackets) (before l : List Char) :
    lowerAfter before (l ++ s) = lowerAfter before l ++ s := by
  induction l generalizing before with
  | nil =>
    refine lowerAfter_of_isLower before ?_
    have hall : (' ' :: brackets).all (fun c => decide (c ≠ 'Σ' ∧ lowerChar c = [c])) = true := by
      decide
    have hlower (c : Char) (hc : c ∈ ' ' :: brackets) : c ≠ 'Σ' ∧ lowerChar c = [c] :=
      of_decide_eq_true (List.all_eq_true.1 hall c hc)
    rcases h with rfl | rfl
    · exact fun c hc => hlower c (List.mem_cons_of_mem _ hc)
    · exact hlower
  | cons c l ih =>
    rw [List.cons_append, lowerAfter, lowerAfter, endsWord, endsWord, startsCased_append h, ih,
      List.append_assoc]

theorem IsBracketed.lowerAfter (h : IsBracketed l s) (before : List Char) :
    IsBracketed (lowerAfter before l) (lowerAfter before s) := by
  rcases h with rfl | rfl
  · exact .inl (lowerAfter_append (.inl rfl) before l)
  · exact .inr (lowerAfter_append (.inr rfl) before l)

/-! ## Spaces that are dropped -/

/-- **Dropping a space keeps the brackets at the end.** At most the space before them goes. -/
theorem IsBracketed.drop (h : IsBracketed l s) (hdrops : Drops p q k) (hk : k ≠ '[')
    (hk' : k ≠ ']') : IsBracketed (replaceAll [p, q] [k] l) (replaceAll [p, q] [k] s) := by
  have hspace := ne_space hdrops.visible
  -- the pair does not end in a bracket, so none is taken for its end
  have hq : q ≠ '[' ∧ q ≠ ']' := by
    rcases hdrops.pair with ⟨-, rfl⟩ | ⟨-, rfl⟩
    · exact ⟨hk, hk'⟩
    · decide
  have hbrackets : replaceAll [p, q] [k] brackets = brackets := by
    rw [brackets, replaceAll_cons_cons, if_neg fun heq => hq.2 heq.2.symm, replaceAll_singleton]
  have hbehind (c : Char) : replaceAll [p, q] [k] (c :: brackets) = c :: brackets := by
    rw [brackets, replaceAll_cons_cons, if_neg fun heq => hq.1 heq.2.symm, ← brackets, hbrackets]
  rcases h with rfl | rfl
  · -- there is no space before the brackets, and none comes there
    left
    induction l using List.twoStepInduction with
    | nil => exact hbrackets
    | singleton c =>
      rw [replaceAll_singleton]
      exact hbehind c
    | cons_cons c d l ih ih' =>
      rw [List.cons_append, List.cons_append, replaceAll_cons_cons, replaceAll_cons_cons]
      split
      · rw [ih]
        rfl
      · rw [← List.cons_append, ih']
        rfl
  · -- the space before the brackets may be dropped with the last character
    induction l using List.twoStepInduction with
    | nil => exact .inr (hbehind ' ')
    | singleton c =>
      show IsBracketed _ (replaceAll [p, q] [k] (c :: ' ' :: brackets))
      rw [replaceAll_cons_cons, replaceAll_singleton]
      split
      · next heq =>
        obtain ⟨rfl, rfl⟩ := heq
        obtain ⟨-, rfl⟩ | ⟨rfl, -⟩ := hdrops.pair
        · exact absurd rfl hspace
        · exact .inl (congrArg (c :: ·) hbrackets)
      · exact .inr (congrArg (c :: ·) (hbehind ' '))
    | cons_cons c d l ih ih' =>
      rw [List.cons_append, List.cons_append, replaceAll_cons_cons, replaceAll_cons_cons]
      split
      · exact ih.imp (congrArg (k :: ·)) (congrArg (k :: ·))
      · exact (ih' d).imp (congrArg (c :: ·)) (congrArg (c :: ·))

/-! ## Normal forms -/

/-- The normal form of a spelling with brackets. -/
theorem isBracketed_normalize (s : String) :
    IsBracketed (normalize s).toList (normalize (s ++ "[]")).toList := by
  have hspelling : (s ++ "[]").toList = s.toList ++ brackets := by simp [brackets]
  have hopen : Drops ' ' '(' '(' := ⟨by simp, by decide⟩
  have hinside : Drops '(' ' ' '(' := ⟨by simp, by decide⟩
  have hclose : Drops ' ' ')' ')' := ⟨by simp, by decide⟩
  have hcomma : Drops ',' ' ' ',' := ⟨by simp, by decide⟩
  have hbefore : Drops ' ' ',' ',' := ⟨by simp, by decide⟩
  rw [toList_normalize, toList_normalize, hspelling]
  -- step by step as the normal form is made
  exact ((((((isBracketed_words s.toList).lowerAfter []).drop hopen (by decide) (by decide)).drop
    hinside (by decide) (by decide)).drop hclose (by decide) (by decide)).drop
      hcomma (by decide) (by decide)).drop hbefore (by decide) (by decide)

/-- A blank at the end is trimmed. -/
theorem trimChars_append_blank {x : Char} (hx : isBlank x = true) (l : List Char) :
    trimChars (l ++ [x]) = trimChars l := by
  unfold trimChars dropBlanks
  rw [List.dropWhile_append]
  split
  · next hempty =>
    rw [List.isEmpty_iff.1 hempty]
    simp [hx]
  · rw [List.reverse_append, List.reverse_singleton, List.singleton_append,
      List.dropWhile_cons_of_pos hx]

end TypeName

namespace TypeConverter

variable {l s : List Char}

/-- What stands before the brackets is the element. -/
theorem arrayElement?_of_isBracketed (h : TypeName.IsBracketed l s) (hl : Text.IsTrimmed l) :
    arrayElement? s = some l := by
  have hfront (front : List Char) :
      arrayElement? (front ++ TypeName.brackets) = some (Text.trimChars front) := by
    have hends : ['[', ']'].isSuffixOf (front ++ TypeName.brackets) = true :=
      List.isSuffixOf_iff_suffix.2 ⟨front, rfl⟩
    unfold arrayElement?
    rw [if_pos hends]
    simp [TypeName.brackets]
  rcases h with rfl | rfl
  · rw [hfront, Text.trimChars_eq_self hl]
  · rw [← List.singleton_append, ← List.append_assoc, hfront,
      TypeName.trimChars_append_blank (by decide), Text.trimChars_eq_self hl]

/-- **The element of a spelling with brackets is the normal form of what stands before them.** -/
theorem arrayElement?_normalize_brackets (spelling : String) :
    arrayElement? (TypeName.normalize (spelling ++ "[]")).toList =
      some (TypeName.normalize spelling).toList :=
  arrayElement?_of_isBracketed (TypeName.isBracketed_normalize spelling)
    (TypeName.isNormal_normalize spelling).trimmed

variable {c : TypeConverter} {element : String} {inner : TypeConversion}

/-- A spelling and its normal form are converted into the same. -/
theorem resolve_normalize (h : c.resolve element = .ok inner) :
    ∃ b, c.resolve (TypeName.normalize element) = .ok b ∧ b.converted = inner.converted := by
  have halike := c.resolve_alike_of_eq (TypeName.normalize_normalize element)
  rw [h] at halike
  generalize c.resolve (TypeName.normalize element) = result at halike
  cases halike with
  | converted b => exact ⟨_, rfl, rfl⟩

/-- **An array of a type that is converted**, in a target that spells arrays by their elements. -/
theorem resolve_brackets {template : NativeTemplate} (htemplate : c.arrayTemplate? = some template)
    (hnative : c.replacement? (TypeName.normalize (element ++ "[]")) = none)
    (h : c.resolve element = .ok inner) :
    ∃ b, c.resolve (element ++ "[]") = .ok b ∧
      b.converted = template.render [("element", inner.converted)] := by
  obtain ⟨b, hb, hconverted⟩ := resolve_normalize h
  rw [resolve_array hnative (arrayElement?_normalize_brackets element), hb]
  show ∃ b', c.array _ _ b = .ok b' ∧ _
  unfold array
  rw [htemplate]
  exact ⟨_, rfl, by rw [hconverted]⟩

end TypeConverter

end SchemaConversion
