import SchemaConversion.Proofs.Expression.Segments
import SchemaConversion.Proofs.Lowering
import SchemaConversion.Proofs.Spacing
import Mathlib.Tactic.Tauto

/-!
# What the screen lets through

A condition is put in lower case and cut at its blanks before it is searched for a word that
executes something. Put in lower case it may be longer, and what becomes of a letter depends on its
neighbours; but none of this reaches the letters of such a word, so the screen can be told from the
condition as it is written:

> `fault?_eq_none_iff`: what passes is not blank, has no statement separator and no comment mark,
> and no `EXEC` or `EXECUTE` in it stands free, which is to say between blanks or the ends, or
> before a parenthesis.

Conditions are not made of words between blanks only. A word that executes something and touches
another character in front of it, or one other than a parenthesis behind it, passes:

> `screened_iff`: in a condition that passes, each such word outside of quotes is kept from standing
> free by a character next to it, and the condition is harmless exactly if there is none.

> `parenthesis_passes`: a parenthesis in front of the word is enough.
-/

namespace SchemaConversion.Expression

open Text (isBlank Lowers IsForm IsPlain)

/-! ## Words that execute something -/

/-- The words that execute something. -/
def keywords : List (List Char) := ["exec".toList, "execute".toList]

/-- A word that executes something, in any case. -/
def IsKeyword (letters : List Char) : Prop := letters.map Char.toLower ∈ keywords

instance (letters : List Char) : Decidable (IsKeyword letters) :=
  inferInstanceAs (Decidable (_ ∈ _))

/-- What stands between `before` and `after` stands between blanks or the ends, or before a
parenthesis. -/
structure StandsFree (before after : List Char) : Prop where
  before : ∀ c ∈ before.getLast?, isBlank c = true
  after : ∀ c ∈ after.head?, isBlank c = true ∨ c = '('

/-- The marks of comments. -/
def commentMarks : List (List Char) := ["--".toList, "/*".toList, "*/".toList]

variable {l lower w before after : List Char} {expression : String}

theorem isPlain_of_keyword {k : List Char} (hk : k ∈ keywords) {d : Char} (hd : d ∈ k) :
    IsPlain d := by
  have hall : ∀ k ∈ keywords, k.all (fun d => decide (IsPlain d)) = true := by decide
  exact of_decide_eq_true (List.all_eq_true.1 (hall k hk) d hd)

/-- A word that is refused is a keyword up to its end or to a parenthesis. -/
theorem isExecution_iff :
    isExecution w = true ↔ ∃ k ∈ keywords, ∃ more, w = k ++ more ∧ ∀ c ∈ more.head?, c = '(' := by
  have hopened (k : List Char) :
      (k ++ ['(']).isPrefixOf w = true ↔ ∃ more, w = k ++ '(' :: more := by
    rw [List.isPrefixOf_iff_prefix]
    constructor
    · rintro ⟨more, rfl⟩
      exact ⟨more, by simp⟩
    · rintro ⟨more, rfl⟩
      exact ⟨more, by simp⟩
  -- a keyword alone and one before a parenthesis are one case
  have hword (k : List Char) : (w = k ∨ (k ++ ['(']).isPrefixOf w = true) ↔
      ∃ more, w = k ++ more ∧ ∀ c ∈ more.head?, c = '(' := by
    rw [hopened]
    constructor
    · rintro (rfl | ⟨more, rfl⟩)
      · exact ⟨[], by simp, by simp⟩
      · exact ⟨_, rfl, by simp⟩
    · rintro ⟨more, rfl, hmore⟩
      cases more with
      | nil => exact .inl (by simp)
      | cons c more => exact .inr ⟨more, by rw [hmore c rfl]⟩
  have hexec := hword "exec".toList
  have hexecute := hword "execute".toList
  unfold isExecution keywords
  simp only [List.mem_cons, List.not_mem_nil, or_false, exists_eq_or_imp, exists_eq_left,
    ← hexec, ← hexecute, Bool.or_eq_true, decide_eq_true_eq]
  show ((w = "exec".toList ∨ w = "execute".toList) ∨ "exec(".toList.isPrefixOf w = true) ∨
      "execute(".toList.isPrefixOf w = true ↔
    (w = "exec".toList ∨ "exec(".toList.isPrefixOf w = true) ∨
      (w = "execute".toList ∨ "execute(".toList.isPrefixOf w = true)
  tauto

theorem keywords_visible : ∀ k ∈ keywords, k ≠ [] ∧ ∀ c ∈ k, isBlank c = false := by
  have hall : ∀ k ∈ keywords, k ≠ [] ∧ k.all (fun c => !isBlank c) = true := by decide
  intro k hk
  obtain ⟨hne, hshown⟩ := hall k hk
  exact ⟨hne, by simpa using hshown⟩

/-- **A text has a word that is refused where a keyword in small letters stands free.** -/
theorem any_isExecution_words :
    (Text.words l).any isExecution = true ↔
      ∃ before k after, l = before ++ k ++ after ∧ k ∈ keywords ∧ StandsFree before after := by
  rw [List.any_eq_true]
  constructor
  · rintro ⟨w, hw, hexecution⟩
    obtain ⟨-, -, before, after, rfl, hbefore, hafter⟩ := Text.mem_words_iff.1 hw
    obtain ⟨k, hk, more, rfl, hmore⟩ := isExecution_iff.1 hexecution
    refine ⟨before, k, more ++ after, by simp, hk, hbefore, fun c hc => ?_⟩
    cases more with
    | nil => exact .inl (hafter c hc)
    | cons d more => exact .inr (hmore c hc)
  · rintro ⟨before, k, after, rfl, hk, hfree⟩
    obtain ⟨hne, hvisible⟩ := keywords_visible k hk
    -- the word goes on to the next blank
    have hsplit := List.takeWhile_append_dropWhile (p := fun c => !isBlank c) (l := after)
    have hmore : ∀ c ∈ after.takeWhile (fun c => !isBlank c), isBlank c = false := fun c hc => by
      simpa using List.mem_takeWhile_imp hc
    refine ⟨k ++ after.takeWhile (fun c => !isBlank c), Text.mem_words_iff.2
      ⟨by simp [hne], fun c hc => ?_, before, after.dropWhile (fun c => !isBlank c), ?_,
        hfree.before, fun c hc => ?_⟩, isExecution_iff.2 ⟨k, hk, _, rfl, fun c hc => ?_⟩⟩
    · -- there is no blank in the word
      rcases List.mem_append.1 hc with hc | hc
      · exact hvisible c hc
      · exact hmore c hc
    · rw [List.append_assoc, List.append_assoc, List.append_assoc, hsplit]
    · have hhead := List.head?_dropWhile_not (fun c => !isBlank c) after
      rw [hc] at hhead
      simpa using hhead
    · have hshown := hmore c (List.mem_of_head? hc)
      have hfirst : after.head? = some c := by
        rw [← hsplit, List.head?_append, hc]
        rfl
      rcases hfree.after c hfirst with hblank | hparenthesis
      · rw [hshown] at hblank
        cases hblank
      · exact hparenthesis

/-- To put a text in lower case frees no keyword and binds none. -/
theorem lowers_keyword_iff (h : Lowers l lower) :
    (∃ before k after, lower = before ++ k ++ after ∧ k ∈ keywords ∧ StandsFree before after) ↔
      ∃ before letters after, l = before ++ letters ++ after ∧ IsKeyword letters ∧
        StandsFree before after := by
  constructor
  · rintro ⟨before, k, after, rfl, hk, hfree⟩
    -- the letters of a keyword are plain, so the text can be parted where they are in lower case
    have hplain : ∀ d ∈ k, IsPlain d := fun d hd => isPlain_of_keyword hk hd
    cases k with
    | nil => exact absurd rfl (keywords_visible [] hk).1
    | cons d k =>
      rw [List.append_assoc, List.cons_append] at h
      obtain ⟨front, back, rfl, hfront, hback⟩ := h.before_plain (hplain d List.mem_cons_self)
      rw [← List.cons_append] at hback
      obtain ⟨letters, rest, rfl, hletters, hrest⟩ := Lowers.of_plain hplain hback
      refine ⟨front, letters, rest, by simp, ?_, hfront.closes_iff.1 hfree.before,
        hrest.opens_iff.1 hfree.after⟩
      unfold IsKeyword
      rwa [hletters]
  -- the other way round any text can be parted
  · rintro ⟨before, letters, after, rfl, hkeyword, hfree⟩
    obtain ⟨front, back, rfl, hfront, hback⟩ := h.of_append
    obtain ⟨front, middle, rfl, hbefore, hletters⟩ := hfront.of_append
    have hmiddle := hletters.eq_of_plain fun d hd => isPlain_of_keyword hkeyword hd
    exact ⟨front, middle, back, rfl, by rwa [hmiddle], hbefore.closes_iff.2 hfree.before,
      hback.opens_iff.2 hfree.after⟩

/-! ## The screen -/

/-- What the screen asks of an expression. -/
structure IsScreened (expression : String) : Prop where
  shows : Text.isBlankText expression = false
  unseparated : ';' ∉ expression.toList
  uncommented : ∀ mark ∈ commentMarks, ¬mark <:+: expression.toList
  bound : ∀ before letters after, expression.toList = before ++ letters ++ after →
    IsKeyword letters → ¬StandsFree before after

/-- **What passes is what the screen asks for.** -/
theorem fault?_eq_none_iff : fault? expression = none ↔ IsScreened expression := by
  have hwords : (Text.words (Text.lowerChars expression.toList)).any isExecution = true ↔
      ∃ before letters after, expression.toList = before ++ letters ++ after ∧
        IsKeyword letters ∧ StandsFree before after :=
    any_isExecution_words.trans (lowers_keyword_iff (Text.lowers_lowerAfter [] _))
  have hmarks : (Text.containsText "--" expression || Text.containsText "/*" expression
      || Text.containsText "*/" expression) = true ↔
      ∃ mark ∈ commentMarks, mark <:+: expression.toList := by
    simp [Text.containsText, Text.occurs_iff, commentMarks, or_assoc]
  unfold fault?
  split
  · next hblank => exact ⟨nofun, fun h => by rw [h.shows] at hblank; cases hblank⟩
  · next hshows =>
    split
    · next hseparator =>
      exact ⟨nofun, fun h => absurd (List.contains_iff_mem.1 hseparator) h.unseparated⟩
    · next hunseparated =>
      split
      · next hmark =>
        obtain ⟨mark, hmem, hinfix⟩ := hmarks.1 hmark
        exact ⟨nofun, fun h => absurd hinfix (h.uncommented mark hmem)⟩
      · next hunmarked =>
        split
        · next hexecution =>
          obtain ⟨before, letters, after, heq, hkeyword, hfree⟩ := hwords.1 hexecution
          exact ⟨nofun, fun h => absurd hfree (h.bound _ _ _ heq hkeyword)⟩
        · next hnone =>
          refine ⟨fun _ => ⟨by simpa using hshows, by simpa using hunseparated,
            fun mark hmem hinfix => hunmarked (hmarks.2 ⟨mark, hmem, hinfix⟩),
            fun before letters after heq hkeyword hfree =>
              hnone (hwords.2 ⟨before, letters, after, heq, hkeyword, hfree⟩)⟩, fun _ => rfl⟩

/-! ## Keywords among the parts -/

/-- The text before a part and behind it. -/
theorem toList_eq_of_segments {front back : List Segment} {letters : List Char}
    (h : segments expression.toList = front ++ .word letters :: back) :
    expression.toList =
      front.flatMap Segment.text ++ letters ++ back.flatMap Segment.text := by
  rw [← flatMap_text expression.toList, h, List.flatMap_append, List.flatMap_cons,
    List.append_assoc]
  rfl

/-- One expression that executes nothing: no separator, no comment mark and outside of quotes no
word that executes something. -/
structure IsHarmless (expression : String) : Prop where
  unseparated : ';' ∉ expression.toList
  uncommented : ∀ mark ∈ commentMarks, ¬mark <:+: expression.toList
  idle : ∀ letters, Segment.word letters ∈ segments expression.toList → ¬IsKeyword letters

/-- **What the screen makes sure of.** It lets through what it asks for. Then each keyword outside
of quotes is kept from standing free by a character next to it, so that the expression is harmless
exactly if all of them stand free, which is to say that there is none. -/
theorem screened_iff (expression : String) :
    (fault? expression = none ↔ IsScreened expression) ∧
      (fault? expression = none →
        (∀ front letters back, segments expression.toList = front ++ .word letters :: back →
          IsKeyword letters →
            ¬StandsFree (front.flatMap Segment.text) (back.flatMap Segment.text)) ∧
        (IsHarmless expression ↔
          ∀ front letters back, segments expression.toList = front ++ .word letters :: back →
            IsKeyword letters →
              StandsFree (front.flatMap Segment.text) (back.flatMap Segment.text))) := by
  refine ⟨fault?_eq_none_iff, fun hpasses => ?_⟩
  have hscreened := fault?_eq_none_iff.1 hpasses
  have hbound (front : List Segment) (letters : List Char) (back : List Segment)
      (heq : segments expression.toList = front ++ .word letters :: back)
      (hkeyword : IsKeyword letters) :
      ¬StandsFree (front.flatMap Segment.text) (back.flatMap Segment.text) :=
    hscreened.bound _ letters _ (toList_eq_of_segments heq) hkeyword
  refine ⟨hbound, fun hharmless front letters back heq hkeyword => ?_, fun hfree => ?_⟩
  · -- a harmless expression has no keyword, so there is nothing to show
    have hmem : Segment.word letters ∈ segments expression.toList := by
      rw [heq]
      simp
    exact absurd hkeyword (hharmless.idle letters hmem)
  · -- a keyword would stand free, and the screen has seen to it that none does
    refine ⟨hscreened.unseparated, hscreened.uncommented, fun letters hmem hkeyword => ?_⟩
    obtain ⟨front, back, heq⟩ := List.append_of_mem hmem
    exact hbound front letters back heq hkeyword (hfree front letters back heq hkeyword)

/-- The keyword behind a parenthesis is not seen for the parenthesis. -/
theorem parenthesis_hides :
    fault? "(EXEC sp_who)" = none ∧ ¬StandsFree ['('] " sp_who)".toList :=
  ⟨by decide, ((screened_iff "(EXEC sp_who)").2 (by decide)).1 [.mark '('] "EXEC".toList
    [.mark ' ', .word "sp_who".toList, .mark ')'] (by decide +kernel) (by decide)⟩

/-- **An expression that passes need not be harmless.** -/
theorem parenthesis_passes :
    ¬(fault? "(EXEC sp_who)" = none → IsHarmless "(EXEC sp_who)") := by
  intro hsound
  have hmem : Segment.word "EXEC".toList ∈ segments "(EXEC sp_who)".toList := by decide +kernel
  exact (hsound (by decide)).idle _ hmem (by decide)

end SchemaConversion.Expression
