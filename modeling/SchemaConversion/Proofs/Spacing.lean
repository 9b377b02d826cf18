import SchemaConversion.Text.Blank
import SchemaConversion.Text.Substitution
import SchemaConversion.Proofs.LowerCase
import Mathlib.Data.List.Chain
import Mathlib.Data.List.Induction
import Mathlib.Data.List.TakeWhile

/-!
# Blanks in their places

A text is tidied by joining its words with single blanks and then, pattern by pattern, dropping the
blanks at certain characters. What has been reached is a text in which

> `IsSpaced`: blanks are single spaces between visible characters, and certain pairs of characters
> do not stand next to each other, one of them a space.

At first two spaces are the only pair (`isSpaced_words`). Putting the text in lower case keeps the
spaces where they are (`isSpaced_lowerAfter`). To drop the spaces of a pair adds the pair to those
that do not stand there (`IsSpaced.drop`): nothing comes next to each other but visible characters.

In such a text there is nothing left to tidy: joining its words gives the text itself
(`intercalate_words`), and what is dropped does not occur (`IsSpaced.replaceAll_eq`).
-/

namespace SchemaConversion.Text

/-! ## Words -/

variable {cut : Char → Bool} {x : Char} {a b l : List Char}

theorem pieces_cons (cut : Char → Bool) (c : Char) (rest : List Char) :
    pieces cut (c :: rest) =
      if cut c then [] :: pieces cut rest else (pieces cut rest).modifyHead (c :: ·) := by
  rw [pieces]
  cases h : pieces cut rest with
  | nil => exact absurd h (pieces_ne_nil cut rest)
  | cons piece more => rfl

/-- A text is cut into the pieces before and behind a place where it is cut. -/
theorem pieces_append (h : cut x = true) (a b : List Char) :
    pieces cut (a ++ x :: b) = pieces cut a ++ pieces cut b := by
  induction a with
  | nil => rw [List.nil_append, pieces_cons, if_pos h, pieces, List.singleton_append]
  | cons c a ih =>
    rw [List.cons_append, pieces_cons, pieces_cons, ih]
    split
    · rfl
    · cases hpieces : pieces cut a with
      | nil => exact absurd hpieces (pieces_ne_nil cut a)
      | cons piece more => rfl

theorem words_append (h : isBlank x = true) (a b : List Char) :
    words (a ++ x :: b) = words a ++ words b := by
  unfold words
  rw [pieces_append h, List.filter_append]

/-- The first piece is what stands before the first cut. -/
theorem pieces_eq_cons (cut : Char → Bool) (l : List Char) :
    ∃ rest, pieces cut l = l.takeWhile (fun c => !cut c) :: rest := by
  induction l with
  | nil => exact ⟨[], rfl⟩
  | cons c l ih =>
    obtain ⟨rest, hrest⟩ := ih
    rw [pieces_cons, List.takeWhile_cons, hrest]
    cases cut c with
    | true => exact ⟨_, rfl⟩
    | false => exact ⟨rest, rfl⟩

/-- A text without a place to cut is one piece. -/
theorem pieces_eq_singleton (h : ∀ c ∈ l, cut c = false) : pieces cut l = [l] := by
  induction l with
  | nil => rfl
  | cons c l ih =>
    rw [pieces_cons, ih fun d hd => h d (List.mem_cons_of_mem c hd), h c List.mem_cons_self]
    rfl

/-- There is no place to cut in a piece. -/
theorem not_cut_of_mem_pieces {piece : List Char} {c : Char} (hpiece : piece ∈ pieces cut l)
    (hc : c ∈ piece) : cut c = false := by
  induction l generalizing piece with
  | nil =>
    rw [pieces, List.mem_singleton] at hpiece
    rw [hpiece] at hc
    cases hc
  | cons d rest ih =>
    rw [pieces_cons] at hpiece
    split at hpiece
    · rcases List.mem_cons.1 hpiece with rfl | hpiece
      · cases hc
      · exact ih hpiece hc
    · next hd =>
      cases hpieces : pieces cut rest with
      | nil => exact absurd hpieces (pieces_ne_nil cut rest)
      | cons first more =>
        rw [hpieces] at ih hpiece
        rcases List.mem_cons.1 hpiece with rfl | hpiece
        · rcases List.mem_cons.1 hc with rfl | hc
          · exact Bool.eq_false_iff.2 hd
          · exact ih List.mem_cons_self hc
        · exact ih (List.mem_cons_of_mem first hpiece) hc

/-- A text without blanks. -/
def IsVisible (w : List Char) : Prop := ∀ c ∈ w, isBlank c = false

/-- Words are not empty and have no blanks. -/
theorem mem_words {w : List Char} (h : w ∈ words l) : w ≠ [] ∧ IsVisible w := by
  obtain ⟨hpiece, hne⟩ := List.mem_filter.1 h
  exact ⟨of_decide_eq_true hne, fun c hc => not_cut_of_mem_pieces hpiece hc⟩

theorem words_of_isVisible {w : List Char} (hne : w ≠ []) (h : IsVisible w) : words w = [w] := by
  unfold words
  rw [pieces_eq_singleton h, List.filter_cons_of_pos (by simpa using hne), List.filter_nil]

/-- A piece stands between places where the text is cut. -/
theorem exists_of_mem_pieces {piece : List Char} (h : piece ∈ pieces cut l) :
    ∃ before after, l = before ++ piece ++ after ∧ (∀ c ∈ before.getLast?, cut c = true) ∧
      ∀ c ∈ after.head?, cut c = true := by
  -- by induction on the length, from one cut to the next
  induction hn : l.length using Nat.strong_induction_on generalizing l with
  | _ n ih =>
    have hsplit : l.takeWhile (fun c => !cut c) ++ l.dropWhile (fun c => !cut c) = l :=
      List.takeWhile_append_dropWhile
    have hfirst : ∀ c ∈ l.takeWhile (fun c => !cut c), cut c = false := fun c hc => by
      simpa using List.mem_takeWhile_imp hc
    have hhead := List.head?_dropWhile_not (fun c => !cut c) l
    cases hrest : l.dropWhile (fun c => !cut c) with
    | nil =>
      rw [hrest, List.append_nil] at hsplit
      rw [hsplit] at hfirst
      rw [pieces_eq_singleton hfirst, List.mem_singleton] at h
      exact ⟨[], [], by simp [h], by simp, by simp⟩
    | cons x rest =>
      rw [hrest] at hsplit hhead
      have hx : cut x = true := by simpa using hhead
      rw [← hsplit, pieces_append hx, pieces_eq_singleton hfirst, List.singleton_append,
        List.mem_cons] at h
      rcases h with rfl | hmem
      · exact ⟨[], x :: rest, hsplit.symm, by simp, by simpa using hx⟩
      · have hshorter : rest.length < n := by
          rw [← hn, ← hsplit, List.length_append, List.length_cons]
          omega
        -- a piece behind the first cut is one of what is left there
        obtain ⟨before, after, heq, hbefore, hafter⟩ := ih _ hshorter hmem rfl
        refine ⟨l.takeWhile (fun c => !cut c) ++ x :: before, after, ?_, ?_, hafter⟩
        · rw [heq] at hsplit
          rw [List.append_assoc, List.append_assoc, List.cons_append, ← List.append_assoc before]
          exact hsplit.symm
        · cases before with
          | nil => simpa using hx
          | cons d before =>
            intro c hc
            refine hbefore c ?_
            rw [List.getLast?_append_of_ne_nil _ (List.cons_ne_nil _ _),
              List.getLast?_cons_cons] at hc
            exact hc

/-- What stands between blanks is a word. -/
theorem mem_words_of_between {w before after : List Char} (hne : w ≠ []) (hw : IsVisible w)
    (hbefore : ∀ c ∈ before.getLast?, isBlank c = true)
    (hafter : ∀ c ∈ after.head?, isBlank c = true) : w ∈ words (before ++ w ++ after) := by
  have hfront : w ∈ words (w ++ after) := by
    cases after with
    | nil =>
      rw [List.append_nil, words_of_isVisible hne hw]
      exact List.mem_singleton_self w
    | cons x rest =>
      rw [words_append (hafter x rfl), words_of_isVisible hne hw]
      exact List.mem_append_left _ (List.mem_singleton_self w)
  rw [List.append_assoc]
  rcases List.eq_nil_or_concat before with rfl | ⟨front, x, rfl⟩
  · exact hfront
  · rw [List.concat_eq_append, List.append_assoc, List.singleton_append,
      words_append (hbefore x (by simp))]
    exact List.mem_append_right _ hfront

/-- **The words of a text are what stands between its blanks.** -/
theorem mem_words_iff {w : List Char} :
    w ∈ words l ↔ w ≠ [] ∧ IsVisible w ∧ ∃ before after, l = before ++ w ++ after ∧
      (∀ c ∈ before.getLast?, isBlank c = true) ∧ ∀ c ∈ after.head?, isBlank c = true := by
  constructor
  · intro h
    obtain ⟨hne, hw⟩ := mem_words h
    exact ⟨hne, hw, exists_of_mem_pieces (List.mem_filter.1 h).1⟩
  · rintro ⟨hne, hw, before, after, rfl, hbefore, hafter⟩
    exact mem_words_of_between hne hw hbefore hafter

/-! ## Blanks in their places -/

/-- Blanks are single spaces between visible characters, and these pairs of characters do not stand
next to each other. -/
structure IsSpaced (pairs : List (Char × Char)) (l : List Char) : Prop where
  blank : ∀ c ∈ l, isBlank c = true → c = ' '
  trimmed : IsTrimmed l
  apart : l.IsChain fun c d => (c, d) ∉ pairs

variable {pairs : List (Char × Char)}

/-- One of the characters of each pair is the space, and two spaces are a pair. -/
structure AreLoose (pairs : List (Char × Char)) : Prop where
  space : ∀ pair ∈ pairs, pair.1 = ' ' ∨ pair.2 = ' '
  double : (' ', ' ') ∈ pairs

theorem ne_space {c : Char} (h : isBlank c = false) : c ≠ ' ' := by
  rintro rfl
  exact absurd h (by decide)

/-- Visible characters may stand next to each other. -/
theorem AreLoose.visible (hpairs : AreLoose pairs) {c d : Char} (hc : c ≠ ' ') (hd : d ≠ ' ') :
    (c, d) ∉ pairs := by
  intro hmem
  rcases hpairs.space _ hmem with hspace | hspace
  · exact hc hspace
  · exact hd hspace

theorem isSpaced_nil : IsSpaced pairs [] :=
  ⟨fun _ hc => absurd hc List.not_mem_nil, ⟨fun _ hc => (by cases hc), fun _ hc => (by cases hc)⟩,
    .nil⟩

theorem isSpaced_of_isVisible {w : List Char} (hpairs : AreLoose pairs) (h : IsVisible w) :
    IsSpaced pairs w := by
  refine ⟨fun c hc hblank => ?_, ⟨fun c hc => h c (List.mem_of_head? hc), fun c hc =>
    h c (List.mem_of_getLast? hc)⟩, List.Pairwise.isChain ?_⟩
  · rw [h c hc] at hblank
    cases hblank
  · exact List.pairwise_of_forall_mem_list fun c hc d hd =>
      hpairs.visible (ne_space (h c hc)) (ne_space (h d hd))

/-- Texts may be put one behind the other. -/
theorem IsSpaced.append (hpairs : AreLoose pairs) (ha : IsSpaced pairs a) (hb : IsSpaced pairs b) :
    IsSpaced pairs (a ++ b) := by
  refine ⟨fun c hc => ?_, ⟨fun c hc => ?_, fun c hc => ?_⟩, List.isChain_append.2
    ⟨ha.apart, hb.apart, fun c hc d hd =>
      hpairs.visible (ne_space (ha.trimmed.2 c hc)) (ne_space (hb.trimmed.1 d hd))⟩⟩
  · rcases List.mem_append.1 hc with hc | hc
    · exact ha.blank c hc
    · exact hb.blank c hc
  · cases a with
    | nil => exact hb.trimmed.1 c hc
    | cons d a => exact ha.trimmed.1 c hc
  · by_cases hne : b = []
    · rw [hne, List.append_nil] at hc
      exact ha.trimmed.2 c hc
    · rw [List.getLast?_append_of_ne_nil _ hne] at hc
      exact hb.trimmed.2 c hc

/-- A part of a text may be trimmed. -/
theorem IsSpaced.trimChars (h : IsSpaced pairs l) (hpart : a <:+: l) :
    IsSpaced pairs (trimChars a) := by
  have hinner : Text.trimChars a <:+: l := (trimChars_isInfix a).trans hpart
  exact ⟨fun c hc => h.blank c (hinner.subset hc), isTrimmed_trimChars a, h.apart.infix hinner⟩

/-- Texts may be joined by a space that is kept from what stands next to it by no pair. -/
theorem IsSpaced.join (ha : IsSpaced pairs a) (hb : IsSpaced pairs b) (hne : a ≠ [])
    (hne' : b ≠ []) (hlast : ∀ c ∈ a.getLast?, (c, ' ') ∉ pairs)
    (hfirst : ∀ d ∈ b.head?, (' ', d) ∉ pairs) : IsSpaced pairs (a ++ ' ' :: b) := by
  refine ⟨fun c hc => ?_, ⟨fun c hc => ?_, fun c hc => ?_⟩, List.isChain_append.2
    ⟨ha.apart, List.isChain_cons.2 ⟨hfirst, hb.apart⟩, fun c hc d hd => ?_⟩⟩
  · rcases List.mem_append.1 hc with hc | hc
    · exact ha.blank c hc
    · rcases List.mem_cons.1 hc with rfl | hc
      · exact fun _ => rfl
      · exact hb.blank c hc
  · rw [List.head?_append_of_ne_nil _ hne] at hc
    exact ha.trimmed.1 c hc
  · rw [← List.singleton_append, ← List.append_assoc, List.getLast?_append_of_ne_nil _ hne'] at hc
    exact hb.trimmed.2 c hc
  · obtain rfl := Option.some.inj hd
    exact hlast c hc

/-- The words of a text, joined by spaces. -/
theorem isSpaced_words (s : List Char) :
    IsSpaced [(' ', ' ')] ([' '].intercalate (words s)) := by
  have hpairs : AreLoose [(' ', ' ')] := ⟨by simp, by simp⟩
  have hall : ∀ w ∈ words s, w ≠ [] ∧ IsVisible w := fun w hw => mem_words hw
  generalize words s = ws at hall
  induction ws with
  | nil => exact isSpaced_nil
  | cons w ws ih =>
    obtain ⟨hne, hvisible⟩ := hall w List.mem_cons_self
    have hw := isSpaced_of_isVisible hpairs hvisible
    cases ws with
    | nil =>
      rw [List.intercalate_singleton]
      exact hw
    | cons w' ws =>
      have hrest := ih fun v hv => hall v (List.mem_cons_of_mem w hv)
      have hne' : [' '].intercalate (w' :: ws) ≠ [] := by
        intro hnil
        have hfirst := (hall w' (by simp)).1
        cases ws with
        | nil =>
          rw [List.intercalate_singleton] at hnil
          exact hfirst hnil
        | cons v ws =>
          rw [List.intercalate_cons_cons] at hnil
          simp at hnil
      have hapart {c d : Char} (h : c ≠ ' ' ∨ d ≠ ' ') : (c, d) ∉ [(' ', ' ')] := by
        intro hmem
        obtain ⟨rfl, rfl⟩ := Prod.mk.inj (List.mem_singleton.1 hmem)
        rcases h with h | h <;> exact h rfl
      rw [List.intercalate_cons_cons, List.append_assoc]
      exact hw.join hrest hne hne' (fun c hc => hapart (.inl (ne_space (hw.trimmed.2 c hc))))
        fun d hd => hapart (.inr (ne_space (hrest.trimmed.1 d hd)))

/-- Nothing changes if a text in which blanks are in their places is cut into words and joined. -/
theorem intercalate_words (hpairs : AreLoose pairs) (h : IsSpaced pairs l) :
    [' '].intercalate (words l) = l := by
  -- by induction on what stands behind the beginning of the first word
  have hgo : ∀ w, IsVisible w → IsSpaced pairs (w ++ l) →
      [' '].intercalate (words (w ++ l)) = w ++ l := by
    clear h
    induction l with
    | nil =>
      intro w hw _
      rw [List.append_nil]
      by_cases hne : w = []
      · rw [hne]
        rfl
      · rw [words_of_isVisible hne hw, List.intercalate_singleton]
    | cons c l ih =>
      intro w hw h
      by_cases hc : isBlank c = true
      · obtain rfl := h.blank c (by simp) hc
        -- a space ends the word, and as the text is trimmed there is a word before it and something
        -- behind it
        have hne : w ≠ [] := by
          rintro rfl
          exact absurd (h.trimmed.1 ' ' rfl) (by decide)
        obtain ⟨-, hrest, -⟩ := List.isChain_append.1 h.apart
        obtain ⟨hnext, hchain⟩ := List.isChain_cons.1 hrest
        have hne' : l ≠ [] := by
          rintro rfl
          exact absurd (h.trimmed.2 ' ' (by rw [List.getLast?_concat]; rfl)) (by decide)
        have hspaced : IsSpaced pairs l := by
          refine ⟨fun d hd => h.blank d (by simp [hd]), ⟨fun d hd => ?_, fun d hd => ?_⟩, hchain⟩
          · by_contra hblank
            obtain rfl := h.blank d (by simp [List.mem_of_head? hd]) (by simpa using hblank)
            exact hnext ' ' hd hpairs.double
          · refine h.trimmed.2 d ?_
            rw [List.getLast?_append_cons, List.getLast?_cons, hd]
            rfl
        have hjoined := ih [] (fun d hd => absurd hd List.not_mem_nil) hspaced
        rw [List.nil_append] at hjoined
        have hwords : words l ≠ [] := by
          intro hnil
          rw [hnil, List.intercalate_nil] at hjoined
          exact hne' hjoined.symm
        rw [words_append hc, words_of_isVisible hne hw, List.singleton_append,
          List.intercalate_cons_of_ne_nil hwords, hjoined, List.append_assoc]
        rfl
      -- the word goes on
      · have hvisible : IsVisible (w ++ [c]) := by
          intro d hd
          rcases List.mem_append.1 hd with hd | hd
          · exact hw d hd
          · rw [List.mem_singleton.1 hd]
            exact Bool.eq_false_iff.2 hc
        have hjoined := ih (w ++ [c]) hvisible (by rw [List.append_assoc]; exact h)
        rw [List.append_assoc] at hjoined
        exact hjoined
  exact hgo [] (fun c hc => absurd hc List.not_mem_nil) h

/-! ## Blanks in lower case -/

/-- What becomes of a character is no blank but the space, if the character is no other blank. -/
theorem eq_space_of_lowered {c d : Char} {ends : Bool} (hc : isBlank c = true → c = ' ')
    (hd : d ∈ if c = 'Σ' then [if ends then 'ς' else 'σ'] else lowerChar c)
    (hblank : isBlank d = true) : c = ' ' ∧ d = ' ' := by
  have hspace : c = ' ' := by
    refine hc ?_
    by_contra hvisible
    rw [(isLowered_form hd).visible (by simpa using hvisible)] at hblank
    cases hblank
  obtain rfl := hspace
  have hform : d ∈ [' '] := hd
  exact ⟨rfl, List.mem_singleton.1 hform⟩

/-- Spaces in lower case stand where spaces stood. -/
theorem isSpaced_lowerAfter (before : List Char) (h : IsSpaced [(' ', ' ')] l) :
    IsSpaced [(' ', ' ')] (lowerAfter before l) := by
  have htrimmed := h.trimmed.lowerAfter before
  obtain ⟨hblank, -, hchain⟩ := h
  suffices hgo : (∀ d ∈ lowerAfter before l, isBlank d = true → d = ' ') ∧
      (lowerAfter before l).IsChain fun c d => (c, d) ∉ [(' ', ' ')] from ⟨hgo.1, htrimmed, hgo.2⟩
  clear htrimmed
  induction l generalizing before with
  | nil => exact ⟨fun d hd => absurd hd List.not_mem_nil, .nil⟩
  | cons c rest ih =>
    obtain ⟨hnext, hrest⟩ := List.isChain_cons.1 hchain
    have hc := hblank c List.mem_cons_self
    obtain ⟨hblanks, hlowered⟩ :=
      ih (c :: before) (fun d hd => hblank d (List.mem_cons_of_mem c hd)) hrest
    rw [lowerAfter]
    refine ⟨fun d hd hd' => ?_, List.isChain_append.2 ⟨?_, hlowered, fun d hd e he hpair => ?_⟩⟩
    · rcases List.mem_append.1 hd with hd | hd
      · exact (eq_space_of_lowered hc hd hd').2
      · exact hblanks d hd hd'
    · -- a character becomes a space only if it is one, and a space stays alone
      by_cases hspace : c = ' '
      · rw [hspace]
        exact .singleton _
      · refine List.Pairwise.isChain (List.pairwise_of_forall_mem_list fun d hd e _ hpair => ?_)
        obtain ⟨rfl, -⟩ := Prod.mk.inj (List.mem_singleton.1 hpair)
        exact hspace (eq_space_of_lowered hc hd (by decide)).1
    · -- two spaces next to each other come from two spaces
      obtain ⟨rfl, rfl⟩ := Prod.mk.inj (List.mem_singleton.1 hpair)
      obtain ⟨rfl, -⟩ := eq_space_of_lowered hc (List.mem_of_getLast? hd) (by decide)
      obtain ⟨next, hfirst, hform⟩ := head?_lowerAfter he
      have hmem : next ∈ rest := List.mem_of_head? hfirst
      have hspace : next = ' ' := by
        refine hblank next (List.mem_cons_of_mem _ hmem) ?_
        by_contra hvisible
        exact absurd (hform.visible (by simpa using hvisible)) (by decide)
      rw [hspace] at hfirst
      exact hnext ' ' hfirst (by simp)

/-! ## Blanks that are dropped -/

/-- Replacing two characters by one: the text is gone through character by character. -/
theorem replaceAll_cons_cons (p q k c d : Char) (rest : List Char) :
    replaceAll [p, q] [k] (c :: d :: rest) =
      if c = p ∧ d = q then k :: replaceAll [p, q] [k] rest
      else c :: replaceAll [p, q] [k] (d :: rest) := by
  unfold replaceAll
  rw [replaceFrom, List.isPrefixOf_cons_cons, List.isPrefixOf_cons_cons]
  by_cases h : c = p ∧ d = q
  · obtain ⟨rfl, rfl⟩ := h
    simp [replaceFrom, List.isPrefixOf]
  · have hno : (p == c && (q == d && List.isPrefixOf [] rest)) = false := by
      rw [Bool.eq_false_iff]
      intro hyes
      simp only [Bool.and_eq_true, beq_iff_eq] at hyes
      exact h ⟨hyes.1.symm, hyes.2.1.symm⟩
    rw [hno, if_neg h]
    rfl

theorem replaceAll_singleton (p q k c : Char) : replaceAll [p, q] [k] [c] = [c] := by
  unfold replaceAll
  rw [replaceFrom, List.isPrefixOf_cons_cons, show List.isPrefixOf [q] [] = false from rfl,
    Bool.and_false]
  rfl

/-- A pair of a space and a visible character, which alone is kept. -/
structure Drops (p q k : Char) : Prop where
  pair : p = ' ' ∧ q = k ∨ p = k ∧ q = ' '
  visible : isBlank k = false

variable {p q k : Char}

/-- Nothing comes in where spaces are dropped. -/
theorem Drops.mem (h : Drops p q k) {c : Char} (hc : c ∈ replaceAll [p, q] [k] l) : c ∈ l := by
  induction l using List.twoStepInduction with
  | nil => exact hc
  | singleton d =>
    rw [replaceAll_singleton] at hc
    exact hc
  | cons_cons d e rest ih ih' =>
    rw [replaceAll_cons_cons] at hc
    split at hc
    · next heq =>
      obtain ⟨rfl, rfl⟩ := heq
      rcases List.mem_cons.1 hc with rfl | hc
      · rcases h.pair with ⟨-, rfl⟩ | ⟨rfl, -⟩ <;> simp
      · exact List.mem_cons_of_mem _ (List.mem_cons_of_mem _ (ih hc))
    · rcases List.mem_cons.1 hc with rfl | hc
      · exact List.mem_cons_self
      · exact List.mem_cons_of_mem _ (ih' e hc)

/-- A text that has no blanks at its ends still has none. -/
theorem Drops.trimmed (h : Drops p q k) (hl : IsTrimmed l) :
    IsTrimmed (replaceAll [p, q] [k] l) := by
  constructor
  · intro c hc
    cases l with
    | nil => cases hc
    | cons d rest =>
      cases rest with
      | nil =>
        rw [replaceAll_singleton] at hc
        exact hl.1 c hc
      | cons e rest =>
        rw [replaceAll_cons_cons] at hc
        split at hc
        · cases hc
          exact h.visible
        · exact hl.1 c hc
  · intro c hc
    have hlast := hl.2
    clear hl
    induction l using List.twoStepInduction with
    | nil => cases hc
    | singleton d =>
      rw [replaceAll_singleton] at hc
      exact hlast c hc
    | cons_cons d e rest ih ih' =>
      rw [replaceAll_cons_cons] at hc
      split at hc
      · -- what is kept is visible, and it may be the last
        cases hrest : replaceAll [p, q] [k] rest with
        | nil =>
          rw [hrest] at hc
          cases hc
          exact h.visible
        | cons f more =>
          refine ih ?_ fun d' hd' => hlast d' ?_
          · rw [hrest] at hc ⊢
            rw [List.getLast?_cons_cons] at hc
            exact hc
          · rw [List.getLast?_cons_cons, List.getLast?_cons, hd']
            rfl
      · refine ih' e ?_ fun d' hd' => hlast d' ?_
        · cases hrest : replaceAll [p, q] [k] (e :: rest) with
          | nil =>
            -- a text does not disappear
            exfalso
            cases rest with
            | nil =>
              rw [replaceAll_singleton] at hrest
              cases hrest
            | cons f rest =>
              rw [replaceAll_cons_cons] at hrest
              split at hrest <;> cases hrest
          | cons f more =>
            rw [hrest, List.getLast?_cons_cons] at hc
            exact hc
        · rw [List.getLast?_cons_cons]
          exact hd'

/-- **The pair is gone, and no other pair comes in**: what a space was dropped from is visible. -/
theorem Drops.apart (h : Drops p q k) (hpairs : AreLoose pairs) (c : Char)
    (hl : (c :: l).IsChain fun c d => (c, d) ∉ pairs) (hfirst : ¬(c = p ∧ l.head? = some q)) :
    (c :: replaceAll [p, q] [k] l).IsChain fun c d => (c, d) ∉ (p, q) :: pairs := by
  have hk := ne_space h.visible
  -- two characters that may stand next to each other and are not the pair
  have hkeep {c d : Char} (hcd : (c, d) ∉ pairs) (hne : ¬(c = p ∧ d = q)) :
      (c, d) ∉ (p, q) :: pairs := by
    intro hmem
    rcases List.mem_cons.1 hmem with heq | hmem
    · exact hne (Prod.mk.inj heq)
    · exact hcd hmem
  induction l using List.twoStepInduction generalizing c with
  | nil => exact .singleton c
  | singleton d =>
    rw [replaceAll_singleton]
    have hcd := (List.isChain_cons_cons.1 hl).1
    exact List.isChain_cons_cons.2 ⟨hkeep hcd fun heq => hfirst ⟨heq.1, by rw [heq.2]; rfl⟩,
      .singleton d⟩
  | cons_cons d e rest ih ih' =>
    obtain ⟨hcd, hrest⟩ := List.isChain_cons_cons.1 hl
    obtain ⟨hde, hrest'⟩ := List.isChain_cons_cons.1 hrest
    rw [replaceAll_cons_cons]
    split
    · next heq =>
      obtain ⟨rfl, rfl⟩ := heq
      rcases h.pair with ⟨rfl, rfl⟩ | ⟨rfl, rfl⟩
      · -- a space before the character that is kept
        have hc : c ≠ ' ' := by
          rintro rfl
          exact hcd hpairs.double
        exact List.isChain_cons_cons.2 ⟨hkeep (hpairs.visible hc hk) fun heq => hc heq.1,
          ih e hrest' fun heq => hk heq.1⟩
      · -- a space behind it
        have hnext : ∀ f ∈ rest.head?, f ≠ ' ' := by
          rintro f hf rfl
          exact (List.isChain_cons.1 hrest').1 ' ' hf hpairs.double
        refine List.isChain_cons_cons.2 ⟨hkeep hcd fun heq => hk heq.2, ih d ?_ ?_⟩
        · exact List.isChain_cons.2 ⟨fun f hf => hpairs.visible hk (hnext f hf),
            (List.isChain_cons.1 hrest').2⟩
        · rintro ⟨-, hspace⟩
          exact hnext ' ' hspace rfl
    · next hne =>
      refine List.isChain_cons_cons.2 ⟨hkeep hcd fun heq => hfirst ⟨heq.1, by rw [heq.2]; rfl⟩,
        ih' e d hrest fun heq => hne ⟨heq.1, ?_⟩⟩
      exact Option.some.inj heq.2

/-- **One pair more.** -/
theorem IsSpaced.drop (h : Drops p q k) (hpairs : AreLoose pairs) (hl : IsSpaced pairs l) :
    IsSpaced ((p, q) :: pairs) (replaceAll [p, q] [k] l) := by
  refine ⟨fun c hc => hl.blank c (h.mem hc), h.trimmed hl.trimmed, ?_⟩
  have hk := ne_space h.visible
  have hhead : ∀ c ∈ l.head?, c ≠ ' ' := fun c hc => ne_space (hl.trimmed.1 c hc)
  -- the character that is kept may stand before the text
  refine (List.isChain_cons.1 (h.apart hpairs k (List.isChain_cons.2
    ⟨fun c hc => hpairs.visible hk (hhead c hc), hl.apart⟩) ?_)).2
  rintro ⟨rfl, hq⟩
  rcases h.pair with ⟨hspace, -⟩ | ⟨-, rfl⟩
  · exact hk hspace
  · exact hhead ' ' hq rfl

theorem AreLoose.cons (hpairs : AreLoose pairs) (h : Drops p q k) : AreLoose ((p, q) :: pairs) := by
  refine ⟨fun pair hpair => ?_, List.mem_cons_of_mem _ hpairs.double⟩
  rcases List.mem_cons.1 hpair with rfl | hpair
  · rcases h.pair with ⟨hspace, -⟩ | ⟨-, hspace⟩
    · exact .inl hspace
    · exact .inr hspace
  · exact hpairs.space pair hpair

/-- What occurs in a text is an infix of it. -/
theorem occurs_iff {pattern : List Char} : occurs pattern l = true ↔ pattern <:+: l := by
  induction l with
  | nil => simp [occurs]
  | cons c rest ih =>
    rw [occurs, Bool.or_eq_true, ih, List.isPrefixOf_iff_prefix, List.infix_cons_iff]

/-- A pair that does not stand anywhere does not occur. -/
theorem IsSpaced.replaceAll_eq (h : IsSpaced pairs l) (hpair : (p, q) ∈ pairs)
    (replacement : List Char) : replaceAll [p, q] replacement l = l := by
  refine replaceAll_of_not_occurs replacement ?_
  -- where the pair occurs, its characters stand next to each other
  have hchain := h.apart
  clear h
  induction l with
  | nil => rfl
  | cons c rest ih =>
    obtain ⟨hnext, hrest⟩ := List.isChain_cons.1 hchain
    rw [occurs, ih hrest, Bool.or_false, Bool.eq_false_iff]
    intro hprefix
    obtain ⟨more, hmore⟩ := List.isPrefixOf_iff_prefix.1 hprefix
    rw [List.cons_append, List.cons_append, List.cons.injEq] at hmore
    obtain ⟨rfl, hmore⟩ := hmore
    exact hnext q (by rw [← hmore]; rfl) hpair

end SchemaConversion.Text
