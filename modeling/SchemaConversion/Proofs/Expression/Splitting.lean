import SchemaConversion.Proofs.Expression.Placeholder

/-!
# Splitting a condition

Which parts a condition has can be said without taking them off one after the other: a stretch in
quotes goes on to the same quote again, or to the end if there is none, a word goes on while there
are letters, digits and underscores, and any other character is a part of its own. This leaves no
choice:

> `segments_eq_iff`: a condition is split into its parts in one way.

The placeholder is a word between two characters of the other kind, so that putting it in place of
words `VALUE` moves no boundary of another part:

> `Splits.placed`: the condition for a column is split into the parts of the condition, the
> placeholder's own parts in place of each word `VALUE`.

> `forColumn_replaces_words`: hence the placeholder is put for the words `VALUE` of the one split
> and for nothing else, what is in quotes is left alone, and nothing is left to replace.
-/

namespace SchemaConversion.Expression

/-- A condition consists of these parts, one behind the other. -/
inductive Splits : List Char → List Segment → Prop
  | nil : Splits [] []
  /-- A word, which what follows does not go on with. -/
  | word {letters rest : List Char} {parts : List Segment} (nonempty : letters ≠ [])
      (all : ∀ c ∈ letters, isWordChar c = true) (ends : ∀ c ∈ rest.head?, isWordChar c = false)
      (others : Splits rest parts) : Splits (letters ++ rest) (.word letters :: parts)
  /-- A stretch in quotes up to the same quote again. -/
  | closed {quote : Char} {inside rest : List Char} {parts : List Segment}
      (opens : isQuote quote = true) (inner : quote ∉ inside) (others : Splits rest parts) :
      Splits (quote :: (inside ++ quote :: rest)) (.quoted (quote :: (inside ++ [quote])) :: parts)
  /-- A stretch in quotes which is not closed. -/
  | unclosed {quote : Char} {inside : List Char} (opens : isQuote quote = true)
      (inner : quote ∉ inside) : Splits (quote :: inside) [.quoted (quote :: inside)]
  /-- Any other character. -/
  | mark {c : Char} {rest : List Char} {parts : List Segment} (single : isWordChar c = false)
      (plain : isQuote c = false) (others : Splits rest parts) :
      Splits (c :: rest) (.mark c :: parts)

/-- A part that stands in quotes. -/
def Segment.isQuoted : Segment → Bool
  | .quoted _ => true
  | _ => false

/-- The parts of the placeholder. -/
def placeholderParts : List Segment := [.mark '\x7b', .word "column".toList, .mark '\x7d']

/-- The parts that stand in the condition for a column where this one stood. -/
def Segment.placed (part : Segment) : List Segment :=
  if part.isValue then placeholderParts else [part]

variable {l letters : List Char} {parts : List Segment} {quote : Char}

/-! ## The one way to split a condition -/

theorem not_isWordChar_of_isQuote (h : isQuote quote = true) : isWordChar quote = false := by
  have hopens : quote = '\'' ∨ quote = '"' := by simpa [isQuote] using h
  rcases hopens with rfl | rfl <;> decide +kernel

theorem all_ne_of_notMem (h : quote ∉ l) : ∀ c ∈ l, decide (c ≠ quote) = true := fun _ hc =>
  decide_eq_true fun heq => h (heq ▸ hc)

/-- A quote is closed where it comes again. -/
theorem upTo_append (hinside : quote ∉ letters) (rest : List Char) :
    upTo quote (letters ++ quote :: rest) = letters ++ [quote] ∧
      past quote (letters ++ quote :: rest) = rest := by
  have hall := all_ne_of_notMem hinside
  unfold upTo past
  rw [List.takeWhile_append_of_pos hall, List.dropWhile_append_of_pos hall]
  simp

/-- A quote that is not closed goes on to the end. -/
theorem upTo_of_notMem (hinside : quote ∉ l) : upTo quote l = l ∧ past quote l = [] := by
  have hall := all_ne_of_notMem hinside
  unfold upTo past
  rw [List.takeWhile_eq_self_iff.2 hall, List.dropWhile_eq_nil_iff.2 hall]
  simp

/-- Either something in the text closes the quote or it stays open. -/
theorem splits_quoted (opens : isQuote quote = true) (l : List Char)
    (others : Splits (past quote l) parts) (hend : past quote l = [] → parts = []) :
    Splits (quote :: l) (.quoted (quote :: upTo quote l) :: parts) := by
  by_cases hmem : quote ∈ l
  · obtain ⟨inside, rest, rfl, hinside⟩ := List.eq_append_cons_of_mem hmem
    obtain ⟨hup, hpast⟩ := upTo_append hinside rest
    rw [hpast] at others
    rw [hup]
    exact .closed opens hinside others
  · obtain ⟨hup, hpast⟩ := upTo_of_notMem hmem
    rw [hend hpast, hup]
    exact .unclosed opens hmem

/-- The parts taken off one after the other are a split of the condition. -/
theorem splits_segments (l : List Char) : Splits l (segments l) := by
  induction l using segments.induct with
  | case1 =>
    rw [segments]
    exact .nil
  | case2 c rest hword ih =>
    have hall : ∀ d ∈ c :: rest.takeWhile isWordChar, isWordChar d = true := by
      rw [List.forall_mem_cons]
      exact ⟨hword, fun d hd => List.mem_takeWhile_imp hd⟩
    -- a word is taken off as a whole, so it does not go on
    have hends : ∀ d ∈ (rest.dropWhile isWordChar).head?, isWordChar d = false := fun d hd => by
      have hhead := List.head?_dropWhile_not isWordChar rest
      rw [hd] at hhead
      simpa using hhead
    have hsplits := Splits.word (List.cons_ne_nil _ _) hall hends ih
    rw [List.cons_append, List.takeWhile_append_dropWhile] at hsplits
    rwa [segments, if_pos hword]
  | case3 c rest hword hquote ih =>
    rw [segments, if_neg hword, if_pos hquote]
    exact splits_quoted hquote rest ih fun hnil => by rw [hnil, segments]
  | case4 c rest hword hquote ih =>
    rw [segments, if_neg hword, if_neg hquote]
    exact .mark (by simpa using hword) (by simpa using hquote) ih

/-- Any split of the condition is into these parts. -/
theorem Splits.segments_eq (h : Splits l parts) : segments l = parts := by
  induction h with
  | nil => rw [segments]
  | @word letters rest parts nonempty all ends _ ih =>
    cases letters with
    | nil => exact absurd rfl nonempty
    | cons c letters =>
      obtain ⟨hc, hletters⟩ := List.forall_mem_cons.1 all
      -- nothing of what follows is taken for the word
      have hrest : rest.takeWhile isWordChar = [] ∧ rest.dropWhile isWordChar = rest := by
        cases rest with
        | nil => exact ⟨rfl, rfl⟩
        | cons d rest =>
          have hd : ¬isWordChar d = true := by simp [ends d rfl]
          exact ⟨List.takeWhile_cons_of_neg hd, List.dropWhile_cons_of_neg hd⟩
      rw [List.cons_append, segments, if_pos hc, List.takeWhile_append_of_pos hletters,
        List.dropWhile_append_of_pos hletters, hrest.1, hrest.2, List.append_nil, ih]
  | @closed quote inside rest parts opens inner _ ih =>
    obtain ⟨hup, hpast⟩ := upTo_append inner rest
    rw [segments, if_neg (by simp [not_isWordChar_of_isQuote opens]), if_pos opens, hup, hpast, ih]
  | unclosed opens inner =>
    obtain ⟨hup, hpast⟩ := upTo_of_notMem inner
    rw [segments, if_neg (by simp [not_isWordChar_of_isQuote opens]), if_pos opens, hup, hpast,
      segments]
  -- neither of the other two kinds of part begins with this character
  | mark single plain _ ih =>
    rw [segments, if_neg (by simp [single]), if_neg (by simp [plain]), ih]

/-- **A condition is split in one way.** -/
theorem segments_eq_iff : segments l = parts ↔ Splits l parts :=
  ⟨fun h => h ▸ splits_segments l, Splits.segments_eq⟩

/-! ## The parts of the condition for a column -/

/-- The placeholder has no word `VALUE` in it, so that there is nothing left to replace. -/
theorem Segment.flatMap_placed (part : Segment) (value : List Char) :
    part.placed.flatMap (withValue value) = part.withValue columnPlaceholder.toList := by
  have hnone : placeholderParts.flatMap (withValue value) = columnPlaceholder.toList := rfl
  rw [withValue_eq]
  unfold placed
  split
  · exact hnone
  · next hother => rw [List.flatMap_singleton, withValue_eq, if_neg hother]

theorem Segment.filter_placed (part : Segment) :
    part.placed.filter isQuoted = [part].filter isQuoted := by
  cases part with
  | word letters =>
    unfold placed
    split <;> rfl
  | quoted text => rfl
  | mark c => rfl

/-- Where no word goes on, none does so with something in place of the words `VALUE`. -/
theorem Splits.ends_withValue (h : Splits l parts) (hends : ∀ c ∈ l.head?, isWordChar c = false)
    (value : List Char) :
    ∀ c ∈ (parts.flatMap (Segment.withValue value)).head?, isWordChar c = false := by
  cases h with
  | nil => exact hends
  | @word letters _ _ nonempty all _ _ =>
    cases letters with
    | nil => exact absurd rfl nonempty
    | cons d letters =>
      have hword := all d List.mem_cons_self
      rw [hends d rfl] at hword
      cases hword
  | closed _ _ _ => exact hends
  | unclosed _ _ => exact hends
  | mark _ _ _ => exact hends

/-- **The condition for a column is split into the parts of the condition**, those of the
placeholder in place of the words `VALUE`. -/
theorem Splits.placed (h : Splits l parts) :
    Splits (parts.flatMap (Segment.withValue columnPlaceholder.toList))
      (parts.flatMap Segment.placed) := by
  induction h with
  | nil => exact .nil
  | @word letters rest parts nonempty all ends others ih =>
    -- a word that is replaced behind this one does not lengthen it either
    have hends := others.ends_withValue ends columnPlaceholder.toList
    rw [List.flatMap_cons, List.flatMap_cons, Segment.withValue_eq]
    unfold Segment.placed
    split
    · -- the braces are no part of a word, so the placeholder meets no word next to it
      have hletters : "column".toList.all isWordChar = true := by decide +kernel
      have hclose := Splits.mark (c := '\x7d') (by decide +kernel) (by decide) ih
      have hcolumn := Splits.word (by decide) (List.all_eq_true.1 hletters)
        (fun c hc => by cases hc; decide +kernel) hclose
      exact .mark (by decide +kernel) (by decide) hcolumn
    · exact .word nonempty all hends ih
  | @closed quote inside rest parts opens inner _ ih =>
    have hsplits := Splits.closed opens inner ih
    rw [List.flatMap_cons, List.flatMap_cons]
    simpa [Segment.withValue, Segment.text, Segment.placed, Segment.isValue] using hsplits
  | unclosed opens inner =>
    rw [List.flatMap_singleton, List.flatMap_singleton]
    exact .unclosed opens inner
  | mark single plain _ ih => exact .mark single plain ih

/-- **The words `VALUE` outside of quotes are replaced and nothing else is.** -/
theorem forColumn_replaces_words (condition : String) :
    (∀ parts, Splits condition.toList parts ↔ parts = segments condition.toList) ∧
      (forColumn condition).toList =
        (segments condition.toList).flatMap (Segment.withValue columnPlaceholder.toList) ∧
      (segments (forColumn condition).toList).filter Segment.isQuoted =
        (segments condition.toList).filter Segment.isQuoted ∧
      forColumn (forColumn condition) = forColumn condition := by
  have hparts : segments (forColumn condition).toList =
      (segments condition.toList).flatMap Segment.placed := by
    rw [toList_forColumn]
    exact (splits_segments condition.toList).placed.segments_eq
  refine ⟨fun parts => segments_eq_iff.symm.trans eq_comm, toList_forColumn condition, ?_, ?_⟩
  -- no part of the placeholder stands in quotes
  · rw [hparts, List.filter_flatMap]
    simp only [Segment.filter_placed]
    rw [← List.filter_flatMap, List.flatMap_singleton']
  -- the placeholder has no word that would be replaced again
  · rw [← String.toList_inj, toList_forColumn (forColumn condition), hparts, toList_forColumn,
      List.flatMap_assoc]
    simp only [Segment.flatMap_placed]

end SchemaConversion.Expression
