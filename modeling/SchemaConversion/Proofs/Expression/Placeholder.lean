import SchemaConversion.Proofs.Expression.Literals
import SchemaConversion.Proofs.Expression.Segments

/-!
# The name in place of the placeholder

What a condition says of a column is written with a placeholder, which gives way to the name of a
field once the column is known. The placeholder is a text like any other, and a value or a condition
of the source may contain it:

> `replaceText_listing`: a list of values names the field and keeps the values exactly if none of
> them contains the placeholder, unless the field has its name.

> `replaceText_forColumn`: a condition names the field in place of its words `VALUE` and keeps the
> rest exactly if the condition does not contain the placeholder, with the same exception.

For both the text with the placeholder is taken for texts with something in between: the stretches
of a condition between the words `VALUE`.
-/

namespace SchemaConversion.Expression

open Text (replaceAll replaceText)

variable {name condition : String} {values : List String}

/-- The condition that a column of this name has one of the values. -/
def listing (name : String) (values : List String) : String :=
  name ++ " IN (" ++ literalList values ++ ")"

/-- The condition with a name in place of each word `VALUE` outside of quotes. -/
def naming (name condition : String) : String :=
  String.ofList ((segments condition.toList).flatMap (Segment.withValue name.toList))

/-- The text contains the placeholder for the column. -/
def HoldsPlaceholder (text : String) : Prop := columnPlaceholder.toList <:+: text.toList

instance (text : String) : Decidable (HoldsPlaceholder text) :=
  inferInstanceAs (Decidable (_ <:+: _))

/-- The placeholder is a brace with something behind it. -/
theorem toList_columnPlaceholder :
    columnPlaceholder.toList = '\x7b' :: "column\x7d".toList := by decide

/-- The brace stands at the beginning alone, so that two placeholders do not overlap. -/
theorem brace_notMem : '\x7b' ∉ "column\x7d".toList := by decide

/-- The name is put between the texts, and the texts are kept. -/
theorem replaceAll_placeholder_iff {r : List Char} {texts : List (List Char)} :
    replaceAll columnPlaceholder.toList r (columnPlaceholder.toList.intercalate texts) =
        r.intercalate texts ↔
      r = columnPlaceholder.toList ∨ ∀ text ∈ texts, ¬columnPlaceholder.toList <:+: text := by
  rw [toList_columnPlaceholder]
  exact Text.replaceAll_intercalate_iff brace_notMem

/-- A character that the placeholder does not have parts the texts in which it can stand. -/
theorem placeholder_infix_cons_iff {d : Char} (hd : d ∉ columnPlaceholder.toList)
    {a b : List Char} :
    columnPlaceholder.toList <:+: a ++ d :: b ↔
      columnPlaceholder.toList <:+: a ∨ columnPlaceholder.toList <:+: b :=
  Text.infix_append_cons_iff hd

/-- The placeholder does not begin where there is no brace. -/
theorem placeholder_infix_right_iff {w b : List Char} (hw : '\x7b' ∉ w) :
    columnPlaceholder.toList <:+: w ++ b ↔ columnPlaceholder.toList <:+: b := by
  rw [toList_columnPlaceholder]
  exact Text.infix_append_iff_right hw

theorem not_placeholder_infix_nil : ¬columnPlaceholder.toList <:+: [] := by decide

/-! ## Lists of values -/

/-- Quotes that are doubled neither make a placeholder nor break one. -/
theorem placeholder_infix_doubled (front l : List Char) :
    columnPlaceholder.toList <:+: front ++ replaceAll ['\''] ['\'', '\''] l ↔
      columnPlaceholder.toList <:+: front ++ l := by
  induction l generalizing front with
  | nil => rfl
  | cons c l ih =>
    rw [doubled_cons]
    -- a quote parts the text, so that it is all the same whether there are one or two
    by_cases hc : c = '\''
    · have hquote : '\'' ∉ columnPlaceholder.toList := by decide
      rw [hc, if_pos rfl, List.cons_append, placeholder_infix_cons_iff hquote,
        placeholder_infix_right_iff (by decide), placeholder_infix_cons_iff hquote]
      exact or_congr Iff.rfl (ih [])
    · rw [if_neg hc, ← List.append_assoc, ih, List.append_assoc]
      rfl

/-- **A list of literals contains the placeholder** if one of the values does. -/
theorem placeholder_infix_literalList :
    columnPlaceholder.toList <:+: (literalList values).toList ↔
      ∃ value ∈ values, HoldsPlaceholder value := by
  induction values with
  | nil => exact iff_of_false not_placeholder_infix_nil (by simp)
  | cons value rest ih =>
    have hrest : columnPlaceholder.toList <:+: afterLiteral rest ↔
        columnPlaceholder.toList <:+: (literalList rest).toList := by
      unfold afterLiteral
      by_cases hnil : rest = []
      · rw [if_pos hnil, hnil]
        rfl
      · rw [if_neg hnil]
        exact placeholder_infix_right_iff (w := [',', ' ']) (by decide)
    rw [toList_literalList_cons, ← List.singleton_append,
      placeholder_infix_right_iff (by decide), placeholder_infix_cons_iff (by decide), hrest, ih,
      List.exists_mem_cons_iff]
    exact or_congr (placeholder_infix_doubled [] value.toList) Iff.rfl

/-- **When a list of values survives the name.** With a name in place of the placeholder, the
condition that a column has one of the values is the one that names the field and lists the same
values, exactly if no value contains the placeholder or the name is the placeholder itself. -/
theorem replaceText_listing :
    replaceText columnPlaceholder name (listing columnPlaceholder values) = listing name values ↔
      name = columnPlaceholder ∨ ∀ value ∈ values, ¬HoldsPlaceholder value := by
  -- the values stand behind the only place that is meant for the name
  have hlisting (s : String) : (listing s values).toList =
      s.toList.intercalate [[], " IN (".toList ++ (literalList values).toList ++ [')']] := by
    unfold listing
    simp [String.toList_append]
  have hinfix : columnPlaceholder.toList <:+: " IN (".toList ++ (literalList values).toList ++ [')']
      ↔ ∃ value ∈ values, HoldsPlaceholder value := by
    rw [List.append_assoc, placeholder_infix_right_iff (by decide),
      placeholder_infix_cons_iff (by decide), placeholder_infix_literalList,
      or_iff_left not_placeholder_infix_nil]
  unfold replaceText
  rw [← String.toList_inj, String.toList_ofList, hlisting, hlisting, replaceAll_placeholder_iff,
    String.toList_inj, List.forall_mem_cons, List.forall_mem_singleton, hinfix]
  simp only [not_placeholder_infix_nil, not_false_eq_true, true_and, not_exists, not_and]

/-! ## Conditions -/

/-- A word `VALUE` outside of quotes. -/
def Segment.isValue : Segment → Bool
  | .word letters => letters.map Char.toLower = "value".toList
  | _ => false

/-- A value is put in the place of the words `VALUE` and of nothing else. -/
theorem Segment.withValue_eq (value : List Char) (part : Segment) :
    part.withValue value = if part.isValue then value else part.text := by
  cases part with
  | word letters => simp [withValue, isValue, text]
  | quoted text => rfl
  | mark c => rfl

/-- The texts before, between and behind the words `VALUE`. -/
def stretches : List Segment → List (List Char)
  | [] => [[]]
  | part :: rest =>
    if part.isValue then [] :: stretches rest else (stretches rest).modifyHead (part.text ++ ·)

/-- There is always a last stretch, though it may be empty. -/
theorem stretches_ne_nil (parts : List Segment) : stretches parts ≠ [] := by
  induction parts with
  | nil => exact List.cons_ne_nil _ _
  | cons part rest ih =>
    rw [stretches]
    split
    · exact List.cons_ne_nil _ _
    · simpa using ih

/-- What is put before the first text stands before all of them. -/
theorem intercalate_modifyHead {r front : List Char} {texts : List (List Char)} (hne : texts ≠ []) :
    r.intercalate (texts.modifyHead (front ++ ·)) = front ++ r.intercalate texts := by
  cases texts with
  | nil => exact absurd rfl hne
  | cons text texts =>
    cases texts with
    | nil => simp
    | cons next texts => simp [List.intercalate_cons_cons]

theorem modifyHead_nil_append (texts : List (List Char)) :
    texts.modifyHead ([] ++ ·) = texts := by
  cases texts <;> rfl

/-- The stretches with something in between are the parts with it for the words `VALUE`. -/
theorem intercalate_stretches (value : List Char) (parts : List Segment) :
    value.intercalate (stretches parts) = parts.flatMap (Segment.withValue value) := by
  induction parts with
  | nil => rfl
  | cons part rest ih =>
    rw [stretches, List.flatMap_cons, ← ih, Segment.withValue_eq]
    split
    · rw [List.intercalate_cons_of_ne_nil (stretches_ne_nil rest), List.nil_append]
    · exact intercalate_modifyHead (stretches_ne_nil rest)

/-- The word `VALUE` begins with a letter that the placeholder does not have and has no brace. -/
theorem exists_of_isValue {letters : List Char} (h : letters.map Char.toLower = "value".toList) :
    ∃ d w, letters = d :: w ∧ d ∉ columnPlaceholder.toList ∧ '\x7b' ∉ w := by
  obtain ⟨d, w, rfl, hd, hw⟩ := List.map_eq_cons_iff.1 h
  refine ⟨d, w, rfl, fun hmem => ?_, fun hmem => ?_⟩
  · have hall : columnPlaceholder.toList.all (fun d => d.toLower != 'v') = true := by decide
    exact (bne_iff_ne.1 (List.all_eq_true.1 hall d hmem)) hd
  · have hbrace : Char.toLower '\x7b' ∈ w.map Char.toLower := List.mem_map_of_mem hmem
    rw [hw] at hbrace
    exact absurd hbrace (by decide)

/-- **The placeholder stands in a text if it stands in one of its stretches**: no word `VALUE` has a
part in it. -/
theorem placeholder_infix_parts (front : List Char) (parts : List Segment) :
    columnPlaceholder.toList <:+: front ++ parts.flatMap Segment.text ↔
      ∃ text ∈ (stretches parts).modifyHead (front ++ ·), columnPlaceholder.toList <:+: text := by
  induction parts generalizing front with
  | nil => simp [stretches]
  | cons part rest ih =>
    rw [stretches, List.flatMap_cons]
    split
    · next hvalue =>
      -- the placeholder lies before the first letter of the word or behind the whole of it
      cases part with
      | word letters =>
        obtain ⟨d, w, rfl, hd, hw⟩ := exists_of_isValue (of_decide_eq_true hvalue)
        have hrest := ih []
        rw [List.nil_append, modifyHead_nil_append] at hrest
        show columnPlaceholder.toList <:+: front ++ d :: (w ++ rest.flatMap Segment.text) ↔ _
        rw [placeholder_infix_cons_iff hd, placeholder_infix_right_iff hw, hrest]
        simp
      | quoted text => cases hvalue
      | mark c => cases hvalue
    · -- any other part lengthens the stretch that it stands in
      rw [← List.append_assoc, ih, List.modifyHead_modifyHead]
      simp [Function.comp_def, List.append_assoc]

/-- **When a condition survives the name.** With a name in place of the placeholder, a condition for
a column is the condition of the source with the name for its words `VALUE` and all else unchanged,
exactly if the condition does not contain the placeholder or the name is the placeholder itself. -/
theorem replaceText_forColumn :
    replaceText columnPlaceholder name (forColumn condition) = naming name condition ↔
      name = columnPlaceholder ∨ ¬HoldsPlaceholder condition := by
  have hinfix := placeholder_infix_parts [] (segments condition.toList)
  rw [List.nil_append, flatMap_text, modifyHead_nil_append] at hinfix
  unfold replaceText naming HoldsPlaceholder
  rw [toList_forColumn, ← intercalate_stretches, ← intercalate_stretches, String.ofList_inj,
    replaceAll_placeholder_iff, String.toList_inj, hinfix]
  simp

end SchemaConversion.Expression
