import SchemaConversion.Expression
import SchemaConversion.Proofs.Substitution

/-!
# Reading a list of literals

A list of values is written as literals with a comma and a space between them, and a literal as the
value between quotes with each quote in it doubled. A reader need not know the values to find the
ends of the literals: a quote that another one follows stands for a quote, and a quote that none
follows ends the literal. A value may hold quotes at its ends, or what looks like the end of its
literal and the beginning of the next:

> `inside?_eq_some_iff`: what is read from an open quote on is the value whose quotes are doubled
> up to the first quote that no other follows.

> `literals?_eq_some_iff`, by induction on the list: what is read as literals is the list of them.

> `literalList_reads_back`: a text is read as a list of values exactly if it is how this list is
> written.
-/

namespace SchemaConversion.Expression

open Text (replaceAll replaceText)

variable {l rest chars : List Char} {value : String} {values : List String}

/-! ## How values are written -/

/-- A quote is doubled and any other character is kept. -/
theorem doubled_cons (c : Char) (l : List Char) :
    replaceAll ['\''] ['\'', '\''] (c :: l) =
      (if c = '\'' then ['\'', '\''] else [c]) ++ replaceAll ['\''] ['\'', '\''] l := by
  by_cases hc : c = '\''
  · rw [hc, if_pos rfl]
    exact Text.replaceAll_pattern_append ['\'', '\''] l
  · rw [if_neg hc, Text.replaceAll_cons fun h => hc (List.cons_prefix_cons.1 h).1.symm]
    rfl

theorem toList_literal (value : String) :
    (literal value).toList = '\'' :: (replaceAll ['\''] ['\'', '\''] value.toList ++ ['\'']) := by
  simp [literal, replaceText]

/-- What follows a literal in a list. -/
def afterLiteral (rest : List String) : List Char :=
  if rest = [] then [] else ',' :: ' ' :: (literalList rest).toList

/-- A list is the first literal and what follows it. -/
theorem toList_literalList (value : String) (rest : List String) :
    (literalList (value :: rest)).toList = (literal value).toList ++ afterLiteral rest := by
  unfold afterLiteral literalList
  by_cases hrest : rest = []
  · rw [if_pos hrest, hrest, List.map_singleton, String.intercalate_singleton, List.append_nil]
  · have hne : rest.map literal ≠ [] := fun hnil => hrest (List.map_eq_nil_iff.1 hnil)
    rw [if_neg hrest, List.map_cons, String.intercalate_cons_of_ne_nil hne, String.toList_append,
      String.toList_append, List.append_assoc]
    rfl

theorem toList_literalList_cons (value : String) (rest : List String) :
    (literalList (value :: rest)).toList =
      '\'' :: (replaceAll ['\''] ['\'', '\''] value.toList ++ '\'' :: afterLiteral rest) := by
  rw [toList_literalList, toList_literal, List.cons_append, List.append_assoc,
    List.singleton_append]

theorem head?_afterLiteral_ne (rest : List String) : (afterLiteral rest).head? ≠ some '\'' := by
  unfold afterLiteral
  split <;> simp

theorem literalList_eq_empty_iff : literalList values = "" ↔ values = [] := by
  cases values with
  | nil => exact iff_of_true rfl rfl
  | cons value rest =>
    rw [← String.toList_inj, toList_literalList_cons]
    exact iff_of_false (List.cons_ne_nil _ _) (List.cons_ne_nil _ _)

/-! ## A literal -/

/-- Reads on from an open quote: the value up to the quote that closes it and what is left. Of two
quotes next to each other the second is the one that the value holds. -/
def inside? : List Char → Option (List Char × List Char)
  | '\'' :: '\'' :: rest => (inside? rest).map (Prod.map ('\'' :: ·) id)
  | '\'' :: rest => some ([], rest)
  | c :: rest => (inside? rest).map (Prod.map (c :: ·) id)
  | [] => none

theorem inside?_quote (hends : rest.head? ≠ some '\'') :
    inside? ('\'' :: rest) = some ([], rest) := by
  rw [inside?]
  rintro l rfl
  exact hends rfl

theorem inside?_cons {c : Char} (hc : c ≠ '\'') :
    inside? (c :: l) = (inside? l).map (Prod.map (c :: ·) id) := by
  rw [inside?]
  · exact fun _ hquote => absurd hquote hc
  · exact hc

/-- **A literal ends at the first quote that no other follows.** -/
theorem inside?_eq_some_iff :
    inside? l = some (chars, rest) ↔
      l = replaceAll ['\''] ['\'', '\''] chars ++ '\'' :: rest ∧ rest.head? ≠ some '\'' := by
  constructor
  · intro h
    fun_induction inside? l generalizing chars with
    -- two quotes: the value goes on
    | case1 l ih =>
      obtain ⟨⟨_, _⟩, hread, heq⟩ := Option.map_eq_some_iff.1 h
      obtain ⟨rfl, rfl⟩ := Prod.mk.inj heq
      obtain ⟨hl, hends⟩ := ih hread
      exact ⟨by rw [doubled_cons, if_pos rfl, hl]; rfl, hends⟩
    -- a single quote: the value ends
    | case2 l hsingle =>
      obtain ⟨rfl, rfl⟩ := Prod.mk.inj (Option.some.inj h)
      refine ⟨rfl, fun hquote => ?_⟩
      cases l with
      | nil => cases hquote
      | cons c l => exact hsingle l (congrArg (· :: l) (Option.some.inj hquote))
    | case3 c l _ hc ih =>
      obtain ⟨⟨_, _⟩, hread, heq⟩ := Option.map_eq_some_iff.1 h
      obtain ⟨rfl, rfl⟩ := Prod.mk.inj heq
      obtain ⟨hl, hends⟩ := ih hread
      exact ⟨by rw [doubled_cons, if_neg hc, hl]; rfl, hends⟩
    | case4 => cases h
  · rintro ⟨rfl, hends⟩
    induction chars with
    | nil => exact inside?_quote hends
    | cons c chars ih =>
      rw [doubled_cons]
      -- a quote in the value was doubled, so it is read from two
      by_cases hc : c = '\''
      · rw [if_pos hc, hc, List.append_assoc, List.cons_append, List.singleton_append, inside?, ih]
        rfl
      · rw [if_neg hc, List.append_assoc, List.singleton_append, inside?_cons hc, ih]
        rfl

/-- Reads the literal at the beginning of a text: its value and what is left. -/
def literal? : List Char → Option (String × List Char)
  | '\'' :: rest => (inside? rest).map (Prod.map String.ofList id)
  | _ => none

/-- **No value ends its literal before the end**, as long as what follows is not a quote. -/
theorem literal?_eq_some_iff :
    literal? l = some (value, rest) ↔
      l = (literal value).toList ++ rest ∧ rest.head? ≠ some '\'' := by
  rw [toList_literal, List.cons_append, List.append_assoc, List.singleton_append]
  constructor
  · intro h
    unfold literal? at h
    split at h
    · obtain ⟨⟨_, _⟩, hread, heq⟩ := Option.map_eq_some_iff.1 h
      obtain ⟨rfl, rfl⟩ := Prod.mk.inj heq
      obtain ⟨rfl, hends⟩ := inside?_eq_some_iff.1 hread
      exact ⟨by rw [String.toList_ofList]; rfl, hends⟩
    · cases h
  · rintro ⟨rfl, hends⟩
    rw [literal?, inside?_eq_some_iff.2 ⟨rfl, hends⟩, Option.map_some, Prod.map_apply,
      String.ofList_toList]
    rfl

/-- To read a literal takes up characters. -/
theorem length_lt_of_literal? (h : literal? l = some (value, rest)) : rest.length < l.length := by
  obtain ⟨rfl, -⟩ := literal?_eq_some_iff.1 h
  rw [toList_literal, List.cons_append, List.length_cons, List.length_append]
  omega

/-! ## A list of literals -/

/-- Reads literals with a comma and a space between them, up to the end of the text. -/
def literals? (l : List Char) : Option (List String) :=
  match _ : literal? l with
  | some (value, []) => some [value]
  | some (value, ',' :: ' ' :: rest) => (literals? rest).map (value :: ·)
  | _ => none
termination_by l.length
decreasing_by
  -- what is left behind a literal is shorter, and still shorter without the comma
  have hshorter := length_lt_of_literal? ‹literal? l = _›
  simp only [List.length_cons] at hshorter
  omega

theorem literals?_of_last (h : literal? l = some (value, [])) : literals? l = some [value] := by
  rw [literals?]
  split <;> simp_all

theorem literals?_of_more (h : literal? l = some (value, ',' :: ' ' :: rest)) :
    literals? l = (literals? rest).map (value :: ·) := by
  rw [literals?]
  split <;> simp_all

/-- **What is read as literals is a list of them**, and not the empty one. -/
theorem literals?_eq_some_iff :
    literals? l = some values ↔ values ≠ [] ∧ l = (literalList values).toList := by
  constructor
  · intro h
    fun_induction literals? l generalizing values with
    | case1 l value hread =>
      obtain rfl := Option.some.inj h
      obtain ⟨rfl, -⟩ := literal?_eq_some_iff.1 hread
      exact ⟨List.cons_ne_nil _ _, (toList_literalList value []).symm⟩
    | case2 l value rest hread ih =>
      obtain ⟨others, hothers, rfl⟩ := Option.map_eq_some_iff.1 h
      obtain ⟨rfl, -⟩ := literal?_eq_some_iff.1 hread
      obtain ⟨hne, rfl⟩ := ih hothers
      refine ⟨List.cons_ne_nil _ _, ?_⟩
      rw [toList_literalList, afterLiteral, if_neg hne]
    | case3 => cases h
  · rintro ⟨hne, rfl⟩
    induction values with
    | nil => exact absurd rfl hne
    | cons value others ih =>
      -- what follows a literal in a list is a comma or nothing, but no quote
      have hread := literal?_eq_some_iff.2
        ⟨toList_literalList value others, head?_afterLiteral_ne others⟩
      unfold afterLiteral at hread
      by_cases hothers : others = []
      · rw [if_pos hothers] at hread
        rw [literals?_of_last hread, hothers]
      · rw [if_neg hothers] at hread
        rw [literals?_of_more hread, ih hothers]
        rfl

/-- Reads a list of values from a text, all of it. -/
def values? (text : String) : Option (List String) :=
  if text = "" then some [] else literals? text.toList

theorem values?_eq_some_iff {text : String} :
    values? text = some values ↔ text = literalList values := by
  unfold values?
  split
  · next hempty =>
    rw [hempty, Option.some_inj, eq_comm, ← literalList_eq_empty_iff]
    exact eq_comm
  · next hne =>
    rw [literals?_eq_some_iff, String.toList_inj]
    refine ⟨And.right, fun htext => ⟨fun hnil => hne ?_, htext⟩⟩
    rw [htext, literalList_eq_empty_iff, hnil]

/-- **A list of values can be read back.** A text is read as the list exactly if it is how the list
is written, two lists are never written in the same way, and a literal ends with its value: what is
read at the beginning of a text is the value of the literal there, up to a quote that no other
follows. -/
theorem literalList_reads_back (values : List String) :
    (∀ text, values? text = some values ↔ text = literalList values) ∧
      (∀ others, literalList others = literalList values ↔ others = values) ∧
      ∀ value text rest, literal? text = some (value, rest) ↔
        text = (literal value).toList ++ rest ∧ rest.head? ≠ some '\'' := by
  refine ⟨fun text => values?_eq_some_iff, fun others => ⟨fun hsame => ?_, congrArg _⟩,
    fun value text rest => literal?_eq_some_iff⟩
  -- two lists that are written in the same way are read from the same text
  have hvalues := values?_eq_some_iff.2 hsame.symm
  rw [values?_eq_some_iff.2 rfl] at hvalues
  exact (Option.some.inj hvalues).symm

example : values? "'it''s', ''', ''', ''" = some ["it's", "', '", ""] := by cbv

end SchemaConversion.Expression
