import SchemaConversion.Proofs.TypeConversion.Recognition

/-!
# Resolution by normal forms

A spelling is brought into its normal form before anything is looked up, and so is every part of it
that is looked up afterwards. To do this more than once changes nothing: a normal form is its own
normal form, what stands around its parentheses is brought into one when it is taken apart, and what
is left of it without the brackets of an array is one already:

> `normalize_of_arrayElement?`: the element of an array is in normal form, so an array is converted
> through its element as through any other spelling.

Besides its normal form nothing of a spelling is used, except that the answer repeats it. In each
way to resolve a normal form this is told by a lemma of its own, and together they say:

> `resolve_alike`: spellings with one normal form are answered alike, a spelling and its normal form
> among them.
-/

namespace SchemaConversion

namespace TypeConverter

variable {c : TypeConverter} {s t : String}

/-- Two spellings are answered alike: both are converted or both fail, and each answer repeats its
own spelling, as what was given or as what is unknown, but is the same otherwise. -/
inductive AnsweredAlike (s t : String) :
    Except ConversionError TypeConversion → Except ConversionError TypeConversion → Prop
  | converted (b : TypeConversion) :
    AnsweredAlike s t (.ok { b with given := s }) (.ok { b with given := t })
  | unknown (database : String) :
    AnsweredAlike s t (.error (.unknownType database s)) (.error (.unknownType database t))
  | failed (e : ConversionError) : AnsweredAlike s t (.error e) (.error e)

theorem AnsweredAlike.of_eq {b b' : TypeConversion} (hs : b.given = s)
    (h : b' = { b with given := t }) : AnsweredAlike s t (.ok b) (.ok b') := by
  rw [h, ← hs]
  exact .converted b

/-- After a common first step, what follows on its result decides. -/
theorem AnsweredAlike.bind {α : Type} (x : Except ConversionError α)
    {f g : α → Except ConversionError TypeConversion} (h : ∀ a, AnsweredAlike s t (f a) (g a)) :
    AnsweredAlike s t (x >>= f) (x >>= g) := by
  cases x with
  | error e => exact .failed e
  | ok a => exact h a

/-! ## Each way to resolve a normal form -/

theorem single_alike (c : TypeConverter) (s t normal : String) :
    AnsweredAlike s t (c.single s normal) (c.single t normal) := by
  unfold single
  cases c.declared? normal with
  | none => exact .unknown c.source.database
  | some d =>
    dsimp only
    -- what is declared depends on the normal form, and only the answer repeats the spelling
    cases c.modifiable? d.info.canonical with
    | some info => exact .of_eq rfl rfl
    | none => exact .bind _ fun found => .of_eq rfl rfl

theorem array_alike (c : TypeConverter) (s t element : String) (inner : TypeConversion) :
    AnsweredAlike s t (c.array s element inner) (c.array t element inner) := by
  unfold array
  cases c.arrayTemplate? with
  | some template => exact .of_eq rfl rfl
  | none => exact .bind _ fun found => .of_eq rfl rfl

/-- **A normal form is resolved alike however it was spelled**: in each of the ways there are. What
an array is made of is the same in both. -/
theorem resolveNormal_alike (c : TypeConverter) (s t : String) (normal : List Char) :
    AnsweredAlike s t (c.resolveNormal s normal) (c.resolveNormal t normal) := by
  by_cases hne : normal = []
  · rw [hne, resolveNormal_nil, resolveNormal_nil]
    exact .unknown c.source.database
  · -- the ways in the order in which they are tried
    cases hnative : c.replacement? (String.ofList normal) with
    | some replacement =>
      rw [resolveNormal_prescribed hne hnative, resolveNormal_prescribed hne hnative]
      exact .of_eq rfl rfl
    | none =>
      cases harray : arrayElement? normal with
      | some element =>
        rw [resolveNormal_array hnative harray, resolveNormal_array hnative harray]
        exact .bind _ (c.array_alike s t (String.ofList element))
      | none =>
        rw [resolveNormal_single hne hnative harray, resolveNormal_single hne hnative harray]
        exact c.single_alike s t (String.ofList normal)

/-! ## The elements of arrays -/

/-- **What is left of a normal form without brackets is one.** -/
theorem normalize_of_arrayElement? {element : String}
    (h : arrayElement? (TypeName.normalize s).toList = some element.toList) :
    TypeName.normalize element = element := by
  unfold arrayElement? at h
  split at h
  · -- the brackets are the last two characters, and what stands before them is trimmed
    have hpart : (TypeName.normalize s).toList.take ((TypeName.normalize s).toList.length - 2) <:+:
        (TypeName.normalize s).toList := (List.take_prefix _ _).isInfix
    have hnormal := (TypeName.isNormal_normalize s).trimChars hpart
    rw [Option.some.inj h] at hnormal
    exact TypeName.normalize_eq_self hnormal
  · cases h

/-- An array is converted through its element, which is resolved like any other spelling. -/
theorem resolve_array {element : String}
    (hnative : c.replacement? (TypeName.normalize s) = none)
    (harray : arrayElement? (TypeName.normalize s).toList = some element.toList) :
    c.resolve s = c.resolve element >>= c.array s element := by
  rw [← String.ofList_toList (s := TypeName.normalize s)] at hnative
  unfold resolve
  rw [resolveNormal_array hnative harray, normalize_of_arrayElement? harray, String.ofList_toList]

/-! ## Spellings with one normal form -/

/-- Spellings with the same normal form are answered alike. -/
theorem resolve_alike_of_eq (c : TypeConverter)
    (h : TypeName.normalize t = TypeName.normalize s) :
    AnsweredAlike s t (c.resolve s) (c.resolve t) := by
  unfold resolve
  rw [h]
  exact c.resolveNormal_alike s t (TypeName.normalize s).toList

/-- **Resolution depends on the normal form alone.** To bring a spelling into its normal form once
more changes nothing, a spelling is answered like its normal form and so like every other spelling
with the same one, and this goes on in the elements of arrays, each of which is resolved as the
spelling that it is. -/
theorem resolve_alike (c : TypeConverter) (s : String) :
    TypeName.normalize (TypeName.normalize s) = TypeName.normalize s ∧
      AnsweredAlike s (TypeName.normalize s) (c.resolve s) (c.resolve (TypeName.normalize s)) ∧
      (∀ t, TypeName.normalize t = TypeName.normalize s →
        AnsweredAlike s t (c.resolve s) (c.resolve t)) ∧
      ∀ element, c.replacement? (TypeName.normalize s) = none →
        arrayElement? (TypeName.normalize s).toList = some element.toList →
        c.resolve s = c.resolve element >>= c.array s element := by
  have hagain := TypeName.normalize_normalize s
  exact ⟨hagain, c.resolve_alike_of_eq hagain, fun t ht => c.resolve_alike_of_eq ht,
    fun element hnative harray => resolve_array hnative harray⟩

/-- Lists of amounts are spelled in many ways. All of them become lists of the same numbers, and
they are resolved through what is left without the brackets. -/
theorem amount_lists_alike :
    let c := between Databases.postgresql Databases.neo4j
    TypeName.normalize "numeric(10 ,2)\t[]" = TypeName.normalize "NUMERIC ( 10, 2 ) []" ∧
      AnsweredAlike "NUMERIC ( 10, 2 ) []" "numeric(10 ,2)\t[]"
        (c.resolve "NUMERIC ( 10, 2 ) []") (c.resolve "numeric(10 ,2)\t[]") ∧
      c.resolve "NUMERIC ( 10, 2 ) []" =
        c.resolve "numeric(10,2)" >>= c.array "NUMERIC ( 10, 2 ) []" "numeric(10,2)" ∧
      ∃ b, c.resolve "NUMERIC ( 10, 2 ) []" = .ok b ∧ b.converted = "LIST<float>" := by
  intro c
  have hsame : TypeName.normalize "numeric(10 ,2)\t[]" =
      TypeName.normalize "NUMERIC ( 10, 2 ) []" := by decide +kernel
  have helement : arrayElement? (TypeName.normalize "NUMERIC ( 10, 2 ) []").toList =
      some "numeric(10,2)".toList := by decide +kernel
  have htest : (c.resolve "NUMERIC ( 10, 2 ) []").toOption.any
      (fun b => b.converted = "LIST<float>") = true := by decide +kernel
  obtain ⟨-, -, halike, harray⟩ := c.resolve_alike "NUMERIC ( 10, 2 ) []"
  obtain ⟨b, hb, hconverted⟩ := exists_ok htest
  exact ⟨hsame, halike _ hsame, harray _ (replacement?_eq_none rfl _) helement, b, hb,
    of_decide_eq_true hconverted⟩

end TypeConverter

end SchemaConversion
