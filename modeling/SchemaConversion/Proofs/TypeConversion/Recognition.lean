import SchemaConversion.Databases
import SchemaConversion.Proofs.TypeConversion
import SchemaConversion.Proofs.TypeName

/-!
# Recognized spellings

A profile finds the entry of a spelling by its normal form. A conversion looks for the same entry,
but before it does so it takes brackets off the end of the spelling, since these are what arrays are
spelled with:

> `resolveNormal_unknown_iff`: a spelling is unknown exactly if nothing is left of it without its
> brackets or the source does not know what is left.

So an entry counts, whatever parentheses or modifiers it is spelled with, if it has no brackets:

> `takesFor_of_single`: a spelling that is no array is taken for its entry.

But if it has, it is taken for an array of something else:

> `resolve_recognized_iff`: exactly when a spelling is taken for its entry.

> `bytes_not_recognized`: a list of bytes that is an entry of its own is not known.
-/

namespace SchemaConversion

namespace TypeProfile

variable (p : TypeProfile) {s t : String}

/-- Spellings with one normal form have one entry. -/
theorem typeInfo?_congr (h : TypeName.normalize s = TypeName.normalize t) :
    p.typeInfo? s = p.typeInfo? t := by
  unfold typeInfo?
  rw [h]

/-- A spelling and its normal form have one entry. -/
theorem typeInfo?_normalize (s : String) : p.typeInfo? (TypeName.normalize s) = p.typeInfo? s :=
  p.typeInfo?_congr (TypeName.normalize_normalize s)

variable {p} {name : String} {info : TypeInfo}

/-- What a profile finds under a name or an alias is one of its entries. -/
theorem lookup?_mem (h : p.lookup? name = some info) : info ∈ p.types.values := by
  rcases Option.or_eq_some_iff.1 h with h | ⟨-, h⟩
  · exact Dictionary.mem_values_of_find? h
  · obtain ⟨_, -, hfound⟩ := Option.bind_eq_some_iff.1 h
    exact Dictionary.mem_values_of_find? hfound

/-- The entry of a spelling is one of the profile, or an unsigned form of one that has such a
form. -/
theorem typeInfo?_mem (h : p.typeInfo? s = some info) :
    info ∈ p.types.values ∨
      ∃ entry ∈ p.types.values, entry.supportsUnsigned = true ∧ info = asUnsigned entry := by
  rcases Option.or_eq_some_iff.1 h with h | ⟨-, h⟩
  · exact .inl (lookup?_mem h)
  · obtain ⟨entry, hentry, rfl⟩ := Option.map_eq_some_iff.1 h
    obtain ⟨_, -, hfound⟩ := Option.bind_eq_some_iff.1 hentry
    by_cases hunsigned : entry.supportsUnsigned = true
    · exact .inr ⟨entry, lookup?_mem hfound, hunsigned, rfl⟩
    · left
      rw [asUnsigned, if_neg hunsigned]
      exact lookup?_mem hfound

end TypeProfile

namespace TypeConverter

variable {c : TypeConverter} {s given normal : String} {info : TypeInfo} {d : Declared}
  {b : TypeConversion}

/-! ## The conversion of a type that is no array -/

/-- An entry is found before parameters are looked for. -/
theorem declared?_of_typeInfo? (h : c.source.typeInfo? s = some info) :
    c.declared? (TypeName.normalize s) = some ⟨info, none⟩ := by
  unfold declared?
  rw [c.source.typeInfo?_normalize, h]

/-- What a normal form declares: no parameters, or what stands in the parentheses. -/
theorem declared?_cases {normal : String} (h : c.declared? normal = some d) :
    d.parameters = none ∨
      ∃ parts, TypeName.splitParameters normal = some parts ∧
        d.parameters = some parts.parameters := by
  unfold declared? at h
  split at h
  · obtain rfl := Option.some.inj h
    exact .inl rfl
  · obtain ⟨parts, hparts, h⟩ := Option.bind_eq_some_iff.1 h
    obtain ⟨info, -, h⟩ := Option.bind_eq_some_iff.1 h
    obtain rfl := Option.some.inj h
    dsimp only
    split
    · exact .inl rfl
    · exact .inr ⟨parts, hparts, rfl⟩

/-- What is declared has an entry in the source. -/
theorem declared?_typeInfo? (h : c.declared? normal = some d) :
    ∃ name, c.source.typeInfo? name = some d.info := by
  unfold declared? at h
  split at h
  · next info hinfo =>
    obtain rfl := Option.some.inj h
    exact ⟨_, hinfo⟩
  · obtain ⟨parts, -, h⟩ := Option.bind_eq_some_iff.1 h
    obtain ⟨info, hinfo, h⟩ := Option.bind_eq_some_iff.1 h
    obtain rfl := Option.some.inj h
    exact ⟨_, hinfo⟩

/-- Nothing is prescribed where there are no overrides. -/
theorem replacement?_eq_none (hoverrides : c.overrides = .empty) (normal : String) :
    c.replacement? normal = none := by
  unfold replacement?
  rw [hoverrides]
  cases TypeName.splitParameters normal <;> rfl

/-- A spelling that is no array, and for which nothing is prescribed, is converted as a whole. -/
theorem resolve_eq_single (hne : TypeName.normalize s ≠ "")
    (hnative : c.replacement? (TypeName.normalize s) = none)
    (harray : arrayElement? (TypeName.normalize s).toList = none) :
    c.resolve s = c.single s (TypeName.normalize s) := by
  have hnormal : (TypeName.normalize s).toList ≠ [] := by simpa using hne
  rw [← String.ofList_toList (s := TypeName.normalize s)] at hnative
  unfold resolve
  rw [resolveNormal_single hnormal hnative harray, String.ofList_toList]

/-- A declared type goes over to a native type of the target and becomes this. -/
inductive GoesTo (c : TypeConverter) (given normal : String) (d : Declared) :
    TypeInfo → TypeConversion → Prop
  /-- To the signed form of an unsigned integer, with the modifier. -/
  | modified {info : TypeInfo} (h : c.modifiable? d.info.canonical = some info) :
    GoesTo c given normal d info (modified d given normal info)
  /-- To the closest native type. -/
  | carried {info : TypeInfo} {lossy : Bool} (hno : c.modifiable? d.info.canonical = none)
      (h : c.targetFor? d.info.canonical = some (info, lossy)) :
    GoesTo c given normal d info (c.carried d given normal info lossy)

/-- A canonical type is converted exactly if the search finds a native type for it. -/
theorem targetFor_eq_ok {t : CanonicalType} {found : TypeInfo × Bool} :
    c.targetFor t = .ok found ↔ c.targetFor? t = some found := by
  unfold targetFor
  cases c.targetFor? t <;> simp

/-- **How a type that is no array is converted.** -/
theorem single_eq_ok :
    c.single given normal = .ok b ↔
      ∃ d info, c.declared? normal = some d ∧ c.GoesTo given normal d info b := by
  unfold single
  constructor
  · intro h
    split at h
    · cases h
    · next d hd =>
      split at h
      · next info hmodified =>
        obtain rfl := Except.ok.inj h
        exact ⟨d, info, hd, .modified hmodified⟩
      · next hno =>
        obtain ⟨⟨info, lossy⟩, htarget, hb⟩ := bind_eq_ok.1 h
        obtain rfl := Except.ok.inj hb
        exact ⟨d, info, hd, .carried hno (targetFor_eq_ok.1 htarget)⟩
  · rintro ⟨d, info, hd, hgoes⟩
    rw [hd]
    cases hgoes with
    | modified h =>
      dsimp only
      rw [h]
    | carried hno h =>
      dsimp only
      rw [hno]
      exact bind_eq_ok.2 ⟨_, targetFor_eq_ok.2 h, rfl⟩

/-- Either way the conversion has the canonical type of what is declared. -/
theorem GoesTo.canonical (h : c.GoesTo given normal d info b) : b.canonical = d.info.canonical := by
  cases h with
  | modified _ => rfl
  | carried _ _ => rfl

/-- What became of a spelling that is no array, and for which nothing is prescribed. -/
theorem goesTo_of_resolve (hnative : c.replacement? (TypeName.normalize s) = none)
    (harray : arrayElement? (TypeName.normalize s).toList = none) (h : c.resolve s = .ok b) :
    ∃ d info, c.declared? (TypeName.normalize s) = some d ∧
      c.GoesTo s (TypeName.normalize s) d info b := by
  have hne : TypeName.normalize s ≠ "" := by
    intro hblank
    unfold resolve at h
    rw [hblank] at h
    exact absurd ((resolveNormal_nil c s).symm.trans h) (by simp)
  rw [resolve_eq_single hne hnative harray] at h
  exact single_eq_ok.1 h

/-! ## Unknown spellings -/

/-- What is left of a normal form without the brackets of arrays. -/
def innermost (normal : List Char) : List Char :=
  match h : arrayElement? normal with
  | some element =>
    have _shorter := length_lt_of_arrayElement? h
    innermost element
  | none => normal
termination_by normal.length

/-- Brackets at the end are taken off before anything else. -/
theorem innermost_of_some {normal element : List Char} (h : arrayElement? normal = some element) :
    innermost normal = innermost element := by
  rw [innermost]
  split
  · next other hother =>
    rw [h] at hother
    rw [Option.some.inj hother]
  · next hnone =>
    rw [h] at hnone
    cases hnone

/-- What has no brackets at the end is what is left. -/
theorem innermost_of_none {normal : List Char} (h : arrayElement? normal = none) :
    innermost normal = normal := by
  rw [innermost]
  split
  · next hsome =>
    rw [h] at hsome
    cases hsome
  · rfl

/-- The source knows a type by this normal form, with or without parameters. -/
def Knows (c : TypeConverter) (normal : List Char) : Prop :=
  normal ≠ [] ∧ (c.declared? (String.ofList normal)).isSome = true

instance (c : TypeConverter) (normal : List Char) : Decidable (c.Knows normal) :=
  inferInstanceAs (Decidable (_ ∧ _))

/-- A failure that says that a type is unknown. -/
def IsUnknown (e : ConversionError) : Prop := ∃ database name, e = .unknownType database name

/-- A type that has no equivalent is not said to be unknown. -/
theorem targetFor_known {t : CanonicalType} {e : ConversionError} (h : c.targetFor t = .error e) :
    ¬IsUnknown e := by
  unfold targetFor at h
  split at h
  · cases h
  · cases h
    rintro ⟨_, _, h⟩
    cases h

/-- What the source knows is not said to be unknown because the target has nothing for it. -/
theorem single_unknown_iff :
    (∃ e, c.single given normal = .error e ∧ IsUnknown e) ↔ c.declared? normal = none := by
  unfold single
  cases hd : c.declared? normal with
  | none => exact ⟨fun _ => rfl, fun _ => ⟨_, rfl, _, _, rfl⟩⟩
  | some d =>
    constructor
    · rintro ⟨e, h, hunknown⟩
      dsimp only at h
      split at h
      · cases h
      · cases htarget : c.targetFor d.info.canonical with
        | error e' =>
          rw [htarget] at h
          cases h
          exact absurd hunknown (targetFor_known htarget)
        | ok found =>
          rw [htarget] at h
          cases h
    · rintro ⟨⟩

/-- An array with a known element is not unknown, even if it has no equivalent. -/
theorem array_known {element : String} {inner : TypeConversion} {e : ConversionError}
    (h : c.array given element inner = .error e) : ¬IsUnknown e := by
  unfold array at h
  split at h
  · cases h
  · cases htarget : c.targetFor .array with
    | error e' =>
      rw [htarget] at h
      cases h
      exact targetFor_known htarget
    | ok found =>
      rw [htarget] at h
      cases h

/-- **Unknown spellings**: by induction on the brackets of an array, which fails as unknown only if
its element does. -/
theorem resolveNormal_unknown_iff (hoverrides : c.overrides = .empty) (given : String)
    (normal : List Char) :
    (∃ e, c.resolveNormal given normal = .error e ∧ IsUnknown e) ↔
      ¬c.Knows (innermost normal) := by
  induction given, normal using resolveNormal_induction c with
  | blank given =>
    rw [resolveNormal_nil]
    exact ⟨fun _ hknows => hknows.1 (innermost_of_none rfl), fun _ => ⟨_, rfl, _, _, rfl⟩⟩
  -- there are no overrides, so nothing is prescribed
  | prescribed given normal replacement _ hnative =>
    rw [replacement?_eq_none hoverrides] at hnative
    cases hnative
  | array given normal element hnative harray ih =>
    rw [resolveNormal_array hnative harray, innermost_of_some harray]
    -- the failure of the element is that of the array
    refine Iff.trans ?_ ih
    cases hinner : c.resolveNormal (String.ofList element) element with
    | error e =>
      constructor
      · rintro ⟨e', he', hunknown⟩
        exact ⟨e, rfl, by cases he'; exact hunknown⟩
      · rintro ⟨e', he', hunknown⟩
        exact ⟨e, rfl, by cases he'; exact hunknown⟩
    | ok inner =>
      constructor
      · rintro ⟨e, he, hunknown⟩
        exact absurd hunknown (array_known he)
      · rintro ⟨_, ⟨⟩, _⟩
  | single given normal hne hnative harray =>
    rw [resolveNormal_single hne hnative harray, single_unknown_iff, innermost_of_none harray]
    unfold Knows
    rw [not_and, Option.not_isSome_iff_eq_none]
    exact ⟨fun h _ => h, fun h => h hne⟩

/-! ## Entries of the source -/

/-- The conversion takes a spelling for this entry: it is not unknown, and what it becomes has the
canonical type of the entry. -/
structure TakesFor (c : TypeConverter) (s : String) (info : TypeInfo) : Prop where
  known : ∀ e, c.resolve s = .error e → ¬IsUnknown e
  canonical : ∀ b, c.resolve s = .ok b → b.canonical = info.canonical

/-- **A spelling that is no array is taken for its entry.** -/
theorem takesFor_of_single (hoverrides : c.overrides = .empty)
    (h : c.source.typeInfo? s = some info) (hne : TypeName.normalize s ≠ "")
    (harray : arrayElement? (TypeName.normalize s).toList = none) : c.TakesFor s info := by
  have hnative := replacement?_eq_none hoverrides (TypeName.normalize s)
  have hdeclared := declared?_of_typeInfo? h
  refine ⟨fun e he hunknown => ?_, fun b hb => ?_⟩
  -- a spelling with an entry is declared, so it is not unknown
  · rw [resolve_eq_single hne hnative harray] at he
    have hnone := single_unknown_iff.1 ⟨e, he, hunknown⟩
    rw [hdeclared] at hnone
    cases hnone
  · obtain ⟨d, target, hd, hgoes⟩ := goesTo_of_resolve hnative harray hb
    rw [hdeclared] at hd
    obtain rfl := Option.some.inj hd
    exact hgoes.canonical

/-- Native or not, what stands for an array is one. -/
theorem array_canonical {element : String} {inner : TypeConversion}
    (h : c.array given element inner = .ok b) : b.canonical = .array := by
  unfold array at h
  split at h
  · cases h
    rfl
  · obtain ⟨_, -, ⟨⟩⟩ := bind_eq_ok.1 h
    rfl

/-- A spelling with brackets becomes an array, if it becomes anything. -/
theorem resolve_canonical_of_array {element : List Char} (hoverrides : c.overrides = .empty)
    (harray : arrayElement? (TypeName.normalize s).toList = some element)
    (h : c.resolve s = .ok b) : b.canonical = .array := by
  cases resolveNormal_eq_ok.1 h with
  | prescribed _ hnative =>
    rw [replacement?_eq_none hoverrides] at hnative
    cases hnative
  | array _ _ _ houter => exact array_canonical houter
  | single _ _ hnone _ =>
    rw [harray] at hnone
    cases hnone

/-- **When a spelling is taken for its entry**: if the source knows what is left of it without the
brackets of arrays and, should it have any, its entry is one of arrays. -/
theorem resolve_recognized_iff (hoverrides : c.overrides = .empty)
    (h : c.source.typeInfo? s = some info) :
    c.TakesFor s info ↔
      c.Knows (innermost (TypeName.normalize s).toList) ∧
        ∀ b, c.resolve s = .ok b → (arrayElement? (TypeName.normalize s).toList).isSome = true →
          info.canonical = .array := by
  have hunknown := resolveNormal_unknown_iff hoverrides s (TypeName.normalize s).toList
  have hknown : (∀ e, c.resolve s = .error e → ¬IsUnknown e) ↔
      c.Knows (innermost (TypeName.normalize s).toList) := by
    rw [← not_iff_not, ← hunknown]
    unfold resolve
    push Not
    rfl
  -- whether the spelling has brackets decides how it is converted
  cases harray : arrayElement? (TypeName.normalize s).toList with
  | some element =>
    -- with brackets it becomes an array, so that the entry has to be one as well
    have hcanonical (b : TypeConversion) (hb : c.resolve s = .ok b) : b.canonical = .array :=
      resolve_canonical_of_array hoverrides harray hb
    constructor
    · intro htakes
      exact ⟨hknown.1 htakes.known, fun b hb _ =>
        (htakes.canonical b hb).symm.trans (hcanonical b hb)⟩
    · rintro ⟨hknows, hinfo⟩
      exact ⟨hknown.2 hknows, fun b hb => (hcanonical b hb).trans (hinfo b hb rfl).symm⟩
  | none =>
    -- without brackets all of it is left, and what is known is taken for its entry
    constructor
    · intro htakes
      exact ⟨hknown.1 htakes.known, fun _ _ => by rintro ⟨⟩⟩
    · rintro ⟨hknows, -⟩
      rw [innermost_of_none harray] at hknows
      have hne : TypeName.normalize s ≠ "" := fun hblank => hknows.1 (by rw [hblank]; rfl)
      exact takesFor_of_single hoverrides h hne harray

/-- The conversion from one database to another, with nothing prescribed. -/
def between (source target : DatabaseDefinition) : TypeConverter where
  source := source.types
  target := target.types

/-- Parentheses that belong to the name of an entry do no harm. -/
theorem maximum_recognized :
    ∃ info, (between Databases.sqlserver Databases.sqlite).source.typeInfo? "NVARCHAR ( MAX )" =
        some info ∧
      info.name = "nvarchar(max)" ∧
      (between Databases.sqlserver Databases.sqlite).TakesFor "NVARCHAR ( MAX )" info := by
  have htest : ((between Databases.sqlserver Databases.sqlite).source.typeInfo?
      "NVARCHAR ( MAX )").any (fun info => info.name = "nvarchar(max)") = true := by
    decide +kernel
  obtain ⟨info, h, hname⟩ := (Option.any_eq_true _ _).1 htest
  have harray : arrayElement? (TypeName.normalize "NVARCHAR ( MAX )").toList = none := by
    decide +kernel
  refine ⟨info, h, of_decide_eq_true hname, (resolve_recognized_iff rfl h).2 ⟨?_, ?_⟩⟩
  · rw [innermost_of_none harray]
    decide +kernel
  · rw [harray]
    rintro _ _ ⟨⟩

/-- Brackets do. The bytes of Neo4j are an entry for binary data under another spelling, and they
are taken for an array whose elements are not known. -/
theorem bytes_not_recognized :
    ∃ info, (between Databases.neo4j Databases.sqlite).source.typeInfo? "byte[]" = some info ∧
      info.name = "bytearray" ∧ info.canonical = .binary ∧
      ∃ e, (between Databases.neo4j Databases.sqlite).resolve "byte[]" = .error e ∧
        IsUnknown e := by
  have htest : ((between Databases.neo4j Databases.sqlite).source.typeInfo? "byte[]").any
      (fun info => info.name = "bytearray" ∧ info.canonical = .binary) = true := by
    decide +kernel
  obtain ⟨info, h, hinfo⟩ := (Option.any_eq_true _ _).1 htest
  obtain ⟨hname, hcanonical⟩ := of_decide_eq_true hinfo
  have helement : arrayElement? (TypeName.normalize "byte[]").toList = some "byte".toList := by
    decide +kernel
  have hnone : arrayElement? "byte".toList = none := by decide +kernel
  refine ⟨info, h, hname, hcanonical, (resolveNormal_unknown_iff rfl _ _).2 ?_⟩
  rw [innermost_of_some helement, innermost_of_none hnone]
  decide +kernel

end TypeConverter

end SchemaConversion
