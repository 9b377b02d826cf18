import SchemaConversion.Proofs.Conversion.Fates
import SchemaConversion.Proofs.Conversion.Preparation
import SchemaConversion.Proofs.CustomType.References

/-!
# Which custom type a spelling denotes

A spelling denotes a custom type in two places. As the type of a field it is looked up in full lower
case, and as a part of another custom type without regard to the case of ASCII letters. Names are
unique in full lower case, so each look-up finds one type at most:

> `fieldType?_eq_some`, `CustomType.find?_eq_some`: the type with the name, by the one comparison or
> by the other.

The second comparison is the finer one. So what a part denotes, a field denotes as well, but a field
may denote a type that is nothing to a part:

> `meansAlike_iff`: a spelling denotes the same in both places exactly if every type that has the
> name in lower case has it up to the case of ASCII letters.

> `meansAlike_of_ascii`: this is so for spellings and catalogs in ASCII.

> `ore_means_differently`: in general it is not.
-/

namespace SchemaConversion

namespace Schema

variable {s : Schema} {t : CustomType} {dataType : String}

/-- A spelling denotes the same custom type as the type of a field and as a part of another type. -/
def MeansAlike (s : Schema) (dataType : String) : Prop :=
  ∀ t, s.fieldType? dataType = some t ↔ CustomType.find? s.types dataType = some t

/-- What a part of a type denotes, a field denotes too. -/
theorem fieldType?_of_find? (hs : s.validate = .ok ())
    (h : CustomType.find? s.types dataType = some t) : s.fieldType? dataType = some t := by
  obtain ⟨ht, hnamed⟩ := CustomType.IsNamedBy.of_find? h
  exact (fieldType?_eq_some hs).2 ⟨ht, hnamed.key_eq⟩

/-- **When a spelling denotes the same everywhere**: if no type has the name in lower case only. -/
theorem meansAlike_iff (hs : s.validate = .ok ()) :
    s.MeansAlike dataType ↔
      ∀ t ∈ s.types, t.key = Text.lowerCase (Text.trim dataType) → t.IsNamedBy dataType := by
  have hkeys := (validate_eq_ok.1 hs).2.2
  constructor
  · intro halike t ht hkey
    have hfound := (halike t).1 ((fieldType?_eq_some hs).2 ⟨ht, hkey⟩)
    exact (CustomType.IsNamedBy.of_find? hfound).2
  · intro hfine t
    refine ⟨fun h => ?_, fieldType?_of_find? hs⟩
    -- names are different in lower case, so what is found first is the only one
    obtain ⟨ht, hkey⟩ := (fieldType?_eq_some hs).1 h
    exact (CustomType.find?_eq_some hkeys).2 ⟨ht, hfine t ht hkey⟩

/-- **In ASCII a spelling denotes the same everywhere.** -/
theorem meansAlike_of_ascii (hs : s.validate = .ok ()) (hnames : ∀ t ∈ s.types, Text.IsAscii t.name)
    (hspelling : Text.IsAscii dataType) : s.MeansAlike dataType := by
  refine (meansAlike_iff hs).2 fun t ht hkey => ?_
  -- within ASCII lower case changes the case of ASCII letters alone
  have htrim : Text.IsAscii (Text.trim dataType) := hspelling.trim
  exact (Text.equalIgnoringCase_iff_of_ascii (hnames t ht) htrim).2 hkey

end Schema

/-! ## Amounts of öre -/

namespace Shop

/-- The type of amounts of öre. -/
def ore : CustomType where
  name := "Öre"
  definition := .domain "integer" []

/-- Orders for which an amount has been paid, in a spelling of the type in lower case. -/
def oreSchema : Schema where
  name := "shop"
  objects := fun
    | .table => [{ name := "orders", fields := [{ name := "paid", dataType := "öre" }] }]
    | _ => []
  types := [ore]

end Shop

namespace Schema

/-- **What a spelling denotes.** A field is converted as the type that has its spelling for a name
in lower case, and a part of another type as the one that has it up to the case of ASCII letters;
each is unique. What a part denotes, a field denotes too, and the two agree on a spelling exactly if
no type has it in lower case only. -/
theorem meansAlike_of_validate (hs : s.validate = .ok ()) (dataType : String) :
    (∀ (p : Plan) (k : ObjectType) (objectName : String) (f : Field), f.dataType = dataType →
      p.convertField (p.fates s) k objectName f =
        match s.fieldType? dataType with
        | some t => p.convertAs t k objectName f
        | none => p.convertPrimitive k objectName f) ∧
      (∀ t, s.fieldType? dataType = some t ↔
        t ∈ s.types ∧ t.key = Text.lowerCase (Text.trim dataType)) ∧
      (∀ (e : ConversionEngine) (r : ConversionRequest) (p : Plan), e.prepare r = .ok (p, s) →
        ∀ t, CustomType.find? p.custom.catalog dataType = some t ↔
          t ∈ s.types ∧ t.IsNamedBy dataType) ∧
      (∀ t, CustomType.find? s.types dataType = some t → s.fieldType? dataType = some t) ∧
      (s.MeansAlike dataType ↔
        ∀ t ∈ s.types, t.key = Text.lowerCase (Text.trim dataType) → t.IsNamedBy dataType) := by
  refine ⟨?_, fun t => fieldType?_eq_some hs, fun e r p hprepare t => ?_,
    fun t => fieldType?_of_find? hs, meansAlike_iff hs⟩
  · rintro p k objectName f rfl
    exact p.convertField_eq s k objectName f
  · rw [(ConversionEngine.custom_of_prepare hprepare).1]
    exact CustomType.find?_eq_some (validate_eq_ok.1 hs).2.2

/-- A price has one meaning, with blanks around it and in capitals. -/
theorem price_means_alike :
    (Shop.priced ⟨"amount", "integer"⟩).validate = .ok () ∧
      (Shop.priced ⟨"amount", "integer"⟩).MeansAlike " PRICE " ∧
      ∃ t, (Shop.priced ⟨"amount", "integer"⟩).fieldType? " PRICE " = some t := by
  have hs : (Shop.priced ⟨"amount", "integer"⟩).validate = .ok () := by decide +kernel
  obtain ⟨-, hfield, -, -, halike⟩ := meansAlike_of_validate hs " PRICE "
  refine ⟨hs, halike.2 (by decide), _, (hfield _).2 ⟨List.mem_cons_self, by decide⟩⟩

/-- The amount of öre that was paid has the type of the catalog, but the same spelling denotes no
type of it as a part of another type. -/
theorem ore_means_differently :
    Shop.oreSchema.validate = .ok () ∧ Shop.oreSchema.fieldType? "öre" = some Shop.ore ∧
      CustomType.find? Shop.oreSchema.types "öre" = none ∧ ¬Shop.oreSchema.MeansAlike "öre" := by
  have hfield : Shop.oreSchema.fieldType? "öre" = some Shop.ore := by decide +kernel
  have hpart : CustomType.find? Shop.oreSchema.types "öre" = none := by decide +kernel
  refine ⟨by decide +kernel, hfield, hpart, fun halike => ?_⟩
  rw [(halike Shop.ore).1 hfield] at hpart
  cases hpart

end Schema

end SchemaConversion
