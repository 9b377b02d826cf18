import SchemaConversion.Proofs.Schema
import SchemaConversion.Proofs.Conversion.Containers
import SchemaConversion.Proofs.CustomType.Rendition

/-!
# Which custom type a field follows

Fields refer to custom types by name. In a valid schema a name stands for one type at most, so a
field that names a type follows the fate of that type:

> `Schema.fieldType?_eq_some`: the type that a field denotes is the one that it names.

> `fates_of?`: the fates that a conversion looks up are those of the types that are named.

> `follows_resolve`: a fate that a field follows comes from the conversion of a type that nobody
> leaves out.
-/

namespace SchemaConversion

/-- A field has this custom type. -/
def Field.Names (f : Field) (t : CustomType) : Prop := t.key = Text.lowerCase (Text.trim f.dataType)

/-- The custom type that a spelling denotes as the type of a field. -/
def Schema.fieldType? (s : Schema) (dataType : String) : Option CustomType :=
  (Dictionary.ofList (s.types.map fun t => (t.key, t))).find? (Text.lowerCase (Text.trim dataType))

/-- **What a field denotes**: the type of the catalog that has the name in lower case. -/
theorem Schema.fieldType?_eq_some {s : Schema} {t : CustomType} {dataType : String}
    (hs : s.validate = .ok ()) :
    s.fieldType? dataType = some t ↔
      t ∈ s.types ∧ t.key = Text.lowerCase (Text.trim dataType) := by
  have hlookup : s.fieldType? dataType =
      (s.types.foldl (fun d t => d.insert t.key t) Dictionary.empty).find?
        (Text.lowerCase (Text.trim dataType)) := by
    unfold fieldType? Dictionary.ofList
    rw [List.foldl_map]
  rw [hlookup]
  by_cases hnamed : ∃ u ∈ s.types, u.key = Text.lowerCase (Text.trim dataType)
  · obtain ⟨u, hu, hkey⟩ := hnamed
    -- no other type has the name
    have honly : ∀ v ∈ s.types, v.key = u.key → v = u := fun v hv hsame =>
      types_eq_of_key hs hv hu hsame
    rw [← hkey, Dictionary.find?_foldl_insert hu honly, Option.some_inj]
    constructor
    · rintro rfl
      exact ⟨hu, rfl⟩
    · rintro ⟨ht, hsame⟩
      exact (honly t ht hsame).symm
  · rw [Dictionary.find?_foldl_insert_of_ne fun u hu hkey => hnamed ⟨u, hu, hkey⟩]
    constructor
    · rintro ⟨⟩
    · rintro ⟨ht, hkey⟩
      exact absurd ⟨t, ht, hkey⟩ hnamed

/-- A result has a conversion exactly if its fate is to be converted. -/
theorem TypeResult.conversion?_eq_some {r : TypeResult} {c : CustomConversion} :
    r.conversion? = some c ↔ r.fate = .converted c := by
  unfold conversion?
  cases r.fate <;> simp

namespace Plan

variable {p : Plan} {s : Schema} {f : Field} {t : CustomType}

/-- The result for a type is about this type, whatever becomes of it. -/
theorem convertType_type (p : Plan) (t : CustomType) : (p.convertType t).type = t := by
  have htreats := p.treats_convertType t
  generalize p.convertType t = result at htreats ⊢
  cases htreats <;> rfl

/-- The fate of a spelling is the fate of the type that it denotes. -/
theorem fates_eq_fieldType? (p : Plan) (s : Schema) (dataType : String) :
    (p.fates s).of? dataType = (s.fieldType? dataType).map fun t => (p.convertType t).fate := by
  unfold Schema.fieldType?
  rw [← Dictionary.find?_ofList_map]
  unfold fates Fates.of? Fates.ofResults convertTypes
  rw [List.map_map, List.map_map]
  simp only [Function.comp_def, convertType_type]
  rfl

/-- **Fates are looked up under the names of types.** -/
theorem fates_of? (hs : s.validate = .ok ()) {fate : TypeFate} :
    (p.fates s).of? f.dataType = some fate ↔
      ∃ t ∈ s.types, f.Names t ∧ (p.convertType t).fate = fate := by
  rw [fates_eq_fieldType?, Option.map_eq_some_iff]
  simp only [Schema.fieldType?_eq_some hs, and_assoc]
  rfl

/-- A field that names no custom type follows no fate. -/
theorem fates_of?_eq_none (hs : s.validate = .ok ()) :
    (p.fates s).of? f.dataType = none ↔ ∀ t ∈ s.types, ¬f.Names t := by
  rw [Option.eq_none_iff_forall_ne_some]
  constructor
  · intro hnone t ht hnames
    exact hnone _ ((fates_of? hs).2 ⟨t, ht, hnames, rfl⟩)
  · intro hnone fate hfate
    obtain ⟨t, ht, hnames, -⟩ := (fates_of? hs).1 hfate
    exact hnone t ht hnames

/-- The custom type of a field is converted, and the conversion is carried out. -/
def Follows (p : Plan) (s : Schema) (f : Field) (c : CustomConversion) : Prop :=
  ∃ t ∈ s.types, f.Names t ∧ (p.convertType t).fate = .converted c

/-- What is carried out is the conversion of a type that nobody leaves out. -/
theorem convertType_converted {c : CustomConversion} (h : (p.convertType t).fate = .converted c) :
    p.excludes t = false ∧ p.custom.resolve t = .ok c := by
  have htreats := p.treats_convertType t
  generalize p.convertType t = result at h htreats
  cases htreats with
  | excluded _ => cases h
  | failed _ _ => cases h
  | refused _ _ => cases h
  | carried hx hc =>
    cases h
    exact ⟨hx, hc⟩

/-- What a field follows is the conversion of the type that it names, and this is not excluded. -/
theorem follows_resolve {c : CustomConversion} (h : p.Follows s f c) :
    ∃ t ∈ s.types, f.Names t ∧ p.excludes t = false ∧ p.custom.resolve t = .ok c := by
  obtain ⟨t, ht, hnames, hfate⟩ := h
  exact ⟨t, ht, hnames, convertType_converted hfate⟩

/-- A field that follows a conversion becomes what that makes of it. -/
theorem Follows.convertField {c : CustomConversion} (hs : s.validate = .ok ())
    (h : p.Follows s f c) (k : ObjectType) (name : String) :
    p.convertField (p.fates s) k name f = f.follow c := by
  unfold Plan.convertField
  rw [(fates_of? hs).2 h]

/-- **How a field is converted.** It follows a conversion of its custom type, stays as it is
because that type is not converted, or is converted as a native type. -/
theorem convertField_cases (hs : s.validate = .ok ()) (k : ObjectType) (name : String) :
    (∃ c, p.Follows s f c ∧ p.convertField (p.fates s) k name f = f.follow c) ∨
      (∃ t ∈ s.types, f.Names t ∧ ∃ reason,
        ((p.convertType t).fate = .skipped reason ∨ (p.convertType t).fate = .dropped reason) ∧
        p.convertField (p.fates s) k name f =
          { fields := [f], warnings := [keepsType .customType k name f reason] }) ∨
      ((∀ t ∈ s.types, ¬f.Names t) ∧
        p.convertField (p.fates s) k name f = p.convertPrimitive k name f) := by
  unfold convertField
  cases hfate : (p.fates s).of? f.dataType with
  | none => exact .inr (.inr ⟨(fates_of?_eq_none hs).1 hfate, rfl⟩)
  | some fate =>
    obtain ⟨t, ht, hnames, hconvert⟩ := (fates_of? hs).1 hfate
    cases fate with
    | converted c => exact .inl ⟨c, ⟨t, ht, hnames, hconvert⟩, rfl⟩
    | skipped reason => exact .inr (.inl ⟨t, ht, hnames, reason, .inl hconvert, rfl⟩)
    | dropped reason => exact .inr (.inl ⟨t, ht, hnames, reason, .inr hconvert, rfl⟩)

/-- The conversion of a field as one of a custom type: it follows the conversion of the type, or it
stays as it is if the type is not converted. -/
def convertAs (p : Plan) (t : CustomType) (k : ObjectType) (objectName : String) (f : Field) :
    FieldConversion :=
  match (p.convertType t).fate with
  | .converted c => f.follow c
  | .skipped reason | .dropped reason =>
    { fields := [f], warnings := [keepsType .customType k objectName f reason] }

/-- **A field is converted as the type that it denotes**, or else as a native one. -/
theorem convertField_eq (p : Plan) (s : Schema) (k : ObjectType) (objectName : String) (f : Field) :
    p.convertField (p.fates s) k objectName f =
      match s.fieldType? f.dataType with
      | some t => p.convertAs t k objectName f
      | none => p.convertPrimitive k objectName f := by
  unfold convertField
  rw [fates_eq_fieldType?]
  cases s.fieldType? f.dataType with
  | none => rfl
  | some t =>
    show _ = p.convertAs t k objectName f
    unfold convertAs
    rw [Option.map_some]
    cases (p.convertType t).fate <;> rfl

/-- How a field that names no custom type is converted: it gets the type that its own type is
converted to, or it stays as it is because there is none. -/
theorem convertPrimitive_cases (p : Plan) (k : ObjectType) (name : String) (f : Field) :
    (∃ b, p.types.resolve f.dataType = .ok b ∧
        p.convertPrimitive k name f =
          { fields := [{ f with dataType := b.converted }]
            warnings := if b.lossy then [p.losesValues k name f b] else [] }) ∨
      ∃ error, p.types.resolve f.dataType = .error error ∧
        p.convertPrimitive k name f =
          { fields := [f]
            warnings := [(keepsType .typeConversion k name f error.message).suggesting
              "add a type override for this type"] } := by
  unfold convertPrimitive
  cases hb : p.types.resolve f.dataType with
  | ok b => exact .inl ⟨b, rfl, rfl⟩
  | error e => exact .inr ⟨e, rfl, rfl⟩

end Plan

end SchemaConversion
