import SchemaConversion.Proofs.TypeConversion
import SchemaConversion.Proofs.Conversion.Fields

/-!
# Prescribed replacements

The user may prescribe a replacement for a spelling. It is meant for all spellings with the same
normal form, and so it is looked up:

> `find?_normalizedOverrides`: if one replacement alone is for a spelling, it is the one found.

Where native types are converted, it comes before everything else:

> `resolve_prescribed`: a spelling with a normal form is replaced as prescribed, whether the source
> knows it or not and without loss.

But a field is taken for one of a custom type first. So the replacement is heeded unless the field
has a custom type or its type is blank:

> `convertField_heeds`: what stands for a field for which a replacement is prescribed.

> `shop_override_ignored`: the field of a custom type gets something else.
-/

namespace SchemaConversion

/-- One replacement alone is prescribed for a spelling and others with the same normal form. -/
def Preferences.Prescribes (preferences : Preferences) (dataType replacement : String) : Prop :=
  ∃ key, preferences.typeOverrides.entries.filter (fun entry =>
    TypeName.normalize entry.1 = TypeName.normalize dataType) = [(key, replacement)]

/-- A replacement that is prescribed for a spelling is found under its normal form. -/
theorem ConversionEngine.find?_normalizedOverrides {preferences : Preferences}
    {dataType replacement : String} (h : preferences.Prescribes dataType replacement) :
    (normalizedOverrides preferences).find? (TypeName.normalize dataType) = some replacement := by
  obtain ⟨key, hentries⟩ := h
  have hmem (entry : String × String) :
      entry ∈ preferences.typeOverrides.entries ∧
          TypeName.normalize entry.1 = TypeName.normalize dataType ↔ entry = (key, replacement) := by
    have hiff := congrArg (entry ∈ ·) hentries
    simpa [List.mem_filter] using hiff
  obtain ⟨hentry, hkey⟩ := (hmem (key, replacement)).2 rfl
  have honly : ∀ other ∈ preferences.typeOverrides.entries,
      TypeName.normalize other.1 = TypeName.normalize key → other = (key, replacement) :=
    fun other hother hsame => (hmem other).1 ⟨hother, hsame.trans hkey⟩
  have hfound := Dictionary.find?_ofList_key hentry honly
  rw [hkey] at hfound
  exact hfound

namespace TypeConverter

variable {c : TypeConverter} {spelling replacement : String}

/-- A spelling without a normal form is not known to the source, whatever is prescribed. -/
theorem resolve_blank (h : TypeName.normalize spelling = "") :
    c.resolve spelling = .error (c.unknown spelling) := by
  unfold resolve
  rw [h]
  exact resolveNormal_nil c spelling

/-- **A prescribed replacement comes first**: it is taken as it is written. -/
theorem resolve_prescribed (hne : TypeName.normalize spelling ≠ "")
    (h : c.overrides.find? (TypeName.normalize spelling) = some replacement) :
    c.resolve spelling =
      .ok (c.override spelling (TypeName.normalize spelling) replacement) := by
  have hnormal : (TypeName.normalize spelling).toList ≠ [] := by simpa using hne
  have hreplacement : c.replacement? (TypeName.normalize spelling) = some replacement := by
    unfold replacement?
    rw [h, Option.some_or]
  rw [← String.ofList_toList (s := TypeName.normalize spelling)] at hreplacement
  unfold resolve
  rw [resolveNormal_prescribed hnormal hreplacement, String.ofList_toList]

end TypeConverter

namespace Plan

variable {p : Plan} {s : Schema} {f : Field} {k d : ContainerKind} {o : SchemaObject}

/-- What stands for a field for which a replacement is prescribed: the field with the replacement,
unless it has a custom type or no type to speak of. -/
structure Heeds (p : Plan) (s : Schema) (k : ObjectType) (objectName : String) (f : Field)
    (replacement : String) (part : List Field) : Prop where
  native : s.fieldType? f.dataType = none → TypeName.normalize f.dataType ≠ "" →
    part = [{ f with dataType := replacement }]
  blank : s.fieldType? f.dataType = none → TypeName.normalize f.dataType = "" → part = [f]
  custom : ∀ t, s.fieldType? f.dataType = some t → part = (p.convertAs t k objectName f).fields

/-- **How replacements are heeded.** -/
theorem convertField_heeds {replacement : String} (k : ObjectType) (objectName : String)
    (h : p.types.overrides.find? (TypeName.normalize f.dataType) = some replacement) :
    p.Heeds s k objectName f replacement
      (p.convertField (p.fates s) k objectName f).fields := by
  rw [convertField_eq]
  refine ⟨fun hnone hne => ?_, fun hnone hblank => ?_, fun t ht => ?_⟩
  · rw [hnone]
    dsimp only
    unfold convertPrimitive
    rw [TypeConverter.resolve_prescribed hne h]
    rfl
  · -- a blank type is refused before anything prescribed is looked for
    rw [hnone]
    dsimp only
    unfold convertPrimitive
    rw [TypeConverter.resolve_blank hblank]
  · rw [ht]

/-- The conversion of an object heeds the replacements that the user prescribes: it consists of one
part for each field, and a part heeds the replacement that is prescribed for its field. -/
def HeedsOverrides (p : Plan) (s : Schema) (k : ObjectType) (o conversion : SchemaObject) : Prop :=
  conversion.name = o.name ∧ ∃ parts : List (List Field), conversion.fields = parts.flatten ∧
    List.Forall₂ (fun f part => ∀ replacement, p.preferences.Prescribes f.dataType replacement →
      p.Heeds s k o.name f replacement part) o.fields parts

/-- Every conversion of an object heeds the replacements. -/
theorem converted_heedsOverrides
    (hoverrides : p.types.overrides = ConversionEngine.normalizedOverrides p.preferences)
    (k : ContainerKind) (o : SchemaObject) :
    p.HeedsOverrides s k.objectType o (p.converted (p.fates s) k o) := by
  refine ⟨converted_name o, _, p.convertObject_parts _ o, ?_⟩
  rw [List.forall₂_map_right_iff, List.forall₂_same]
  intro f _ replacement hprescribed
  refine convertField_heeds k.objectType o.name ?_
  rw [hoverrides]
  exact ConversionEngine.find?_normalizedOverrides hprescribed

end Plan

/-! ## Requests -/

namespace Shop

/-- The conversion of orders with a total of this type to a graph, with a replacement for a type. -/
def overridingRequest (dataType : String) (replaced replacement : String) : ConversionRequest :=
  { graphRequest ⟨"amount", "integer"⟩ with
    schema := some
      { priced ⟨"amount", "integer"⟩ with
        objects := fun
          | .table => [{ name := "orders", fields := [{ name := "total", dataType }] }]
          | _ => [] }
    preferences := { typeOverrides := .ofList [(replaced, replacement)] } }

end Shop

namespace ConversionEngine

variable {e : ConversionEngine} {r : ConversionRequest} {c : CompletedConversion}

/-- **Prescribed replacements.** Besides lookup tables the converted schema holds the conversions of
the objects that go somewhere, each made of one part for each field. If one replacement alone is
prescribed for the type of a field, the part is the field with the replacement as it is written,
unless the field has a custom type, which is then converted as ever, or a type that is blank. -/
theorem convert_heeds_overrides (h : e.convert r = .ok c) (hx : c.report.mode.executes = true) :
    ∃ p s t, e.prepare r = .ok (p, s) ∧ r.schema = some s ∧ c.schema = some t ∧
      p.preferences = r.preferences ∧
      (∀ d, t.objects d = p.tablesIn s d ++ ContainerKind.all.flatMap (p.arrivals s d)) ∧
      ∀ d k, p.destination? k = some d →
        List.Forall₂ (p.HeedsOverrides s k.objectType) (p.chosen (s.objects k))
          (p.arrivals s d k) := by
  obtain ⟨p, s, t, hprepare, hschema, ht, hobjects, hheeds⟩ :=
    convert_forall₂ (R := fun p s k => p.HeedsOverrides s k.objectType) h hx
      fun p s hprepare k o _ =>
        Plan.converted_heedsOverrides (overrides_of_prepare hprepare) k o
  exact ⟨p, s, t, hprepare, hschema, ht, (plan_of_prepare hprepare).1, hobjects, hheeds⟩

/-- A replacement for lists of parcels is heeded, though the source does not know parcels. -/
theorem shop_override_heeded :
    ∃ c p s o, Shop.graphEngine.convert (Shop.overridingRequest "PARCEL [ ]" "Parcel [ ]" "List") =
        .ok c ∧
      c.report.mode.executes = true ∧
      Shop.graphEngine.prepare (Shop.overridingRequest "PARCEL [ ]" "Parcel [ ]" "List") =
        .ok (p, s) ∧
      p.arrivals s .node .table = [o] ∧ o.fields = [{ name := "total", dataType := "List" }] := by
  have htest : (Shop.graphEngine.prepare
      (Shop.overridingRequest "PARCEL [ ]" "Parcel [ ]" "List")).toOption.any
      (fun x => decide (x.1.mode.executes = true ∧ x.1.destination? .table = some .node ∧
        x.1.chosen (x.2.objects .table) =
          [{ name := "orders", fields := [{ name := "total", dataType := "PARCEL [ ]" }] }] ∧
        x.2.fieldType? "PARCEL [ ]" = none)) = true := by decide +kernel
  obtain ⟨⟨p, s⟩, hprepare, hfacts⟩ := exists_ok htest
  obtain ⟨hx, hd, hchosen, hnative⟩ := of_decide_eq_true hfacts
  have h := convert_eq_ok.2 ⟨p, s, hprepare, rfl⟩
  obtain ⟨p', s', t, hprepare', -, -, hpreferences, -, hheeds⟩ := convert_heeds_overrides h hx
  obtain ⟨rfl, rfl⟩ := prepare_unique hprepare hprepare'
  have htable := hheeds .node .table hd
  rw [hchosen, List.forall₂_cons_left_iff] at htable
  obtain ⟨o, rest, ⟨-, parts, hfields, hparts⟩, hrest, harrivals⟩ := htable
  rw [List.forall₂_nil_left_iff.1 hrest] at harrivals
  rw [List.forall₂_cons_left_iff] at hparts
  obtain ⟨part, none, hpart, hnone, rfl⟩ := hparts
  rw [List.forall₂_nil_left_iff.1 hnone, List.flatten_cons, List.flatten_nil,
    List.append_nil] at hfields
  have hprescribed : p.preferences.Prescribes "PARCEL [ ]" "List" := by
    rw [hpreferences]
    exact ⟨"Parcel [ ]", by decide +kernel⟩
  have hnormal : TypeName.normalize "PARCEL [ ]" ≠ "" := by decide +kernel
  exact ⟨_, p, s, o, h, hx, hprepare, harrivals,
    hfields.trans ((hpart "List" hprescribed).native hnative hnormal)⟩

/-- A replacement for prices is not heeded, since a price is a custom type: the total becomes the
column for its amount instead. -/
theorem shop_override_ignored :
    ∃ c t o, Shop.graphEngine.convert (Shop.overridingRequest "price" "price" "string") = .ok c ∧
      c.report.mode.executes = true ∧ c.schema = some t ∧
      (Shop.overridingRequest "price" "price" "string").preferences.Prescribes "price" "string" ∧
      t.objects .node = [o] ∧ o.fields = [{ name := "total_amount", dataType := "integer" }] := by
  have htest : (Shop.graphEngine.convert
      (Shop.overridingRequest "price" "price" "string")).toOption.any
      (fun c => c.schema.any fun t => decide (c.report.mode.executes = true ∧
        (t.objects .node).map SchemaObject.fields =
          [[{ name := "total_amount", dataType := "integer" }]])) = true := by decide +kernel
  obtain ⟨c, h, hc⟩ := exists_ok htest
  obtain ⟨t, ht, hfacts⟩ := (Option.any_eq_true _ _).1 hc
  obtain ⟨hx, hnodes⟩ := of_decide_eq_true hfacts
  obtain ⟨o, hobjects, hfields⟩ := List.map_eq_singleton_iff.1 hnodes
  exact ⟨c, t, o, h, hx, ht, ⟨"price", by decide +kernel⟩, hobjects, hfields⟩

end ConversionEngine

end SchemaConversion
