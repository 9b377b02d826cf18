import SchemaConversion.Proofs.Conversion.Containers
import SchemaConversion.Proofs.Conversion.Fates
import SchemaConversion.Proofs.Conversion.Preparation
import SchemaConversion.Proofs.CustomType.References
import SchemaConversion.Proofs.CustomType.Remarks

/-!
# What remains of the catalog

A custom type remains in the catalog of the converted schema if a native statement creates it. The
statement spells the types to which the definition refers as the target does. The type in the
catalog does not: it is the one of the source, as it was.

> `execute_types`: the catalog of the converted schema is a part of that of the source.

> `keeps_rendered`: for everything to which a type in it refers there is a spelling in the target.

So the catalog is in the terms of the target only if nothing in it had to be rewritten:

> `rewritesCatalog_iff`: if each reference is to a type that remains too, or is to no custom type
> and is spelled in the target as it is in the source.

> `shop_catalog_not_rewritten`: in general it is not.
-/

namespace SchemaConversion

/-- The spellings of other types that a definition is made of. -/
def CustomDefinition.references : CustomDefinition → List String
  | .composite fields => fields.map CompositeField.dataType
  | .domain baseType _ => [baseType]
  | .array elementType => [elementType]
  | .range subtype => [subtype]
  | _ => []

namespace CustomConverter

variable {c : CustomConverter} {t : CustomType}
  {resolve : CustomType → Except ConversionError CustomConversion}

/-- The spelling in the target with which the statement for a definition is filled for one of its
references. Only composites and arrays may refer to custom types. -/
def rendered (c : CustomConverter) (resolve : CustomType → Except ConversionError CustomConversion)
    (definition : CustomDefinition) (reference : String) : Except ConversionError String :=
  match definition with
  | .composite _ | .array _ => c.spelling resolve reference
  | _ => (c.types.resolve reference).map TypeConversion.converted

/-- What is no custom type is spelled as a native type is. -/
theorem rendered_of_none {definition : CustomDefinition} {reference : String}
    (h : ∀ t ∈ c.catalog, ¬t.IsNamedBy reference) :
    c.rendered resolve definition reference =
      (c.types.resolve reference).map TypeConversion.converted := by
  have hspelling : c.spelling resolve reference =
      (c.types.resolve reference).map TypeConversion.converted := by
    unfold spelling
    rw [CustomType.find?_eq_none.2 h]
  unfold rendered
  split
  · exact hspelling
  · exact hspelling
  · rfl

/-- What fills a statement has a spelling for every reference. -/
theorem filling_rendered {filling : Filling} (h : c.filling resolve t = .ok filling) :
    ∀ reference ∈ t.definition.references,
      ∃ spelling, c.rendered resolve t.definition reference = .ok spelling := by
  unfold CustomConverter.filling at h
  intro reference href
  cases hd : t.definition with
  | composite fields =>
    rw [hd] at h href
    dsimp only at h
    split at h
    · cases h
    · obtain ⟨typed, htyped, -⟩ := bind_eq_ok.1 h
      obtain ⟨field, hfield, rfl⟩ := List.mem_map.1 href
      obtain ⟨_, -, htext⟩ := ok_of_mapM htyped hfield
      unfold typedField at htext
      split at htext
      · next spelling hspelling => exact ⟨spelling, about_eq_ok.1 hspelling⟩
      · cases htext
  | domain baseType conditions =>
    rw [hd] at h href
    rw [List.mem_singleton.1 href]
    unfold domainFilling at h
    simp only [bind_eq_ok] at h
    obtain ⟨_, -, base, hbase, -⟩ := h
    exact ⟨base, hbase⟩
  | array elementType =>
    rw [hd] at h href
    rw [List.mem_singleton.1 href]
    obtain ⟨element, helement, -⟩ := bind_eq_ok.1 h
    exact ⟨element, helement⟩
  | range subtype =>
    rw [hd] at h href
    rw [List.mem_singleton.1 href]
    dsimp only at h
    split at h
    · cases h
    · next base hbase =>
      exact ⟨base.converted, map_eq_ok.2 ⟨base, about_eq_ok.1 hbase, rfl⟩⟩
  | enum values => rw [hd] at href; cases href
  | spatial geometry srid => rw [hd] at href; cases href
  | temporal baseType => rw [hd] at href; cases href
  | binary maxLength => rw [hd] at href; cases href
  | other definition => rw [hd] at href; cases href

end CustomConverter

namespace Plan

variable {p : Plan} {s t : Schema}

/-! ## Which types remain -/

/-- The type remains in the catalog. -/
def keeps (p : Plan) (u : CustomType) : Bool := (p.convertType u).isKept

/-- The catalog of the converted schema is what remains of that of the source, in order and as it
was. -/
theorem execute_types (h : (p.execute s).schema = some t) : t.types = s.types.filter p.keeps := by
  cases h
  show ((s.types.map p.convertType).filter TypeResult.isKept).map TypeResult.type = _
  rw [List.filter_map, List.map_map]
  exact List.map_id'' (fun u => convertType_type p u) _

/-- A type remains if nobody leaves it out and a native statement creates it. -/
theorem keeps_iff {u : CustomType} :
    p.keeps u = true ↔ p.excludes u = false ∧ ∃ c, p.custom.resolve u = .ok c ∧
      c.strategy = .direct ∧ c.rendition.definition.isSome = true := by
  unfold keeps TypeResult.isKept TypeResult.conversion?
  constructor
  · intro hkept
    cases hfate : (p.convertType u).fate with
    | converted c =>
      rw [hfate] at hkept
      obtain ⟨hx, hc⟩ := convertType_converted hfate
      exact ⟨hx, c, hc, by simpa using hkept⟩
    | skipped reason =>
      rw [hfate] at hkept
      cases hkept
    | dropped reason =>
      rw [hfate] at hkept
      cases hkept
  · rintro ⟨hx, c, hc, hdirect, hstatement⟩
    -- the user is not asked about such a type
    rw [convertType_plain hx hc (CustomConverter.resolve_direct hc hdirect).1]
    simpa using ⟨hdirect, hstatement⟩

/-- The spelling in the target of a reference of a definition of the catalog. -/
def rendered (p : Plan) (definition : CustomDefinition) (reference : String) :
    Except ConversionError String :=
  p.custom.rendered (p.custom.resolveAt (p.custom.levels - 1)) definition reference

/-- **There is a spelling in the target** for each reference of a type that remains. -/
theorem keeps_rendered {u : CustomType} (h : p.keeps u = true) :
    ∀ reference ∈ u.definition.references,
      ∃ spelling, p.rendered u.definition reference = .ok spelling := by
  obtain ⟨-, c, hc, hdirect, -⟩ := keeps_iff.1 h
  obtain ⟨-, filling, hfilling, -⟩ := CustomConverter.resolve_direct hc hdirect
  exact CustomConverter.filling_rendered hfilling

/-! ## Which catalogs are rewritten -/

/-- A spelling may stand in the converted catalog for a reference of the source: it names a type of
the converted catalog, or it is the spelling in the target and does not name the custom type any
more that the reference names. -/
def MayStandFor (p : Plan) (s t : Schema) (definition : CustomDefinition)
    (reference spelling : String) : Prop :=
  (∃ v ∈ t.types, v.IsNamedBy spelling) ∨
    (p.rendered definition reference = .ok spelling ∧
      ¬∃ v ∈ s.types, v.IsNamedBy reference ∧ v.IsNamedBy spelling)

/-- A catalog is rewritten and closed: each type in it has the name of a type of the source, and
each of its spellings may stand for the one of the source at the same place. -/
def RewritesCatalog (p : Plan) (s t : Schema) : Prop :=
  ∀ u ∈ t.types, ∃ v ∈ s.types, u.name = v.name ∧
    List.Forall₂ (p.MayStandFor s t v.definition) v.definition.references u.definition.references

/-- A reference need not be rewritten: it is to a type that remains, or it is to no custom type and
the target spells it in the same way. -/
def NeedsNoRewriting (p : Plan) (s t : Schema) (reference : String) : Prop :=
  (∃ v ∈ t.types, v.IsNamedBy reference) ∨
    ((∀ v ∈ s.types, ¬v.IsNamedBy reference) ∧
      ∃ b, p.types.resolve reference = .ok b ∧ b.converted = reference)

/-- A reference may stand for itself exactly if it need not be rewritten. -/
theorem mayStandFor_self (hcatalog : p.custom.catalog = s.types) (htypes : p.custom.types = p.types)
    {definition : CustomDefinition} {reference : String} :
    p.MayStandFor s t definition reference reference ↔ p.NeedsNoRewriting s t reference := by
  unfold MayStandFor NeedsNoRewriting rendered
  refine or_congr_right ?_
  have hnone : (¬∃ v ∈ s.types, v.IsNamedBy reference ∧ v.IsNamedBy reference) ↔
      ∀ v ∈ s.types, ¬v.IsNamedBy reference := by simp
  rw [hnone, and_comm]
  refine and_congr_right fun h => ?_
  rw [← hcatalog] at h
  rw [CustomConverter.rendered_of_none h, htypes, map_eq_ok]

/-- **When the catalog is rewritten and closed**: if nothing in it had to be rewritten. -/
theorem rewritesCatalog_iff (hs : s.validate = .ok ()) (hcatalog : p.custom.catalog = s.types)
    (htypes : p.custom.types = p.types) (h : (p.execute s).schema = some t) :
    p.RewritesCatalog s t ↔
      ∀ u ∈ t.types, ∀ reference ∈ u.definition.references, p.NeedsNoRewriting s t reference := by
  have hsource : ∀ u ∈ t.types, u ∈ s.types := by
    intro u hu
    rw [execute_types h] at hu
    exact List.mem_of_mem_filter hu
  constructor
  · intro hrewritten u hu reference href
    obtain ⟨v, hv, hname, hstand⟩ := hrewritten u hu
    -- names are unique in the source, so that the type is compared with itself
    obtain rfl : u = v :=
      Schema.types_eq_of_key hs (hsource u hu) hv (congrArg Text.lowerCase hname)
    exact (mayStandFor_self hcatalog htypes).1 (List.forall₂_same.1 hstand reference href)
  · intro hneeds u hu
    refine ⟨u, hsource u hu, rfl, List.forall₂_same.2 fun reference href => ?_⟩
    exact (mayStandFor_self hcatalog htypes).2 (hneeds u hu reference href)

end Plan

/-! ## Requests -/

namespace Shop

/-- A price, which is a composite of one field, and a currency. -/
def documentTypes (amount : CompositeField) : List CustomType :=
  [{ name := "price", definition := .composite [amount] },
    { name := "currency", definition := .enum ["eur", "usd"] }]

/-- Documents with a price, to be converted to tables. -/
def documentsRequest (amount : CompositeField) : ConversionRequest where
  schema := some
    { name := "shop"
      objects := fun
        | .collection =>
          [{ name := "orders", fields := [{ name := "total", dataType := "price" }] }]
        | _ => []
      types := documentTypes amount }
  source := "mongodb"
  target := "postgresql"
  mode := some .automatic

end Shop

namespace ConversionEngine

variable {e : ConversionEngine} {r : ConversionRequest} {c : CompletedConversion}

/-- **The converted catalog.** It consists of the types of the source, as they were, that are not
left out and that a native statement creates. There is a spelling in the target for each of their
references, but the catalog is rewritten and closed only if none of them needs it: if each reference
is to a type that remains, or to no custom type and spelled in the target in the same way. -/
theorem convert_rewrites_catalog_iff (h : e.convert r = .ok c)
    (hx : c.report.mode.executes = true) :
    ∃ p s t, e.prepare r = .ok (p, s) ∧ r.schema = some s ∧ c.schema = some t ∧
      t.types = s.types.filter p.keeps ∧
      (∀ u, p.keeps u = true ↔ p.excludes u = false ∧ ∃ conversion,
        p.custom.resolve u = .ok conversion ∧ conversion.strategy = .direct ∧
          conversion.rendition.definition.isSome = true) ∧
      (∀ u ∈ t.types, ∀ reference ∈ u.definition.references,
        ∃ spelling, p.rendered u.definition reference = .ok spelling) ∧
      (p.RewritesCatalog s t ↔ ∀ u ∈ t.types, ∀ reference ∈ u.definition.references,
        p.NeedsNoRewriting s t reference) := by
  obtain ⟨p, s, hprepare, rfl⟩ := convert_eq_ok.1 h
  obtain ⟨t, ht⟩ : ∃ t, (p.execute s).schema = some t := ⟨_, rfl⟩
  obtain ⟨hschema, hs⟩ := prepare_schema hprepare
  rw [carryOut_executing hx]
  refine ⟨p, s, t, hprepare, hschema, ht, p.execute_types ht, fun u => p.keeps_iff,
    fun u hu => ?_, p.rewritesCatalog_iff hs (custom_of_prepare hprepare).1
      (plan_of_prepare hprepare).2.2 ht⟩
  rw [p.execute_types ht] at hu
  exact p.keeps_rendered (List.mem_filter.1 hu).2

/-- If the price refers to the currency only, then the catalog is rewritten and closed. -/
theorem shop_catalog_rewritten :
    ∃ c p s t, Shop.engine.convert (Shop.documentsRequest ⟨"unit", "currency"⟩) = .ok c ∧
      c.report.mode.executes = true ∧
      Shop.engine.prepare (Shop.documentsRequest ⟨"unit", "currency"⟩) = .ok (p, s) ∧
      c.schema = some t ∧ t.types = Shop.documentTypes ⟨"unit", "currency"⟩ ∧
      p.RewritesCatalog s t := by
  have htest : (Shop.engine.prepare (Shop.documentsRequest ⟨"unit", "currency"⟩)).toOption.any
      (fun x => decide (x.1.mode.executes = true ∧
        x.2.types.filter x.1.keeps = Shop.documentTypes ⟨"unit", "currency"⟩)) = true := by
    decide +kernel
  obtain ⟨⟨p, s⟩, hprepare, hfacts⟩ := exists_ok htest
  obtain ⟨hx, hkept⟩ := of_decide_eq_true hfacts
  have h := convert_eq_ok.2 ⟨p, s, hprepare, rfl⟩
  obtain ⟨p', s', t, hprepare', -, ht, htypes, -, -, hiff⟩ := convert_rewrites_catalog_iff h hx
  obtain ⟨rfl, rfl⟩ := prepare_unique hprepare hprepare'
  rw [hkept] at htypes
  have hclosed : ∀ u ∈ Shop.documentTypes ⟨"unit", "currency"⟩,
      ∀ reference ∈ u.definition.references,
        ∃ v ∈ Shop.documentTypes ⟨"unit", "currency"⟩, v.IsNamedBy reference := by
    decide
  rw [← htypes] at hclosed
  exact ⟨_, p, s, t, h, hx, hprepare, ht, htypes,
    hiff.2 fun u hu reference href => .inl (hclosed u hu reference href)⟩

/-- If the price is a number, then the catalog has the spelling of the source and not the one of
the target. -/
theorem shop_catalog_not_rewritten :
    ∃ c p s t, Shop.engine.convert (Shop.documentsRequest ⟨"amount", "double"⟩) = .ok c ∧
      c.report.mode.executes = true ∧
      Shop.engine.prepare (Shop.documentsRequest ⟨"amount", "double"⟩) = .ok (p, s) ∧
      c.schema = some t ∧ t.types = Shop.documentTypes ⟨"amount", "double"⟩ ∧
      p.rendered (.composite [⟨"amount", "double"⟩]) "double" = .ok "double precision" ∧
      ¬p.RewritesCatalog s t := by
  have htest : (Shop.engine.prepare (Shop.documentsRequest ⟨"amount", "double"⟩)).toOption.any
      (fun x => decide (x.1.mode.executes = true ∧
          x.2.types.filter x.1.keeps = Shop.documentTypes ⟨"amount", "double"⟩) &&
        (x.1.rendered (.composite [⟨"amount", "double"⟩]) "double").toOption.any
          (· == "double precision")) = true := by decide +kernel
  obtain ⟨⟨p, s⟩, hprepare, hfacts⟩ := exists_ok htest
  obtain ⟨hplan, hspelled⟩ := Bool.and_eq_true_iff.1 hfacts
  obtain ⟨hx, hkept⟩ := of_decide_eq_true hplan
  obtain ⟨spelling, hrendered, hspelling⟩ := exists_ok hspelled
  rw [eq_of_beq hspelling] at hrendered
  obtain ⟨t, ht⟩ : ∃ t, (p.execute s).schema = some t := ⟨_, rfl⟩
  have htypes := (p.execute_types ht).trans hkept
  refine ⟨_, p, s, t, convert_eq_ok.2 ⟨p, s, hprepare, rfl⟩, hx, hprepare, ?_, htypes, hrendered,
    fun hrewritten => ?_⟩
  · rw [carryOut_executing hx]
    exact ht
  · have hcatalog := (custom_of_prepare hprepare).1
    have hcustom := (plan_of_prepare hprepare).2.2
    have hneeds := (p.rewritesCatalog_iff (prepare_schema hprepare).2 hcatalog hcustom ht).1
      hrewritten ⟨"price", .composite [⟨"amount", "double"⟩]⟩ (htypes ▸ List.mem_cons_self)
      "double" List.mem_cons_self
    rcases (Plan.mayStandFor_self hcatalog hcustom).2 hneeds with hnamed | ⟨hsame, -⟩
    · rw [htypes] at hnamed
      exact absurd hnamed (by decide)
    · rw [hrendered] at hsame
      exact absurd (Except.ok.inj hsame) (by decide)

end ConversionEngine

end SchemaConversion
