import SchemaConversion.Proofs.Conversion.Warnings
import SchemaConversion.Proofs.CustomType.Remarks

/-!
# Which losses are told

A field gets a type to which a native type is converted, and that may lose something. The native
type is its own, or one that a custom type is made of. A conversion tells the loss if it is the
field's own type, or the base of a domain that is carried as its base with constraints. Composites
that are flattened, and types with a native template, keep only the spelling of the types that they
are made of:

> `execute_tells_losses`: what a field of either sort loses is repeated by a warning, and the
> columns of a flattened composite have the types of which nothing is told.

> `execute_tells_only`: of a custom type nothing else is told but remarks on how it is carried, and
> a warning about a lossy conversion is about the own type of a field.

Together these settle when a loss is told:

> `shop_loses_silently`: a column may be narrower than its field was, and no warning says so.
-/

namespace SchemaConversion

namespace CustomConverter

variable {c : CustomConverter} {t : CustomType} {conversion : CustomConversion}

/-- A domain that is carried as its base gets the type of the base. -/
theorem resolve_base (h : c.resolve t = .ok conversion)
    (hstrategy : conversion.strategy = .checkConstraint) :
    ∃ baseType conditions base, t.definition = .domain baseType conditions ∧
      c.types.resolve baseType = .ok base ∧
      conversion.rendition.convertedType = some base.converted := by
  obtain ⟨left, -, r, more, hr, heq, -⟩ := resolve_renders h
  rw [hstrategy] at hr
  rw [heq]
  cases hr with
  | base hdefinition hbase =>
    exact ⟨_, _, _, hdefinition, hbase, rfl⟩
  | single _ hne => exact absurd rfl hne.2.2

end CustomConverter

namespace Plan

variable {p : Plan} {s : Schema} {f : Field} {t : CustomType} {k d : ContainerKind}
  {o : SchemaObject} {message : String}

/-! ## What is told of a custom type -/

/-- A domain is carried as its base with constraints. -/
def CarriesAsBase (p : Plan) (t : CustomType) : Prop :=
  ∃ c, (p.convertType t).fate = .converted c ∧ c.strategy = .checkConstraint

/-- What is told of a type whatever the types that it is made of are converted to. -/
inductive Remarks (p : Plan) (t : CustomType) : String → Prop
  /-- The strategy that carries the type remarks on it. -/
  | strategy {c : CustomConversion} {message : String}
      (fate_eq : (p.convertType t).fate = .converted c)
      (remark : p.custom.Remark t c.strategy message) : Remarks p t message
  /-- Another strategy has failed before. -/
  | failure {c : CustomConversion} {message : String}
      (fate_eq : (p.convertType t).fate = .converted c)
      (tells : p.custom.TellsFailure t c message) : Remarks p t message
  /-- The type is dropped, and this is why. -/
  | dropped {reason : String} (fate_eq : (p.convertType t).fate = .dropped reason) :
      Remarks p t reason

/-- **What is told of a custom type**: remarks, and if it is carried as its base, what the
conversion of the base has to tell. -/
theorem tells_iff_remarks (hs : s.validate = .ok ()) (ht : t ∈ s.types) :
    (∃ w ∈ (p.execute s).findings.warnings, TellsOfType t message w) ↔
      p.Remarks t message ∨ p.CarriesAsBase t ∧ p.custom.TellsBase t message := by
  rw [tellsOfType_iff hs ht, convertType_tells_iff]
  constructor
  · rintro (⟨c, hfate, hmessage⟩ | hdropped)
    · rcases (CustomConverter.resolve_tells_iff (convertType_converted hfate).2).1 hmessage with
        (hremark | hfailure) | ⟨hstrategy, hbase⟩
      · exact .inl (.strategy hfate hremark)
      · exact .inl (.failure hfate hfailure)
      · exact .inr ⟨⟨c, hfate, hstrategy⟩, hbase⟩
    · exact .inl (.dropped hdropped)
  · have htold {c : CustomConversion} (hfate : (p.convertType t).fate = .converted c) :
        message ∈ c.rendition.warnings ↔ _ :=
      CustomConverter.resolve_tells_iff (convertType_converted hfate).2
    rintro (hremark | ⟨⟨c, hfate, hstrategy⟩, hbase⟩)
    · cases hremark with
      | strategy hfate hremark => exact .inl ⟨_, hfate, (htold hfate).2 (.inl (.inl hremark))⟩
      | failure hfate hfailure => exact .inl ⟨_, hfate, (htold hfate).2 (.inl (.inr hfailure))⟩
      | dropped hdropped => exact .inr hdropped
    · exact .inl ⟨c, hfate, (htold hfate).2 (.inr ⟨hstrategy, hbase⟩)⟩

/-! ## Fields -/

/-- A lossy conversion of a field's own type is told about the field. -/
theorem convertField_lossy (hs : s.validate = .ok ()) (hnone : ∀ t ∈ s.types, ¬f.Names t)
    {b : TypeConversion} (hb : p.types.resolve f.dataType = .ok b) (hlossy : b.lossy = true)
    (k : ObjectType) (name : String) :
    p.convertField (p.fates s) k name f =
      { fields := [{ f with dataType := b.converted }]
        warnings := [p.losesValues k name f b] } := by
  unfold convertField
  rw [(fates_of?_eq_none hs).2 hnone]
  dsimp only
  unfold convertPrimitive
  rw [hb]
  dsimp only
  rw [if_pos hlossy]

/-- What becomes of a field of this object whose type, or a type that its custom type is made of, is
converted to a native type with loss. -/
structure TellsLosses (p : Plan) (s : Schema) (k : ObjectType) (objectName : String)
    (warnings : List ConversionWarning) (f : Field) : Prop where
  /-- The field's own type: the field gets the converted type, and a warning tells the loss. -/
  own : (∀ t ∈ s.types, ¬f.Names t) → ∀ b, p.types.resolve f.dataType = .ok b →
    b.lossy = true →
      (p.convertField (p.fates s) k objectName f).fields = [{ f with dataType := b.converted }] ∧
      ∃ w ∈ warnings, TellsLoss k objectName f b w
  /-- The base of a domain: the field gets the converted type, and a warning tells the loss. -/
  base : ∀ c, p.Follows s f c → c.strategy = .checkConstraint →
    ∃ t ∈ s.types, f.Names t ∧ ∃ baseType conditions b, t.definition = .domain baseType conditions ∧
      p.custom.types.resolve baseType = .ok b ∧
      (p.convertField (p.fates s) k objectName f).fields = [{ f with dataType := b.converted }] ∧
      (b.lossy = true → b.warnings ≠ []) ∧
      ∀ message ∈ b.warnings, ∃ w ∈ warnings, TellsOfType t message w
  /-- A field of a flattened composite, at whatever depth: a column gets the converted type. -/
  column : ∀ c, p.Follows s f c → c.strategy = .flatten →
    ∃ t ∈ s.types, f.Names t ∧ ∃ fields, t.definition = .composite fields ∧
      ∀ b, p.custom.HasColumn fields b →
        ∃ column ∈ (p.convertField (p.fates s) k objectName f).fields,
          column.dataType = b.converted
  /-- A part of a type with a native template: the converted type fills the template, which spells
  the type of the field or is the statement that creates it. -/
  template : ∀ c, p.Follows s f c → c.strategy = .direct →
    ∃ t ∈ s.types, f.Names t ∧
      ∃ filling, p.custom.filling (p.custom.below 0).resolve t = .ok filling ∧
        (p.convertField (p.fates s) k objectName f).fields =
          [{ f with
             dataType := if filling.template.isStatement then t.name else filling.rendered t }] ∧
        c.rendition.definition =
          (if filling.template.isStatement then some (filling.rendered t) else none) ∧
        ∀ b, p.custom.HasPart t b →
          ∃ value ∈ filling.values.map Prod.snd, b.converted.toList <:+: value.toList
  /-- A field has nothing to tell of its own if it gets its type from a custom type, and if that is
  not carried as its base, there are remarks on it alone. -/
  silent : ∀ c, p.Follows s f c → (p.convertField (p.fates s) k objectName f).warnings = [] ∧
    (c.strategy ≠ .checkConstraint → ∃ t ∈ s.types, f.Names t ∧
      ∀ message, (∃ w ∈ warnings, TellsOfType t message w) ↔ p.Remarks t message)

/-- These warnings tell no losses but those of own types and of the bases of domains that are
carried as their base. -/
structure TellsOnly (p : Plan) (s : Schema) (warnings : List ConversionWarning) : Prop where
  /-- A warning about a lossy conversion is about a field that is converted so as its own type. One
  about a custom type is about that type, a field that keeps its type or a table that is missing. -/
  isAbout : ∀ w ∈ warnings, w.kind.tellsLosses = true → p.IsAbout s w
  /-- Of a custom type there is nothing to tell but remarks and what its base loses. -/
  type_iff : ∀ t ∈ s.types, ∀ message,
    (∃ w ∈ warnings, TellsOfType t message w) ↔
      p.Remarks t message ∨ p.CarriesAsBase t ∧ p.custom.TellsBase t message

/-- **The losses of own types and of the bases of domains are told**, those of columns are not. -/
theorem execute_tells_losses (hs : s.validate = .ok ()) (hd : p.destination? k = some d)
    (ho : o ∈ p.chosen (s.objects k)) (hf : f ∈ o.fields) :
    p.TellsLosses s k.objectType o.name (p.execute s).findings.warnings f where
  own hnone b hb hlossy := by
    have hconversion := convertField_lossy hs hnone hb hlossy k.objectType o.name
    -- a conversion with loss has a warning, which is what is told of the field
    have hwarnings := (TypeConverter.resolve_lossy_iff hb).1 hlossy
    refine ⟨by rw [hconversion], p.losesValues k.objectType o.name f b,
      mem_warnings_of_field hd ho hf ?_, losesValues_tells p _ _ f hwarnings⟩
    rw [hconversion]
    exact List.mem_singleton_self _
  base c hfollows hstrategy := by
    have hfield := hfollows.convertField hs k.objectType o.name
    obtain ⟨t, ht, hnames, hfate⟩ := hfollows
    obtain ⟨baseType, conditions, b, hdefinition, hb, hconverted⟩ :=
      CustomConverter.resolve_base (convertType_converted hfate).2 hstrategy
    refine ⟨t, ht, hnames, baseType, conditions, b, hdefinition, hb, ?_,
      (TypeConverter.resolve_lossy_iff hb).1, fun message hmessage => ?_⟩
    · rw [hfield]
      exact Field.renderedBy_some hconverted
    -- the domain takes over what is told of its base
    · exact (tells_iff_remarks hs ht).2
        (.inr ⟨⟨c, hfate, hstrategy⟩, baseType, conditions, b, hdefinition, hb, hmessage⟩)
  column c hfollows hstrategy := by
    have hfield := hfollows.convertField hs k.objectType o.name
    obtain ⟨t, ht, hnames, hfate⟩ := hfollows
    obtain ⟨hnone, fields, specs, hdefinition, hspecs, hsupplements⟩ :=
      CustomConverter.resolve_columns (convertType_converted hfate).2 hstrategy
    refine ⟨t, ht, hnames, fields, hdefinition, fun b hb => ?_⟩
    obtain ⟨spec, hspec, hconverted⟩ := hb.mem_columns hspecs
    refine ⟨f.column spec, ?_, hconverted⟩
    rw [hfield]
    show f.column spec ∈ f.renderedBy c.rendition
    -- no single type stands for a composite that is flattened, so the columns do
    rw [Field.renderedBy_none hnone hsupplements]
    exact List.mem_map_of_mem hspec
  template c hfollows hstrategy := by
    have hfield := hfollows.convertField hs k.objectType o.name
    obtain ⟨t, ht, hnames, hfate⟩ := hfollows
    obtain ⟨-, filling, hfilling, hconverted, hdefinition⟩ :=
      CustomConverter.resolve_direct (convertType_converted hfate).2 hstrategy
    refine ⟨t, ht, hnames, filling, hfilling, ?_, hdefinition, fun b hb => hb.fills hfilling⟩
    rw [hfield]
    exact Field.renderedBy_some hconverted
  silent c hfollows := by
    refine ⟨by rw [hfollows.convertField hs k.objectType o.name]; rfl, fun hstrategy => ?_⟩
    obtain ⟨t, ht, hnames, hfate⟩ := hfollows
    refine ⟨t, ht, hnames, fun message => (tells_iff_remarks hs ht).trans (or_iff_left ?_)⟩
    rintro ⟨⟨other, hother, hbase⟩, -⟩
    -- the fate of a type is one, and so is its strategy
    obtain rfl := TypeFate.converted.inj (hother.symm.trans hfate)
    exact hstrategy hbase

/-- **Nothing else is told.** -/
theorem execute_tells_only (hs : s.validate = .ok ()) :
    p.TellsOnly s (p.execute s).findings.warnings where
  isAbout _ hw hkind := execute_isAbout hs hkind hw
  type_iff _ ht _ := tells_iff_remarks hs ht

end Plan

/-! ## Requests -/

namespace Shop

/-- Orders with a total that is a number, to be converted to a graph, which has only floats. -/
def totalsRequest : ConversionRequest where
  schema := some
    { name := "shop"
      objects := fun
        | .table =>
          [{ name := "orders", fields := [{ name := "total", dataType := "numeric(10,2)" }] }]
        | _ => [] }
  source := "postgresql"
  target := "neo4j"
  mode := some .automatic

end Shop

namespace ConversionEngine

variable {e : ConversionEngine} {r : ConversionRequest} {c : CompletedConversion}

/-- **Which losses are told.** Whenever an object is converted and a field of it gets a type with
loss, a warning tells what may be lost if the field's own type is converted so or the base of its
domain is. The columns of a flattened composite get the converted types as well. But of a custom
type nothing is told besides this and remarks, so what any other type that it is made of loses is
told only if a remark happens to be the same. -/
theorem convert_tells_losses (h : e.convert r = .ok c) (hx : c.report.mode.executes = true) :
    ∃ p s, e.prepare r = .ok (p, s) ∧ r.schema = some s ∧
      (∀ k d, p.destination? k = some d → ∀ o ∈ p.chosen (s.objects k), ∀ f ∈ o.fields,
        p.TellsLosses s k.objectType o.name c.findings.warnings f) ∧
      p.TellsOnly s c.findings.warnings := by
  obtain ⟨p, s, hprepare, rfl⟩ := convert_eq_ok.1 h
  obtain ⟨hschema, hvalid⟩ := prepare_schema hprepare
  rw [carryOut_executing hx]
  exact ⟨p, s, hprepare, hschema, fun k d hd o ho f hf =>
    p.execute_tells_losses hvalid hd ho hf, p.execute_tells_only hvalid⟩

/-- The loss of a total is told. -/
theorem shop_tells_loss :
    ∃ c, Shop.graphEngine.convert Shop.totalsRequest = .ok c ∧ c.report.mode.executes = true ∧
      ∃ w ∈ c.findings.warnings, w.kind = .lossyConversion ∧
        w.message = "orders.total: "
          ++ "neo4j has no numeric type; widened to float64 with possible loss" := by
  have hplan : (Shop.graphEngine.prepare Shop.totalsRequest).toOption.any (fun x =>
      decide (x.1.mode.executes = true ∧ x.1.destination? .table = some .node ∧ x.2.types = [] ∧
        x.1.chosen (x.2.objects .table) =
          [{ name := "orders", fields := [{ name := "total", dataType := "numeric(10,2)" }] }]) &&
        (x.1.types.resolve "numeric(10,2)").toOption.any fun b => decide (b.lossy = true ∧
          b.warnings = ["neo4j has no numeric type; widened to float64 with possible loss"])) =
      true := by decide +kernel
  obtain ⟨⟨p, s⟩, hprepare, hfacts⟩ := exists_ok hplan
  obtain ⟨hshop, hb⟩ := Bool.and_eq_true_iff.1 hfacts
  obtain ⟨hx, hd, htypes, ho⟩ := of_decide_eq_true hshop
  obtain ⟨b, hresolve, hb⟩ := exists_ok hb
  obtain ⟨hlossy, hwarnings⟩ := of_decide_eq_true hb
  have h := convert_eq_ok.2 ⟨p, s, hprepare, rfl⟩
  obtain ⟨p', s', hprepare', -, htold, -⟩ := convert_tells_losses h hx
  obtain ⟨rfl, rfl⟩ := prepare_unique hprepare hprepare'
  have hfield := htold .table .node hd _ (ho ▸ List.mem_singleton_self _) _
    (List.mem_singleton_self _)
  obtain ⟨-, w, hw, hkind, -, -, hmessage⟩ :=
    hfield.own (fun t ht => by rw [htypes] at ht; cases ht) b hresolve hlossy
  rw [hwarnings] at hmessage
  exact ⟨_, h, hx, w, hw, hkind, hmessage⟩

/-- The same number in a composite becomes the same float in a column, and no warning is about a
loss or about a custom type. -/
theorem shop_loses_silently :
    ∃ c t b, Shop.graphEngine.convert (Shop.graphRequest ⟨"amount", "numeric(10,2)"⟩) = .ok c ∧
      c.report.mode.executes = true ∧ c.schema = some t ∧
      Shop.graphEngine.resolveType "postgresql" "neo4j" "numeric(10,2)" = .ok b ∧
      b.lossy = true ∧
      (t.objects .node).map SchemaObject.fields =
        [[{ name := "total_amount", dataType := b.converted }]] ∧
      ∀ w ∈ c.findings.warnings, w.kind ≠ .lossyConversion ∧ w.kind ≠ .customType := by
  have htest : (Shop.graphEngine.resolveType "postgresql" "neo4j" "numeric(10,2)").toOption.any
      (fun b => (Shop.graphEngine.convert
        (Shop.graphRequest ⟨"amount", "numeric(10,2)"⟩)).toOption.any fun c =>
          decide ((b.lossy = true ∧ b.converted = "float") ∧ c.report.mode.executes = true ∧
            c.schema.map (fun t => (t.objects .node).map SchemaObject.fields) =
              some [[{ name := "total_amount", dataType := "float" }]] ∧
            ∀ w ∈ c.findings.warnings, w.kind ≠ .lossyConversion ∧ w.kind ≠ .customType)) =
      true := by decide +kernel
  obtain ⟨b, hb, htest⟩ := exists_ok htest
  obtain ⟨c, h, hfacts⟩ := exists_ok htest
  obtain ⟨⟨hlossy, hfloat⟩, hx, hschema, hsilent⟩ := of_decide_eq_true hfacts
  obtain ⟨t, ht, hfields⟩ := Option.map_eq_some_iff.1 hschema
  rw [← hfloat] at hfields
  exact ⟨c, t, b, h, hx, ht, hb, hlossy, hfields, hsilent⟩

end ConversionEngine

end SchemaConversion
