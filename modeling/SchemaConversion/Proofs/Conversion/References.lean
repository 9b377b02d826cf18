import SchemaConversion.Proofs.Conversion.Warnings

/-!
# References to lookup tables

Where the values of an enumeration are moved to a lookup table, the fields that have the
enumeration get a property that names the table. The properties are made along with the fields and
the tables along with the catalog, and what they agree on is the name alone:

> `references_find?`: a property names the table of the enumeration that the field has.

The tables go to the first container of the target that can hold fields. So every property names an
object of the converted schema if there is such a container:

> `closesReferences`: and the object is the table that lists the values.

A target that has no such container gets no tables, but the properties nevertheless:

> `convert_closes_references_iff`: then nothing answers to a property but an object that happens to
> have the name of the table, and a warning says that the table is missing.

> `shop_reference_dangles`: a reference to a table that is nowhere.
-/

namespace SchemaConversion

/-- Some container of the schema holds an object of this name. -/
def Schema.Holds (t : Schema) (name : String) : Prop := ∃ d, ∃ o ∈ t.objects d, o.name = name

/-- The property of an object under which one of its fields refers to a lookup table. -/
def Field.referenceKey (f : Field) : String := f.name ++ ".references"

/-- The lookup table of an enumeration, with keys of some type. -/
def lookupTable (enumeration keyType : String) (values : List String) : SchemaObject where
  name := Identifier.derived enumeration "values"
  fields := [{ name := "value", dataType := keyType, nullable := false }]
  properties := .ofList [("values", ",".intercalate values)]

/-- Supplements make a field refer to the tables that they bring, and to nothing else. -/
theorem Field.mem_references {f : Field} {c : CustomConversion} {reference : String × String} :
    reference ∈ (f.follow c).references ↔
      ∃ table ∈ c.tables, reference = (f.referenceKey, table.name) := by
  unfold Field.follow CustomConversion.tables
  simp only [List.mem_filterMap]
  constructor
  · rintro ⟨supplement, hmem, hreference⟩
    cases supplement with
    | lookupTable name keyType values =>
      exact ⟨_, ⟨_, hmem, rfl⟩, (Option.some.inj hreference).symm⟩
    | column spec => cases hreference
    | constraint name expression => cases hreference
  · rintro ⟨table, ⟨supplement, hmem, htable⟩, rfl⟩
    refine ⟨supplement, hmem, ?_⟩
    cases supplement with
    | lookupTable name keyType values =>
      cases htable
      rfl
    | column spec => cases htable
    | constraint name expression => cases htable

/-- The values of an enumeration are moved to a table with keys that are long enough. -/
theorem CustomConverter.asLookupTable_eq_ok {c : CustomConverter} {t : CustomType} {r : Rendition}
    (h : c.asLookupTable t = .ok r) :
    ∃ values keyType, t.definition = .enum values ∧ values ≠ [] ∧
      c.stringColumn (longest? values) = .ok keyType ∧
      r.supplements = [.lookupTable (Identifier.derived t.name "values") keyType values] := by
  unfold asLookupTable at h
  split at h
  · next values hdefinition =>
    split at h
    · cases h
    · next hne =>
      obtain ⟨keyType, hkey, ⟨⟩⟩ := bind_eq_ok.1 h
      exact ⟨values, keyType, hdefinition, fun hnil => hne (by rw [hnil]; rfl), hkey, rfl⟩
  · cases h

/-- A strategy that brings a table moves the values of an enumeration there. -/
theorem CustomConverter.rendition_table {c : CustomConverter} {inner : CustomConverter.Nested}
    {t : CustomType} {strategy : CustomStrategy} {r : Rendition} {table : SchemaObject}
    (h : c.rendition inner strategy t = .ok r)
    (htable : table ∈ r.supplements.filterMap Supplement.table?) :
    ∃ keyType values, t.definition = .enum values ∧ table = lookupTable t.name keyType values := by
  obtain ⟨supplement, hmem, hsupplement⟩ := List.mem_filterMap.1 htable
  cases rendition_renders h with
  | columns =>
    obtain ⟨_, -, rfl⟩ := List.mem_map.1 hmem
    cases hsupplement
  | base =>
    obtain ⟨_, _, rfl⟩ := domainConstraints_constraint hmem
    cases hsupplement
  | single _ _ _ hsupplements =>
    obtain ⟨_, _, rfl⟩ := hsupplements _ hmem
    cases hsupplement
  | table keyType values warnings =>
    -- the strategy itself tells whose values these are
    change c.asLookupTable t = .ok _ at h
    obtain ⟨values, keyType, hdefinition, -, -, hsupplements⟩ := asLookupTable_eq_ok h
    change [_] = [_] at hsupplements
    rw [hsupplements, List.mem_singleton] at hmem
    rw [hmem] at hsupplement
    exact ⟨keyType, values, hdefinition, (Option.some.inj hsupplement).symm⟩

namespace Plan

variable {p : Plan} {s t : Schema} {f : Field} {u : CustomType} {k d : ContainerKind}
  {o table : SchemaObject} {key name : String}

/-! ## What is referred to -/

/-- The tables of a type that is converted hold the values of an enumeration. -/
theorem mem_tablesOf (h : table ∈ p.tablesOf u) :
    ∃ keyType values, u.definition = .enum values ∧ table = lookupTable u.name keyType values := by
  obtain ⟨c, hfate, htable⟩ := mem_tablesOf_iff.1 h
  obtain ⟨-, hresolve⟩ := convertType_converted hfate
  obtain ⟨left, -, hwith⟩ := CustomConverter.resolve_eq_ok hresolve
  obtain ⟨r, more, hr, heq, -⟩ := CustomConverter.resolveWith_rendition hwith
  change table ∈ c.rendition.supplements.filterMap Supplement.table? at htable
  rw [heq] at htable
  exact CustomConverter.rendition_table hr htable

/-- What an object of a container refers to, by the properties that say so. -/
def references (p : Plan) (s : Schema) (k : ContainerKind) (o : SchemaObject) : Dictionary String :=
  .ofList (o.fields.flatMap fun f =>
    (p.convertField (p.fates s) k.objectType o.name f).references)

/-- The properties of a converted object are those that it has and its references. -/
theorem converted_properties (p : Plan) (s : Schema) (k : ContainerKind) (o : SchemaObject)
    (key : String) :
    (p.converted (p.fates s) k o).properties.find? key =
      ((p.references s k o).find? key).or (o.properties.find? key) := by
  show (((o.fields.map (p.convertField (p.fates s) k.objectType o.name)).flatMap
    FieldConversion.references).foldl _ o.properties).find? key = _
  rw [List.flatMap_map, Dictionary.find?_foldl_insert_or]
  rfl

/-- A field refers to the tables of the enumeration that it has. -/
theorem mem_field_references (hs : s.validate = .ok ()) (k : ObjectType) (objectName : String)
    {reference : String × String} :
    reference ∈ (p.convertField (p.fates s) k objectName f).references ↔
      ∃ u ∈ s.types, f.Names u ∧ ∃ table ∈ p.tablesOf u,
        reference = (f.referenceKey, table.name) := by
  constructor
  · intro h
    rcases convertField_cases hs k objectName with
      ⟨c, ⟨u, hu, hnames, hfate⟩, heq⟩ | ⟨u, -, -, reason, -, heq⟩ | ⟨-, heq⟩
    · rw [heq, Field.mem_references] at h
      obtain ⟨table, htable, hreference⟩ := h
      exact ⟨u, hu, hnames, table, mem_tablesOf_iff.2 ⟨c, hfate, htable⟩, hreference⟩
    · rw [heq] at h
      cases h
    · rw [heq] at h
      rcases convertPrimitive_cases p k objectName f with ⟨b, -, hfields⟩ | ⟨error, -, hfields⟩
      · rw [hfields] at h
        cases h
      · rw [hfields] at h
        cases h
  · rintro ⟨u, hu, hnames, table, htable, rfl⟩
    obtain ⟨c, hfate, hmem⟩ := mem_tablesOf_iff.1 htable
    have hfollows : p.Follows s f c := ⟨u, hu, hnames, hfate⟩
    rw [hfollows.convertField hs, Field.mem_references]
    exact ⟨table, hmem, rfl⟩

/-- **What a property refers to**: the table of the enumeration that the field has. -/
theorem references_find? (hs : s.validate = .ok ())
    (h : (p.references s k o).find? key = some name) :
    ∃ f ∈ o.fields, key = f.referenceKey ∧ ∃ u ∈ s.types, f.Names u ∧
      ∃ table ∈ p.tablesOf u, name = table.name := by
  obtain ⟨f, hf, hmem⟩ := List.mem_flatMap.1 (Dictionary.mem_of_find?_ofList h)
  obtain ⟨u, hu, hnames, table, htable, heq⟩ := (mem_field_references hs _ _).1 hmem
  obtain ⟨rfl, rfl⟩ := Prod.mk.inj heq
  exact ⟨f, hf, rfl, u, hu, hnames, table, htable, rfl⟩

/-- Each field with an enumeration whose values are moved has such a property. -/
theorem references_isSome (hs : s.validate = .ok ()) (hf : f ∈ o.fields) (hu : u ∈ s.types)
    (hnames : f.Names u) (htable : table ∈ p.tablesOf u) :
    ((p.references s k o).find? f.referenceKey).isSome = true := by
  have hmem := (mem_field_references hs k.objectType o.name).2 ⟨u, hu, hnames, table, htable, rfl⟩
  have hentry : (f.referenceKey, table.name) ∈ o.fields.flatMap fun f =>
      (p.convertField (p.fates s) k.objectType o.name f).references :=
    List.mem_flatMap.2 ⟨f, hf, hmem⟩
  exact Dictionary.find?_ofList_isSome hentry

/-- The conversion of an object refers to lookup tables for its fields: besides the properties of
the object it has one for each field with an enumeration whose values are moved, under a key that is
made of the name of such a field, and the property names the table that lists the values. -/
structure Refers (p : Plan) (s : Schema) (k : ContainerKind) (o conversion : SchemaObject) :
    Prop where
  name_eq : conversion.name = o.name
  properties_eq : ∀ key, conversion.properties.find? key =
    ((p.references s k o).find? key).or (o.properties.find? key)
  named : ∀ key name, (p.references s k o).find? key = some name →
    ∃ f ∈ o.fields, key = f.referenceKey ∧ ∃ u ∈ s.types, f.Names u ∧
      ∃ keyType values, u.definition = .enum values ∧
        lookupTable u.name keyType values ∈ p.tablesOf u ∧
        name = (lookupTable u.name keyType values).name
  complete : ∀ f ∈ o.fields, ∀ u ∈ s.types, f.Names u → p.tablesOf u ≠ [] →
    ((p.references s k o).find? f.referenceKey).isSome = true

/-- The properties of a converted object refer to the tables of the types that its fields have. -/
theorem converted_refers (hs : s.validate = .ok ()) (k : ContainerKind) (o : SchemaObject) :
    p.Refers s k o (p.converted (p.fates s) k o) where
  name_eq := converted_name o
  properties_eq := p.converted_properties s k o
  named key name h := by
    obtain ⟨f, hf, hkey, u, hu, hnames, table, htable, hname⟩ := references_find? hs h
    obtain ⟨keyType, values, hdefinition, rfl⟩ := mem_tablesOf htable
    exact ⟨f, hf, hkey, u, hu, hnames, keyType, values, hdefinition, htable, hname⟩
  complete f hf u hu hnames hne := by
    obtain ⟨table, htable⟩ := List.exists_mem_of_ne_nil _ hne
    exact references_isSome hs hf hu hnames htable

/-! ## Whether it is there -/

/-- A reference from an object that goes somewhere. -/
def MakesReference (p : Plan) (s : Schema) (name : String) : Prop :=
  ∃ k, (p.destination? k).isSome = true ∧ ∃ o ∈ p.chosen (s.objects k), ∃ key,
    (p.references s k o).find? key = some name

/-- Every reference names an object of the converted schema. -/
def ClosesReferences (p : Plan) (s t : Schema) : Prop :=
  ∀ name, p.MakesReference s name → t.Holds name

/-- An object of this name goes somewhere. -/
def Moves (p : Plan) (s : Schema) (name : String) : Prop :=
  ∃ k, (p.destination? k).isSome = true ∧ ∃ o ∈ p.chosen (s.objects k), o.name = name

/-- What a reference names is a table that goes with a type. -/
theorem MakesReference.exists_table (hs : s.validate = .ok ()) (h : p.MakesReference s name) :
    ∃ u ∈ s.types, ∃ table ∈ p.tablesOf u, table.name = name := by
  obtain ⟨k, -, o, -, key, hfind⟩ := h
  obtain ⟨-, -, -, u, hu, -, table, htable, hname⟩ := references_find? hs hfind
  exact ⟨u, hu, table, htable, hname.symm⟩

/-- **With a container for the tables every reference is closed**: the table is there. -/
theorem closesReferences (hs : s.validate = .ok ()) (h : (p.execute s).schema = some t)
    (hd : p.tableContainer? = some d) : p.ClosesReferences s t := by
  intro name hname
  obtain ⟨u, hu, table, htable, hnamed⟩ := hname.exists_table hs
  refine ⟨d, table, ?_, hnamed⟩
  rw [execute_objects h]
  refine List.mem_append_left _ ?_
  unfold tablesIn
  rw [if_pos hd]
  exact List.mem_flatMap.2 ⟨u, hu, htable⟩

/-- Without one the converted schema holds nothing but the objects that go somewhere. -/
theorem holds_iff_moves (h : (p.execute s).schema = some t) (hnone : p.tableContainer? = none) :
    t.Holds name ↔ p.Moves s name := by
  have hobjects (d : ContainerKind) : t.objects d = ContainerKind.all.flatMap (p.arrivals s d) := by
    rw [execute_objects h]
    unfold tablesIn
    rw [if_neg (by rw [hnone]; exact Option.some_ne_none d ∘ Eq.symm), List.nil_append]
  constructor
  · rintro ⟨d, o', ho', hname⟩
    rw [hobjects] at ho'
    obtain ⟨k, -, harrives⟩ := List.mem_flatMap.1 ho'
    unfold arrivals at harrives
    split at harrives
    · next hd =>
      obtain ⟨o, ho, rfl⟩ := List.mem_map.1 harrives
      exact ⟨k, by rw [hd]; rfl, o, ho, hname⟩
    · cases harrives
  · rintro ⟨k, hk, o, ho, hname⟩
    obtain ⟨d, hd⟩ := Option.isSome_iff_exists.1 hk
    refine ⟨d, p.converted (p.fates s) k o, ?_, hname⟩
    rw [hobjects]
    refine List.mem_flatMap.2 ⟨k, k.mem_all, ?_⟩
    unfold arrivals
    rw [if_pos hd]
    exact List.mem_map_of_mem ho

/-- **When references are closed.** There is a container for the tables, or objects that go
somewhere happen to have their names. -/
theorem closesReferences_iff (hs : s.validate = .ok ()) (h : (p.execute s).schema = some t) :
    p.ClosesReferences s t ↔ p.tableContainer?.isSome = true ∨
      ∀ name, p.MakesReference s name → p.Moves s name := by
  cases hd : p.tableContainer? with
  | some d => exact ⟨fun _ => .inl rfl, fun _ => closesReferences hs h hd⟩
  | none =>
    unfold ClosesReferences
    simp only [holds_iff_moves h hd, Option.isSome_none, Bool.false_eq_true, false_or]

/-- Without a container for it a table that comes with a type is reported as missing. -/
theorem convertType_tells_missing (hnone : p.tableContainer? = none)
    (htable : table ∈ p.tablesOf u) :
    ∃ w ∈ (p.convertType u).findings.warnings, p.TellsMissing table.name w := by
  obtain ⟨c, hfate, hmem⟩ := mem_tablesOf_iff.1 htable
  have htold : ∃ w ∈ (p.conversionFindings u c).warnings, p.TellsMissing table.name w := by
    unfold conversionFindings
    dsimp only
    rw [hnone]
    simp only [Option.isSome_none, Bool.false_eq_true, if_false]
    exact ⟨_, List.mem_append_right _ (List.mem_map_of_mem hmem), rfl, rfl, rfl⟩
  obtain ⟨w, hw, hmissing⟩ := htold
  exact ⟨w, mem_warnings_of_conversion hfate hw, hmissing⟩

/-- Without a container each table that is referred to is reported as missing. -/
theorem MakesReference.told (hs : s.validate = .ok ()) (hnone : p.tableContainer? = none)
    (h : p.MakesReference s name) :
    ∃ w ∈ (p.execute s).findings.warnings, p.TellsMissing name w := by
  obtain ⟨u, hu, table, htable, rfl⟩ := h.exists_table hs
  obtain ⟨w, hw, htold⟩ := convertType_tells_missing hnone htable
  exact ⟨w, mem_warnings_of_type hu hw, htold⟩

end Plan

/-! ## Requests -/

namespace Shop

/-- An engine for tables and for keys with values, which have no fields. -/
def keyEngine : ConversionEngine where
  registry := (Registry.empty.withDatabase Databases.postgresql).withDatabase Databases.redis

/-- A conversion of the shop to keys with values. -/
def keyRequest : ConversionRequest := { request with target := "redis", mode := some .automatic }

end Shop

namespace ConversionEngine

variable {e : ConversionEngine} {r : ConversionRequest} {c : CompletedConversion}

/-- **References to lookup tables.** The properties that a conversion adds to an object name the
tables with the values of the enumerations that its fields have. All of them name objects of the
converted schema exactly if the target has a container for the tables or objects that go somewhere
happen to have their names. Where it has none, each table that is named is reported as missing. -/
theorem convert_closes_references_iff (h : e.convert r = .ok c)
    (hx : c.report.mode.executes = true) :
    ∃ p s t, e.prepare r = .ok (p, s) ∧ r.schema = some s ∧ c.schema = some t ∧
      (∀ d, t.objects d = p.tablesIn s d ++ ContainerKind.all.flatMap (p.arrivals s d)) ∧
      (∀ d k, p.destination? k = some d →
        List.Forall₂ (p.Refers s k) (p.chosen (s.objects k)) (p.arrivals s d k)) ∧
      (p.ClosesReferences s t ↔ p.tableContainer?.isSome = true ∨
        ∀ name, p.MakesReference s name → p.Moves s name) ∧
      (p.tableContainer? = none → ∀ name, p.MakesReference s name →
        ∃ w ∈ c.findings.warnings, p.TellsMissing name w) := by
  obtain ⟨p, s, hprepare, rfl⟩ := convert_eq_ok.1 h
  obtain ⟨hschema, hvalid⟩ := prepare_schema hprepare
  obtain ⟨t, ht⟩ : ∃ t, (p.execute s).schema = some t := ⟨_, rfl⟩
  rw [carryOut_executing hx]
  exact ⟨p, s, t, hprepare, hschema, ht, p.execute_objects ht,
    fun d k hd => Plan.arrivals_forall₂ hd fun o _ => Plan.converted_refers hvalid k o,
    Plan.closesReferences_iff hvalid ht, fun hnone name hname => hname.told hvalid hnone⟩

/-- The reference of the orders to the values of their status is closed among documents. -/
theorem shop_references_closed :
    ∃ c p s t, Shop.engine.convert Shop.request = .ok c ∧ c.report.mode.executes = true ∧
      Shop.engine.prepare Shop.request = .ok (p, s) ∧ c.schema = some t ∧
      p.MakesReference s "status_values" ∧ p.ClosesReferences s t := by
  have htest : (Shop.engine.prepare Shop.request).toOption.any (fun x =>
      decide (x.1.mode.executes = true ∧ x.1.tableContainer?.isSome = true ∧
        (x.1.destination? .table).isSome = true) &&
        (x.1.chosen (x.2.objects .table)).any fun o =>
          decide ((x.1.references x.2 .table o).find? "status.references" =
            some "status_values")) = true := by decide +kernel
  obtain ⟨⟨p, s⟩, hprepare, hfacts⟩ := exists_ok htest
  obtain ⟨hplan, hreference⟩ := Bool.and_eq_true_iff.1 hfacts
  obtain ⟨hx, hcontainer, hgoes⟩ := of_decide_eq_true hplan
  obtain ⟨o, ho, hfind⟩ := List.any_eq_true.1 hreference
  have h := convert_eq_ok.2 ⟨p, s, hprepare, rfl⟩
  obtain ⟨p', s', t, hprepare', -, ht, -, -, hcloses, -⟩ := convert_closes_references_iff h hx
  obtain ⟨rfl, rfl⟩ := prepare_unique hprepare hprepare'
  exact ⟨_, p, s, t, h, hx, hprepare, ht,
    ⟨.table, hgoes, o, ho, _, of_decide_eq_true hfind⟩, hcloses.2 (.inl hcontainer)⟩

/-- Where there are only keys with values, the same property names nothing. -/
theorem shop_reference_dangles :
    ∃ c t o, Shop.keyEngine.convert Shop.keyRequest = .ok c ∧ c.report.mode.executes = true ∧
      c.schema = some t ∧ t.objects .keyspace = [o] ∧
      o.properties.find? "status.references" = some "status_values" ∧
      (∀ k, ∀ o ∈ Shop.schema.objects k, o.properties = .empty) ∧ ¬t.Holds "status_values" := by
  have htest : (Shop.keyEngine.convert Shop.keyRequest).toOption.any (fun c =>
      c.schema.any fun t => decide (c.report.mode.executes = true ∧
        (t.objects .keyspace).map (fun o => o.properties.find? "status.references") =
          [some "status_values"] ∧
        ∀ d ∈ ContainerKind.all, ∀ o ∈ t.objects d, o.name ≠ "status_values")) = true := by
    decide +kernel
  obtain ⟨c, h, hc⟩ := exists_ok htest
  obtain ⟨t, ht, hfacts⟩ := (Option.any_eq_true _ _).1 hc
  obtain ⟨hx, hkeys, hnames⟩ := of_decide_eq_true hfacts
  obtain ⟨o, hobjects, hfind⟩ := List.map_eq_singleton_iff.1 hkeys
  refine ⟨c, t, o, h, hx, ht, hobjects, hfind, ?_, ?_⟩
  · have hplain : ∀ k ∈ ContainerKind.all, ∀ o ∈ Shop.schema.objects k, o.properties = .empty := by
      decide +kernel
    exact fun k => hplain k k.mem_all
  · rintro ⟨d, o, ho, hname⟩
    exact hnames d d.mem_all o ho hname

end ConversionEngine

end SchemaConversion
