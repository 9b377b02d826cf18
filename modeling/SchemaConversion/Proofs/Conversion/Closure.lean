import SchemaConversion.Proofs.Conversion.Fields

/-!
# When a converted schema is valid

A converted schema takes its names from the source, which is valid, but for two kinds of derived
names. Those of lookup tables are always usable. Those of columns are usable only if the suffix
attaches, and a suffix is made of the names of the fields of composites, of which nothing is asked
but that they show something:

> `convert_closed_iff`: the converted schema is valid exactly if the suffixes of all columns attach
> that stand for a field somewhere.

> `convert_closed_of_short`: this is so if the names of the fields of all composites are short
> enough for the number of levels.

> `shop_not_closed`: a field with a name of 128 bytes leads to an invalid schema.
-/

namespace SchemaConversion

namespace Plan

variable {p : Plan} {s t : Schema} {f : Field} {k d : ContainerKind} {o : SchemaObject}

/-! ## Names that are always usable -/

/-- The names in a lookup table are usable. -/
theorem nameFault?_of_table (hs : s.validate = .ok ()) {table : SchemaObject}
    (h : table ∈ s.types.flatMap p.tablesOf) : Schema.nameFault? table = none := by
  obtain ⟨t, ht, htable⟩ := List.mem_flatMap.1 h
  obtain ⟨c, hfate, htable⟩ := mem_tablesOf_iff.1 htable
  obtain ⟨supplement, hsupplement, hobject⟩ := List.mem_filterMap.1 htable
  have hname := t.name_usable ((Schema.validate_eq_ok.1 hs).2.1 t ht)
  cases supplement with
  | column => cases hobject
  | constraint => cases hobject
  | lookupTable name keyType values =>
    cases hobject
    obtain rfl := CustomConverter.resolve_table (convertType_converted hfate).2 hsupplement
    rw [Schema.nameFault?_eq_none]
    refine ⟨(Identifier.fault?_derived hname).2 (by decide), fun f hf => ?_⟩
    have hvalue : Identifier.fault? "value" = none := by decide +kernel
    rw [List.mem_singleton.1 hf]
    exact hvalue

/-- The types that stay in the catalog are those of the source or fewer of them. -/
theorem execute_types_sublist (h : (p.execute s).schema = some t) : t.types.Sublist s.types := by
  cases h
  show (((p.convertTypes s.types).filter TypeResult.isKept).map TypeResult.type).Sublist s.types
  have hall : (p.convertTypes s.types).map TypeResult.type = s.types := by
    unfold convertTypes
    rw [List.map_map]
    exact List.map_id'' (fun t => p.convertType_type t) s.types
  conv_rhs => rw [← hall]
  exact List.filter_sublist.map _

/-! ## Columns -/

/-- A column of a flattened composite stands for a field. -/
def HasColumn (p : Plan) (s : Schema) (f : Field) (spec : ColumnSpec) : Prop :=
  ∃ c, p.Follows s f c ∧ .column spec ∈ c.rendition.supplements

/-- What may stand in the place of a field has its name or is a column of it. -/
theorem Keeps.name_or_column {part : List Field} (h : p.Keeps s f part) {g : Field}
    (hg : g ∈ part) : g.name = f.name ∨ ∃ spec, p.HasColumn s f spec ∧ g = f.column spec := by
  cases h with
  | retyped =>
    rw [List.mem_singleton.1 hg]
    exact .inl rfl
  | columns hfollows _ hsupplements _ =>
    obtain ⟨spec, hspec, rfl⟩ := List.mem_map.1 hg
    refine .inr ⟨spec, ⟨_, hfollows, ?_⟩, rfl⟩
    rw [hsupplements]
    exact List.mem_map_of_mem hspec

/-- The columns of a field stand in its place. -/
theorem HasColumn.mem_fields (hs : s.validate = .ok ()) {spec : ColumnSpec}
    (h : p.HasColumn s f spec) (k : ObjectType) (name : String) :
    f.column spec ∈ (p.convertField (p.fates s) k name f).fields := by
  obtain ⟨c, hfollows, hspec⟩ := h
  obtain ⟨t, -, -, -, hresolve⟩ := follows_resolve hfollows
  have hflat := CustomConverter.strategy_of_column hresolve hspec
  obtain ⟨hnone, specs, -, hsupplements⟩ := CustomConverter.resolve_flatten hresolve hflat
  rw [hfollows.convertField hs]
  show f.column spec ∈ f.renderedBy c.rendition
  rw [Field.renderedBy_none hnone hsupplements]
  rw [hsupplements] at hspec
  obtain ⟨_, hmem, ⟨⟩⟩ := List.mem_map.1 hspec
  exact List.mem_map_of_mem hmem

/-- **The conversion of an object with usable names** has usable names if the suffixes of the
columns for its fields attach. -/
theorem nameFault?_converted (hs : s.validate = .ok ()) (ho : Schema.nameFault? o = none) :
    Schema.nameFault? (p.converted (p.fates s) k o) = none ↔
      ∀ f ∈ o.fields, ∀ spec, p.HasColumn s f spec → Identifier.Attaches spec.suffix := by
  obtain ⟨hname, hfields⟩ := Schema.nameFault?_eq_none.1 ho
  rw [Schema.nameFault?_eq_none, converted_name, convertObject_parts]
  constructor
  · rintro ⟨-, husable⟩ f hf spec hspec
    have hmem := hspec.mem_fields hs k.objectType o.name
    have hcolumn : Identifier.fault? (f.column spec).name = none :=
      husable _ (List.mem_flatten_of_mem (List.mem_map_of_mem hf) hmem)
    exact (Identifier.fault?_derived (hfields f hf)).1 hcolumn
  · intro hattach
    refine ⟨hname, fun g hg => ?_⟩
    obtain ⟨part, hpart, hg⟩ := List.mem_flatten.1 hg
    obtain ⟨f, hf, rfl⟩ := List.mem_map.1 hpart
    have hkeeps := (convertField_conserves hs fun w hw => hw :
      p.Conserves s k.objectType o.name _ f _).keeps
    rcases hkeeps.name_or_column hg with hsame | ⟨spec, hspec, rfl⟩
    · rw [hsame]
      exact hfields f hf
    · have hcolumn := (Identifier.fault?_derived (hfields f hf)).2 (hattach f hf spec hspec)
      exact hcolumn

/-! ## The whole schema -/

/-- A column stands for a field of an object that is converted. -/
def UsesColumn (p : Plan) (s : Schema) (spec : ColumnSpec) : Prop :=
  ∃ k d, p.destination? k = some d ∧ ∃ o ∈ p.chosen (s.objects k), ∃ f ∈ o.fields,
    p.HasColumn s f spec

/-- **A converted schema is valid if the suffixes of its columns attach.** -/
theorem execute_valid_iff (hs : s.validate = .ok ()) (ht : (p.execute s).schema = some t) :
    t.validate = .ok () ↔ ∀ spec, p.UsesColumn s spec → Identifier.Attaches spec.suffix := by
  obtain ⟨hobjects, htypes, hkeys⟩ := Schema.validate_eq_ok.1 hs
  have hsource {k : ContainerKind} {o : SchemaObject} (ho : o ∈ p.chosen (s.objects k)) :
      Schema.nameFault? o = none := hobjects k o (List.mem_of_mem_filter ho)
  rw [Schema.validate_eq_ok]
  constructor
  · rintro ⟨husable, -⟩ spec ⟨k, d, hd, o, ho, f, hf, hspec⟩
    have harrival : p.converted (p.fates s) k o ∈ t.objects d := by
      rw [execute_objects ht]
      refine List.mem_append_right _ (List.mem_flatMap.2 ⟨k, k.mem_all, ?_⟩)
      unfold arrivals
      rw [if_pos hd]
      exact List.mem_map_of_mem ho
    exact (nameFault?_converted hs (hsource ho)).1 (husable d _ harrival) f hf spec hspec
  · intro hattach
    have hsublist := p.execute_types_sublist ht
    refine ⟨fun d o' ho' => ?_, fun u hu => htypes u (hsublist.subset hu),
      hkeys.sublist (hsublist.map _)⟩
    -- an object of the target is a lookup table or has arrived from a container
    rw [execute_objects ht] at ho'
    rcases List.mem_append.1 ho' with htable | harrival
    · unfold tablesIn at htable
      split at htable
      · exact nameFault?_of_table hs htable
      · cases htable
    · obtain ⟨k, -, harrival⟩ := List.mem_flatMap.1 harrival
      unfold arrivals at harrival
      split at harrival
      · next hd =>
        obtain ⟨o, ho, rfl⟩ := List.mem_map.1 harrival
        exact (nameFault?_converted hs (hsource ho)).2 fun f hf spec hspec =>
          hattach spec ⟨k, d, hd, o, ho, f, hf, hspec⟩
      · cases harrival

/-- The columns of composites whose fields have short names attach. -/
theorem HasColumn.attaches {spec : ColumnSpec} {bytes : Nat} (h : p.HasColumn s f spec)
    (hcatalog : p.custom.catalog = s.types) (hshort : ∀ t ∈ s.types, t.HasShortFields bytes)
    (hlevels : p.custom.levels * (bytes + 1) ≤ Identifier.maxBytes) :
    Identifier.Attaches spec.suffix := by
  obtain ⟨c, hfollows, hspec⟩ := h
  obtain ⟨t, ht, -, -, hresolve⟩ := follows_resolve hfollows
  have hflat := CustomConverter.strategy_of_column hresolve hspec
  obtain ⟨-, fields, specs, hdefinition, hspecs, hsupplements⟩ :=
    CustomConverter.resolve_columns hresolve hflat
  rw [hsupplements] at hspec
  obtain ⟨_, hmem, ⟨⟩⟩ := List.mem_map.1 hspec
  rw [← hcatalog] at hshort
  obtain ⟨hnull, hsize⟩ := CustomConverter.columnsAt_short hshort
    (hshort t (hcatalog ▸ ht) fields hdefinition) hspecs hmem
  exact ⟨hnull, hsize.trans_le hlevels⟩

end Plan

/-! ## Requests -/

namespace Shop

/-- An amount whose name is as long as a name may be. -/
def longAmount : CompositeField := ⟨String.ofList (List.replicate 128 'a'), "integer"⟩

theorem converts_longAmount :
    ∃ c t, graphEngine.convert (graphRequest longAmount) = .ok c ∧ c.schema = some t ∧
      t.validate ≠ .ok () := by
  have htest : (graphEngine.convert (graphRequest longAmount)).toOption.any (fun c =>
      (c.schema.bind Schema.error?).isSome) = true := by decide +kernel
  obtain ⟨c, h, hc⟩ := exists_ok htest
  obtain ⟨error, herror⟩ := Option.isSome_iff_exists.1 hc
  obtain ⟨t, ht, herror⟩ := Option.bind_eq_some_iff.1 herror
  refine ⟨c, t, h, ht, ?_⟩
  unfold Schema.validate
  rw [herror]
  exact nofun

end Shop

namespace ConversionEngine

variable {e : ConversionEngine} {r : ConversionRequest} {c : CompletedConversion} {t : Schema}

/-- A conversion with a schema is that of a plan that was carried out. -/
theorem executes_of_schema (h : e.convert r = .ok c) (ht : c.schema = some t) :
    ∃ p s, e.prepare r = .ok (p, s) ∧ (p.execute s).schema = some t := by
  obtain ⟨p, s, hprepare, rfl⟩ := convert_eq_ok.1 h
  refine ⟨p, s, hprepare, ?_⟩
  cases hm : p.mode.executes with
  | true =>
    rw [carryOut_executing hm] at ht
    exact ht
  | false =>
    rw [carryOut_analysing hm] at ht
    cases ht

/-- **When a converted schema is valid.** The schema that a request leads to is valid exactly if
the suffix attaches of every column that stands for a field of a converted object. All else in it
is usable, since the source is valid. -/
theorem convert_closed_iff (h : e.convert r = .ok c) (ht : c.schema = some t) :
    ∃ p s, e.prepare r = .ok (p, s) ∧ r.schema = some s ∧
      (t.validate = .ok () ↔ ∀ spec, p.UsesColumn s spec → Identifier.Attaches spec.suffix) := by
  obtain ⟨p, s, hprepare, hschema⟩ := executes_of_schema h ht
  obtain ⟨hsource, hvalid⟩ := prepare_schema hprepare
  exact ⟨p, s, hprepare, hsource, p.execute_valid_iff hvalid hschema⟩

/-- In the shop there is a column whose suffix does not attach. -/
theorem shop_closed_iff :
    ∃ c t p s, Shop.graphEngine.convert (Shop.graphRequest Shop.longAmount) = .ok c ∧
      c.schema = some t ∧
      Shop.graphEngine.prepare (Shop.graphRequest Shop.longAmount) = .ok (p, s) ∧
      ∃ spec, p.UsesColumn s spec ∧ ¬Identifier.Attaches spec.suffix := by
  obtain ⟨c, t, h, ht, hinvalid⟩ := Shop.converts_longAmount
  obtain ⟨p, s, hprepare, -, hiff⟩ := convert_closed_iff h ht
  rw [Ne, hiff] at hinvalid
  push Not at hinvalid
  exact ⟨c, t, p, s, h, ht, hprepare, hinvalid⟩

/-- A composite may have a field with a usable name for which the column is not usable, so that the
converted schema is not valid. -/
theorem shop_not_closed :
    Identifier.fault? Shop.longAmount.name = none ∧
      ∃ c t, Shop.graphEngine.convert (Shop.graphRequest Shop.longAmount) = .ok c ∧
        c.schema = some t ∧ t.validate ≠ .ok () := by
  refine ⟨?_, Shop.converts_longAmount⟩
  decide +kernel

/-- **A converted schema is valid if the fields of composites have short names**, so short that
they fit one behind the other for as many levels as there are. -/
theorem convert_closed_of_short {bytes : Nat} {s : Schema} (h : e.convert r = .ok c)
    (ht : c.schema = some t) (hs : r.schema = some s)
    (hshort : ∀ u ∈ s.types, u.HasShortFields bytes)
    (hlevels : max 1 e.config.engine.maxCustomTypeDepth * (bytes + 1) ≤ Identifier.maxBytes) :
    t.validate = .ok () := by
  obtain ⟨p, s', hprepare, hschema⟩ := executes_of_schema h ht
  obtain ⟨hsource, hvalid⟩ := prepare_schema hprepare
  obtain rfl : s' = s := Option.some.inj (hsource.symm.trans hs)
  obtain ⟨-, m, -, -, -, _, _, _, -, -, -, rfl⟩ := prepare_eq_ok.1 hprepare
  rw [Plan.execute_valid_iff hvalid hschema]
  rintro spec ⟨k, d, -, o, -, f, -, hspec⟩
  exact hspec.attaches rfl hshort hlevels

end ConversionEngine

end SchemaConversion
