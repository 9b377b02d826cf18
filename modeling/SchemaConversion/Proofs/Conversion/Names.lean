import SchemaConversion.Proofs.Conversion.Fields
import SchemaConversion.Proofs.CustomType.Paths

/-!
# How the fields of a converted object are named

A field keeps its name, or it is flattened and its columns are named by the paths that begin with
it. So the names of the fields of a converted object are the paths of the object, joined:

> `converted_names`: there is one field for each path, in order, and it is named by the path.

> `paths_nodup`: if the fields of an object have different names, its paths are different.

Two paths may still be joined to the same name:

> `distinctNames_iff`: the fields of the converted object have different names exactly if no two
> paths are joined to the same name.

> `distinctNames_of_partClearly`: this is so if the paths fit and part clearly.

> `shop_names_clash`: in general it is not.
-/

namespace SchemaConversion

/-- The fields of an object have different names, up to the case of ASCII letters. -/
def SchemaObject.HasDistinctNames (o : SchemaObject) : Prop :=
  (o.fields.map fun f => Text.asciiLower f.name).Nodup

instance (o : SchemaObject) : Decidable o.HasDistinctNames :=
  inferInstanceAs (Decidable (List.Nodup _))

namespace Plan

variable {p : Plan} {s t : Schema} {f : Field} {k d : ContainerKind} {o : SchemaObject}

/-- The fields of the composite whose columns stand for a field, if it is flattened. -/
def flattened? (p : Plan) (s : Schema) (f : Field) : Option (List CompositeField) :=
  match s.fieldType? f.dataType with
  | none => none
  | some t =>
    match (p.convertType t).fate, t.definition with
    | .converted c, .composite fields => if c.strategy = .flatten then some fields else none
    | _, _ => none

/-- The paths that begin with a field: to the columns that stand for it, or the field alone. -/
def paths (p : Plan) (s : Schema) (f : Field) : List (List String) :=
  match p.flattened? s f with
  | some fields => (p.custom.columnPaths p.custom.levels fields).map (f.name :: ·)
  | none => [[f.name]]

/-- The paths of an object. -/
def objectPaths (p : Plan) (s : Schema) (o : SchemaObject) : List (List String) :=
  o.fields.flatMap (p.paths s)

/-! ## Names are paths -/

/-- What stands for a field that follows a conversion is named by the paths of the composite, if it
is flattened, or by the field. -/
theorem renderedBy_names {t : CustomType} {c : CustomConversion} (h : p.custom.resolve t = .ok c) :
    (c.strategy = .flatten ∧ ∃ fields, t.definition = .composite fields ∧
        (f.renderedBy c.rendition).map Field.name =
          ((p.custom.columnPaths p.custom.levels fields).map (f.name :: ·)).map
            Identifier.joined) ∨
      (c.strategy ≠ .flatten ∧ (f.renderedBy c.rendition).map Field.name = [f.name]) := by
  by_cases hflat : c.strategy = .flatten
  · obtain ⟨hnone, fields, specs, hdefinition, hspecs, hsupplements⟩ :=
      CustomConverter.resolve_columns h hflat
    have hsuffixes := CustomConverter.columnsAt_suffixes hspecs
    refine .inl ⟨hflat, fields, hdefinition, ?_⟩
    rw [Field.renderedBy_none hnone hsupplements, ← Identifier.joined_map_cons f.name
      CustomConverter.columnPaths_ne_nil hsuffixes, List.map_map, List.map_map]
    rfl
  · obtain ⟨⟨dataType, hsome⟩, -⟩ := CustomConverter.resolve_single h hflat
    refine .inr ⟨hflat, ?_⟩
    rw [Field.renderedBy_some hsome]
    rfl

/-- **What stands for a field is named by its paths.** -/
theorem convertField_names (p : Plan) (s : Schema) (k : ObjectType) (name : String) (f : Field) :
    (p.convertField (p.fates s) k name f).fields.map Field.name =
      (p.paths s f).map Identifier.joined := by
  rw [convertField_eq]
  unfold paths flattened?
  cases s.fieldType? f.dataType with
  | none =>
    dsimp only
    rcases convertPrimitive_cases p k name f with ⟨b, -, heq⟩ | ⟨error, -, heq⟩
    · rw [heq]
      rfl
    · rw [heq]
      rfl
  | some t =>
    dsimp only
    unfold convertAs
    cases hfate : (p.convertType t).fate with
    | skipped reason => rfl
    | dropped reason => rfl
    | converted c =>
      show (f.renderedBy c.rendition).map Field.name = _
      rcases renderedBy_names (f := f) (convertType_converted hfate).2 with
        ⟨hflat, fields, hdefinition, hnames⟩ | ⟨hflat, hnames⟩
      · rw [hnames, hdefinition]
        dsimp only
        rw [if_pos hflat]
      · rw [hnames]
        cases t.definition with
        | composite fields =>
          dsimp only
          rw [if_neg hflat]
          rfl
        | _ => rfl

/-- **The fields of a converted object are named by its paths.** -/
theorem converted_names (p : Plan) (s : Schema) (k : ContainerKind) (o : SchemaObject) :
    (p.converted (p.fates s) k o).fields.map Field.name =
      (p.objectPaths s o).map Identifier.joined := by
  unfold objectPaths
  rw [convertObject_parts, List.map_flatten, List.map_map, List.map_flatMap, List.flatMap_def]
  refine congrArg List.flatten (List.map_congr_left fun f _ => ?_)
  exact p.convertField_names s k.objectType o.name f

/-! ## Different paths -/

/-- Every path begins with the field. -/
theorem paths_head : ∀ path ∈ p.paths s f, ∃ rest, path = f.name :: rest := by
  intro path hpath
  unfold paths at hpath
  split at hpath
  · obtain ⟨rest, -, rfl⟩ := List.mem_map.1 hpath
    exact ⟨rest, rfl⟩
  · exact ⟨[], List.mem_singleton.1 hpath⟩

/-- What a field is flattened into is a composite of the catalog. -/
theorem flattened?_eq_some (hs : s.validate = .ok ()) {fields : List CompositeField}
    (h : p.flattened? s f = some fields) : ∃ t ∈ s.types, t.definition = .composite fields := by
  unfold flattened? at h
  split at h
  · cases h
  · next t ht =>
    obtain ⟨hmem, -⟩ := (Schema.fieldType?_eq_some hs).1 ht
    split at h
    · next c nested hfate hdefinition =>
      split at h
      · cases h
        exact ⟨t, hmem, hdefinition⟩
      · cases h
    · cases h

/-- **An object whose fields have different names has different paths.** -/
theorem paths_nodup (hs : s.validate = .ok ()) (hcatalog : p.custom.catalog = s.types)
    (ho : o.HasDistinctNames) : ((p.objectPaths s o).map Identifier.folded).Nodup := by
  have hwell := (Schema.validate_eq_ok.1 hs).2.1
  refine Identifier.nodup_flatMap ho (fun f _ => paths_head) fun f _ => ?_
  unfold paths
  split
  · next fields hfields =>
    obtain ⟨t, ht, hdefinition⟩ := flattened?_eq_some hs hfields
    have hnames := CustomType.fieldNames_nodup (hwell t ht) hdefinition
    exact Identifier.nodup_map_cons f.name
      (CustomConverter.columnPaths_nodup (hcatalog ▸ hwell) hnames)
  · exact List.nodup_singleton _

/-! ## Different names -/

/-- **When the fields of a converted object have different names**: if no two of its paths, which
are different, are joined to the same name. -/
theorem distinctNames_iff (hs : s.validate = .ok ()) (hcatalog : p.custom.catalog = s.types)
    (ho : o.HasDistinctNames) :
    (p.converted (p.fates s) k o).HasDistinctNames ↔
      ∀ u ∈ p.objectPaths s o, ∀ v ∈ p.objectPaths s o,
        Text.equalIgnoringCase (Identifier.joined u) (Identifier.joined v) = true →
          Identifier.folded u = Identifier.folded v := by
  have hnames : (p.converted (p.fates s) k o).fields.map (fun f => Text.asciiLower f.name) =
      (p.objectPaths s o).map fun path => Text.asciiLower (Identifier.joined path) := by
    have hmapped := congrArg (List.map Text.asciiLower) (p.converted_names s k o)
    rw [List.map_map, List.map_map] at hmapped
    exact hmapped
  have hpaths := paths_nodup hs hcatalog ho
  unfold SchemaObject.HasDistinctNames Text.equalIgnoringCase
  rw [hnames]
  constructor
  · intro hnodup u hu v hv hsame
    rw [List.inj_on_of_nodup_map hnodup hu hv (eq_of_beq hsame)]
  · intro hinj
    refine List.Nodup.map_on (fun u hu v hv hsame => ?_) hpaths.of_map
    have hfolded := hinj u hu v hv (beq_iff_eq.2 hsame)
    exact List.inj_on_of_nodup_map hpaths hu hv hfolded

/-- **Clear names.** The fields of a converted object have different names if its paths fit and part
clearly. -/
theorem distinctNames_of_partClearly (hs : s.validate = .ok ())
    (hcatalog : p.custom.catalog = s.types) (ho : o.HasDistinctNames)
    (hfits : ∀ path ∈ p.objectPaths s o, Identifier.Fits path)
    (hpart : Identifier.PartClearly ((p.objectPaths s o).map Identifier.folded)) :
    (p.converted (p.fates s) k o).HasDistinctNames := by
  refine (distinctNames_iff hs hcatalog ho).2 fun u hu v hv hsame => ?_
  have hne : ∀ path ∈ p.objectPaths s o, path ≠ [] := by
    intro path hpath
    obtain ⟨f, -, hpath⟩ := List.mem_flatMap.1 hpath
    obtain ⟨rest, rfl⟩ := paths_head path hpath
    exact List.cons_ne_nil _ _
  -- no path is cut, so that the texts of the two are the same in lower case
  have htext : "_".intercalate (Identifier.folded u) = "_".intercalate (Identifier.folded v) := by
    rw [← Identifier.asciiLower_intercalate, ← Identifier.asciiLower_intercalate,
      ← Identifier.joined_eq (hfits u hu), ← Identifier.joined_eq (hfits v hv)]
    exact eq_of_beq hsame
  have hends : Identifier.folded u = [] ↔ Identifier.folded v = [] := by
    unfold Identifier.folded
    rw [List.map_eq_nil_iff, List.map_eq_nil_iff]
    exact ⟨fun h => absurd h (hne u hu), fun h => absurd h (hne v hv)⟩
  exact Identifier.intercalate_injOn hpart [] _ _ (List.mem_map_of_mem hu) (List.mem_map_of_mem hv)
    hends htext

/-- The conversion of an object is named by paths. If the fields of the object have different names,
the paths are different, but the fields of the conversion have different names only if no two paths
are joined to the same name, which is so if they fit and part clearly. -/
structure NamedByPaths (p : Plan) (s : Schema) (o conversion : SchemaObject) : Prop where
  names_eq : conversion.fields.map Field.name = (p.objectPaths s o).map Identifier.joined
  paths_nodup : o.HasDistinctNames → ((p.objectPaths s o).map Identifier.folded).Nodup
  distinct_iff : o.HasDistinctNames →
    (conversion.HasDistinctNames ↔
      ∀ u ∈ p.objectPaths s o, ∀ v ∈ p.objectPaths s o,
        Text.equalIgnoringCase (Identifier.joined u) (Identifier.joined v) = true →
          Identifier.folded u = Identifier.folded v)
  distinct_of_partClearly : o.HasDistinctNames →
    (∀ path ∈ p.objectPaths s o, Identifier.Fits path) →
    Identifier.PartClearly ((p.objectPaths s o).map Identifier.folded) →
    conversion.HasDistinctNames

/-- Every conversion of an object is named by paths. -/
theorem converted_namedByPaths (hs : s.validate = .ok ()) (hcatalog : p.custom.catalog = s.types)
    (k : ContainerKind) (o : SchemaObject) :
    p.NamedByPaths s o (p.converted (p.fates s) k o) where
  names_eq := p.converted_names s k o
  paths_nodup := paths_nodup hs hcatalog
  distinct_iff := distinctNames_iff hs hcatalog
  distinct_of_partClearly := distinctNames_of_partClearly hs hcatalog

end Plan

/-! ## Totals -/

namespace Shop

/-- Orders with a total, which is a price, and another number. -/
def totals (other : String) : SchemaObject where
  name := "orders"
  fields := [{ name := "total", dataType := "price" }, { name := other, dataType := "integer" }]

/-- A conversion of these orders to a graph, where a price is flattened into its amount. -/
def totalsGraphRequest (other : String) : ConversionRequest :=
  { graphRequest ⟨"amount", "integer"⟩ with
    schema := some
      { priced ⟨"amount", "integer"⟩ with
        objects := fun
          | .table => [totals other]
          | _ => [] } }

end Shop

namespace ConversionEngine

variable {e : ConversionEngine} {r : ConversionRequest} {c : CompletedConversion}

/-- **The names of fields.** Besides lookup tables the converted schema holds the conversions of the
objects that go somewhere, and each is named by the paths of its object. The paths of an object
whose fields have different names are different. The fields of its conversion have different names
exactly if no two paths are joined to the same name, and so they do if the paths fit and part
clearly. -/
theorem convert_names_distinct_iff (h : e.convert r = .ok c) (hx : c.report.mode.executes = true) :
    ∃ p s t, e.prepare r = .ok (p, s) ∧ r.schema = some s ∧ c.schema = some t ∧
      (∀ d, t.objects d = p.tablesIn s d ++ ContainerKind.all.flatMap (p.arrivals s d)) ∧
      ∀ d k, p.destination? k = some d →
        List.Forall₂ (p.NamedByPaths s) (p.chosen (s.objects k)) (p.arrivals s d k) := by
  refine convert_forall₂ h hx fun p s hprepare k o _ => ?_
  have hvalid := (prepare_schema hprepare).2
  have hcatalog := (custom_of_prepare hprepare).1
  exact Plan.converted_namedByPaths hvalid hcatalog k o

/-- The total of an order and what has been paid keep different names. -/
theorem shop_names_distinct :
    ∃ c p s o, Shop.graphEngine.convert (Shop.totalsGraphRequest "paid") = .ok c ∧
      c.report.mode.executes = true ∧
      Shop.graphEngine.prepare (Shop.totalsGraphRequest "paid") = .ok (p, s) ∧
      (Shop.totals "paid").HasDistinctNames ∧ p.arrivals s .node .table = [o] ∧
      o.fields.map Field.name = ["total_amount", "paid"] ∧ o.HasDistinctNames := by
  have htest : (Shop.graphEngine.prepare (Shop.totalsGraphRequest "paid")).toOption.any
      (fun x => decide (x.1.mode.executes = true ∧ x.1.destination? .table = some .node ∧
        x.1.chosen (x.2.objects .table) = [Shop.totals "paid"] ∧
        x.1.objectPaths x.2 (Shop.totals "paid") = [["total", "amount"], ["paid"]])) = true := by
    decide +kernel
  obtain ⟨⟨p, s⟩, hprepare, hfacts⟩ := exists_ok htest
  obtain ⟨hx, hd, hchosen, hpaths⟩ := of_decide_eq_true hfacts
  have h := convert_eq_ok.2 ⟨p, s, hprepare, rfl⟩
  obtain ⟨p', s', t, hprepare', -, -, -, hnamed⟩ := convert_names_distinct_iff h hx
  obtain ⟨rfl, rfl⟩ := prepare_unique hprepare hprepare'
  have htable := hnamed .node .table hd
  rw [hchosen, List.forall₂_cons_left_iff] at htable
  obtain ⟨o, rest, ho, hrest, harrivals⟩ := htable
  rw [List.forall₂_nil_left_iff.1 hrest] at harrivals
  have hdistinct : (Shop.totals "paid").HasDistinctNames := by decide
  refine ⟨_, p, s, o, h, hx, hprepare, hdistinct, harrivals, ?_, (ho.distinct_iff hdistinct).2 ?_⟩
  · rw [ho.names_eq, hpaths]
    decide
  · rw [hpaths]
    decide

/-- If the other number is called total_amount, then both fields have that name. -/
theorem shop_names_clash :
    ∃ c t o, Shop.graphEngine.convert (Shop.totalsGraphRequest "total_amount") = .ok c ∧
      c.report.mode.executes = true ∧ c.schema = some t ∧
      (Shop.totals "total_amount").HasDistinctNames ∧ t.objects .node = [o] ∧
      o.fields.map Field.name = ["total_amount", "total_amount"] ∧ ¬o.HasDistinctNames := by
  have htest : (Shop.graphEngine.convert (Shop.totalsGraphRequest "total_amount")).toOption.any
      (fun c => c.schema.any fun t => decide (c.report.mode.executes = true ∧
        (t.objects .node).map (fun o => o.fields.map Field.name) =
          [["total_amount", "total_amount"]])) = true := by decide +kernel
  obtain ⟨c, h, hc⟩ := exists_ok htest
  obtain ⟨t, ht, hfacts⟩ := (Option.any_eq_true _ _).1 hc
  obtain ⟨hx, hnodes⟩ := of_decide_eq_true hfacts
  obtain ⟨o, hobjects, hnames⟩ := List.map_eq_singleton_iff.1 hnodes
  refine ⟨c, t, o, h, hx, ht, by decide, hobjects, hnames, ?_⟩
  have hfolded := congrArg (List.map Text.asciiLower) hnames
  rw [List.map_map] at hfolded
  unfold SchemaObject.HasDistinctNames
  change ¬(o.fields.map (Text.asciiLower ∘ Field.name)).Nodup
  rw [hfolded]
  decide

end ConversionEngine

end SchemaConversion
