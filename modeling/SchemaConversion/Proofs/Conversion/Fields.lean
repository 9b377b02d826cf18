import SchemaConversion.Proofs.Conversion.Conservation
import SchemaConversion.Proofs.Conversion.Questions
import SchemaConversion.Proofs.Conversion.Fates
import Mathlib.Data.List.Flatten

/-!
# No field is lost

In the place of a field of the source stands the field with another type, or columns if its custom
type has been flattened. What stands there is known part by part:

> `convertObject_parts`: the fields of a converted object are the parts for the fields of the
> source, one after the other.

> `convertField_conserves`: each part is a field of the same name or columns that are named after
> it, and a field that cannot be converted stays as it is and is reported.

Since a flattened composite becomes at least one column, no part is empty.
-/

namespace SchemaConversion

/-- The column of a flattened composite that stands for a field. -/
def Field.column (f : Field) (spec : ColumnSpec) : Field :=
  { f with name := Identifier.derived f.name spec.suffix, dataType := spec.dataType }

/-- With a single type in its place, a field gets this type. -/
theorem Field.renderedBy_some {f : Field} {r : Rendition} {dataType : String}
    (h : r.convertedType = some dataType) : f.renderedBy r = [{ f with dataType }] := by
  unfold renderedBy
  rw [h]

/-- Without one, the columns of its type stand in its place. -/
theorem Field.renderedBy_none {f : Field} {r : Rendition} {specs : List ColumnSpec}
    (h : r.convertedType = none) (hs : r.supplements = specs.map .column) :
    f.renderedBy r = specs.map f.column := by
  unfold renderedBy
  rw [h, hs]
  dsimp only
  rw [List.filterMap_map]
  exact congrFun (List.filterMap_eq_map (f := f.column)) specs

namespace Plan

variable {p : Plan} {s t : Schema} {f : Field} {k d : ContainerKind} {o : SchemaObject}

/-! ## What the fields of an object add -/

/-- **The fields of a converted object** are the parts for its fields, in order. -/
theorem convertObject_parts (fates : Fates) (o : SchemaObject) :
    (p.converted fates k o).fields =
      (o.fields.map fun f => (p.convertField fates k.objectType o.name f).fields).flatten := by
  show (o.fields.map (p.convertField fates k.objectType o.name)).flatMap FieldConversion.fields = _
  rw [List.flatMap_map, List.flatMap_def]

/-- What is told about the objects of a container that go somewhere is told about the conversion,
in the same order. -/
theorem object_warnings_sublist (hd : p.destination? k = some d) :
    ((p.chosen (s.objects k)).flatMap fun o =>
        (p.moveObject (p.fates s) k d (p.rule k.objectType) o).warnings).Sublist
      (p.execute s).findings.warnings := by
  by_cases hempty : (s.objects k).isEmpty = true
  · rw [List.isEmpty_iff.1 hempty]
    exact List.nil_sublist _
  have hoccupied : k ∈ s.occupied := Schema.mem_occupied.2 (by simpa using hempty)
  obtain ⟨hincluded, hd⟩ := destination?_eq_some.1 hd
  have hcontainer : ((p.chosen (s.objects k)).flatMap fun o =>
      (p.moveObject (p.fates s) k d (p.rule k.objectType) o).warnings).Sublist
        (p.containerResult s k).findings.warnings := by
    unfold containerResult
    rw [convertContainer_moved hincluded hd, ← List.flatMap_map]
    exact List.sublist_append_right _ _
  have hjoin := (List.singleton_sublist.2 hoccupied).flatMap fun k =>
    (p.containerResult s k).findings.warnings
  rw [List.flatMap_singleton] at hjoin
  rw [execute_findings]
  refine (hcontainer.trans hjoin).trans ?_
  rw [← List.flatMap_map]
  exact List.sublist_append_right _ _

/-- What is told about a field of an object that is converted is told about the conversion. -/
theorem mem_warnings_of_field {w : ConversionWarning} (hd : p.destination? k = some d)
    (ho : o ∈ p.chosen (s.objects k)) (hf : f ∈ o.fields)
    (hw : w ∈ (p.convertField (p.fates s) k.objectType o.name f).warnings) :
    w ∈ (p.execute s).findings.warnings := by
  have hobject : w ∈ (p.convertObject (p.fates s) k.objectType o).warnings :=
    List.mem_flatMap.2 ⟨_, List.mem_map_of_mem hf, hw⟩
  refine (object_warnings_sublist hd).subset (List.mem_flatMap.2 ⟨o, ho, ?_⟩)
  unfold moveObject
  dsimp only
  split
  · exact List.mem_cons_of_mem _ hobject
  · exact hobject

/-! ## Conservation -/

/-- What may stand in the place of a field. -/
inductive Keeps (p : Plan) (s : Schema) (f : Field) : List Field → Prop
  /-- The field with some type. -/
  | retyped (dataType : String) : Keeps p s f [{ f with dataType }]
  /-- Columns that are named after it, at least one, if its custom type is flattened into them. -/
  | columns {c : CustomConversion} {specs : List ColumnSpec} (follows : p.Follows s f c)
      (strategy_eq : c.strategy = .flatten)
      (supplements_eq : c.rendition.supplements = specs.map .column) (specs_ne : specs ≠ []) :
      Keeps p s f (specs.map f.column)

/-- The type of a field cannot be converted: its custom type is left out or no strategy works for
it, or it is a native type that the source does not know or the target has no equivalent of. -/
def Inconvertible (p : Plan) (s : Schema) (f : Field) : Prop :=
  (∃ t ∈ s.types, f.Names t ∧ ∀ c, (p.convertType t).fate ≠ .converted c) ∨
    ((∀ t ∈ s.types, ¬f.Names t) ∧ ∃ error, p.types.resolve f.dataType = .error error)

/-- A warning that a field of an object keeps its type. -/
def IsKeptBy (k : ObjectType) (objectName : String) (f : Field) (w : ConversionWarning) : Prop :=
  w.objectType = some k ∧ w.objectName = some objectName ∧
    ∃ reason, w.message =
      objectName ++ "." ++ f.name ++ " keeps type " ++ f.dataType ++ ": " ++ reason

/-- A field of an object is conserved by the fields that stand in its place. -/
structure Conserves (p : Plan) (s : Schema) (k : ObjectType) (objectName : String)
    (warnings : List ConversionWarning) (f : Field) (part : List Field) : Prop where
  keeps : p.Keeps s f part
  /-- No field disappears. -/
  ne_nil : part ≠ []
  /-- What cannot be converted stays as it is and is reported. -/
  reported : p.Inconvertible s f → part = [f] ∧ ∃ w ∈ warnings, IsKeptBy k objectName f w

/-- Something stands in the place of every field. -/
theorem Keeps.ne_nil {part : List Field} (h : p.Keeps s f part) : part ≠ [] := by
  cases h with
  | retyped => exact List.cons_ne_nil _ _
  | columns _ _ _ hne => exact fun hnil => hne (List.map_eq_nil_iff.1 hnil)

/-- A field that can be converted is conserved by what may stand in its place. -/
theorem Keeps.conserves {k : ObjectType} {name : String} {warnings : List ConversionWarning}
    {part : List Field} (h : p.Keeps s f part) (hf : ¬p.Inconvertible s f) :
    p.Conserves s k name warnings f part :=
  ⟨h, h.ne_nil, fun hno => absurd hno hf⟩

/-- A field is conserved if it stays as it is and that is reported. -/
theorem conserves_self {k : ObjectType} {name : String} {warnings : List ConversionWarning}
    {w : ConversionWarning} (hw : w ∈ warnings) (hkept : IsKeptBy k name f w) :
    p.Conserves s k name warnings f [f] :=
  ⟨.retyped f.dataType, List.cons_ne_nil _ _, fun _ => ⟨rfl, w, hw, hkept⟩⟩

/-- The warning that a field keeps its type says so, whatever the reason is. -/
theorem keepsType_isKept (kind : WarningKind) (k : ObjectType) (name : String) (f : Field)
    (reason : String) : IsKeptBy k name f (keepsType kind k name f reason) :=
  ⟨rfl, rfl, reason, rfl⟩

/-- A field that follows a conversion is not one that cannot be converted. -/
theorem Follows.convertible {c : CustomConversion} (hs : s.validate = .ok ())
    (h : p.Follows s f c) : ¬p.Inconvertible s f := by
  obtain ⟨t, ht, hnames, hfate⟩ := h
  rintro (⟨u, hu, hnamesu, hnone⟩ | ⟨hnone, -⟩)
  · obtain rfl : u = t := Schema.types_eq_of_key hs hu ht (hnamesu.trans hnames.symm)
    exact hnone c hfate
  · exact hnone t ht hnames

/-- What a conversion makes of a field that follows it. -/
theorem Follows.keeps {c : CustomConversion} (h : p.Follows s f c) :
    p.Keeps s f (f.renderedBy c.rendition) := by
  obtain ⟨t, -, -, -, hresolve⟩ := follows_resolve h
  -- columns stand for the type if it is flattened, and a single type if not
  by_cases hflat : c.strategy = .flatten
  · obtain ⟨hnone, specs, hne, hsupplements⟩ := CustomConverter.resolve_flatten hresolve hflat
    rw [Field.renderedBy_none hnone hsupplements]
    exact .columns h hflat hsupplements hne
  · obtain ⟨⟨dataType, hsome⟩, -⟩ := CustomConverter.resolve_single hresolve hflat
    rw [Field.renderedBy_some hsome]
    exact .retyped dataType

/-- **A field is conserved**, whichever way it is converted. -/
theorem convertField_conserves (hs : s.validate = .ok ()) {k : ObjectType} {name : String}
    {warnings : List ConversionWarning}
    (hw : ∀ w ∈ (p.convertField (p.fates s) k name f).warnings, w ∈ warnings) :
    p.Conserves s k name warnings f (p.convertField (p.fates s) k name f).fields := by
  rcases convertField_cases hs k name with
    ⟨c, hfollows, heq⟩ | ⟨t, ht, hnames, reason, -, heq⟩ | ⟨hnone, heq⟩
  · -- the field follows the conversion of its custom type
    rw [heq]
    exact hfollows.keeps.conserves (hfollows.convertible hs)
  · -- its custom type is not converted
    rw [heq] at hw ⊢
    exact conserves_self (hw _ List.mem_cons_self) (keepsType_isKept .customType _ _ _ reason)
  · -- its type is a native one
    rcases convertPrimitive_cases p k name f with ⟨b, hb, hfields⟩ | ⟨error, -, hfields⟩
    · rw [heq, hfields]
      refine (Keeps.retyped b.converted).conserves ?_
      rintro (⟨t, ht, hnames, -⟩ | ⟨-, error, herror⟩)
      · exact hnone t ht hnames
      · rw [hb] at herror
        cases herror
    · rw [heq, hfields] at hw ⊢
      exact conserves_self (hw _ List.mem_cons_self)
        (keepsType_isKept .typeConversion _ _ _ error.message)

/-- An object is conserved by its conversion: it has its name, and its fields are conserved by the
parts of which the fields of the conversion consist. -/
def ConservesFields (p : Plan) (s : Schema) (k : ObjectType) (warnings : List ConversionWarning)
    (o conversion : SchemaObject) : Prop :=
  conversion.name = o.name ∧ ∃ parts : List (List Field), conversion.fields = parts.flatten ∧
    List.Forall₂ (p.Conserves s k o.name warnings) o.fields parts

/-- What holds of the objects of a container and their conversions holds of the objects that go
somewhere and those that arrive there. -/
theorem arrivals_forall₂ {R : SchemaObject → SchemaObject → Prop} (hd : p.destination? k = some d)
    (h : ∀ o ∈ p.chosen (s.objects k), R o (p.converted (p.fates s) k o)) :
    List.Forall₂ R (p.chosen (s.objects k)) (p.arrivals s d k) := by
  unfold arrivals
  rw [if_pos hd, List.forall₂_map_right_iff, List.forall₂_same]
  exact h

/-- The objects that arrive from a container conserve those that were there. -/
theorem arrivals_conserve (hs : s.validate = .ok ()) (hd : p.destination? k = some d) :
    List.Forall₂ (p.ConservesFields s k.objectType (p.execute s).findings.warnings)
      (p.chosen (s.objects k)) (p.arrivals s d k) := by
  refine arrivals_forall₂ hd fun o ho => ?_
  refine ⟨converted_name o, _, p.convertObject_parts _ o, ?_⟩
  rw [List.forall₂_map_right_iff, List.forall₂_same]
  intro f hf
  exact convertField_conserves hs fun w hw => mem_warnings_of_field hd ho hf hw

end Plan

namespace ConversionEngine

variable {e : ConversionEngine} {r : ConversionRequest} {c : CompletedConversion}

/-- What holds of every object and its conversion under a plan holds of the objects that go
somewhere and of those that the converted schema holds besides lookup tables. -/
theorem convert_forall₂ {R : Plan → Schema → ContainerKind → SchemaObject → SchemaObject → Prop}
    (h : e.convert r = .ok c) (hx : c.report.mode.executes = true)
    (hR : ∀ p s, e.prepare r = .ok (p, s) → ∀ k, ∀ o ∈ p.chosen (s.objects k),
      R p s k o (p.converted (p.fates s) k o)) :
    ∃ p s t, e.prepare r = .ok (p, s) ∧ r.schema = some s ∧ c.schema = some t ∧
      (∀ d, t.objects d = p.tablesIn s d ++ ContainerKind.all.flatMap (p.arrivals s d)) ∧
      ∀ d k, p.destination? k = some d →
        List.Forall₂ (R p s k) (p.chosen (s.objects k)) (p.arrivals s d k) := by
  obtain ⟨p, s, hprepare, rfl⟩ := convert_eq_ok.1 h
  obtain ⟨t, ht⟩ : ∃ t, (p.execute s).schema = some t := ⟨_, rfl⟩
  rw [carryOut_executing hx]
  exact ⟨p, s, t, hprepare, (prepare_schema hprepare).1, ht, p.execute_objects ht, fun d k hd =>
    Plan.arrivals_forall₂ hd (hR p s hprepare k)⟩

/-- **Conservation of fields.** Besides lookup tables the converted schema holds the conversions of
the objects that go somewhere, in order. Each has the name of its object and consists of one part
for each field in order: the field with some type, or if the custom type of the field is flattened,
columns that are named after it, at least one. A field that cannot be converted stays as it is, and
a warning about its object says so. -/
theorem convert_conserves_fields (h : e.convert r = .ok c) (hx : c.report.mode.executes = true) :
    ∃ p s t, e.prepare r = .ok (p, s) ∧ r.schema = some s ∧ c.schema = some t ∧
      (∀ d, t.objects d = p.tablesIn s d ++ ContainerKind.all.flatMap (p.arrivals s d)) ∧
      ∀ d k, p.destination? k = some d →
        List.Forall₂ (p.ConservesFields s k.objectType c.findings.warnings)
          (p.chosen (s.objects k)) (p.arrivals s d k) := by
  obtain ⟨p, s, hprepare, rfl⟩ := convert_eq_ok.1 h
  obtain ⟨hschema, hvalid⟩ := prepare_schema hprepare
  obtain ⟨t, ht⟩ : ∃ t, (p.execute s).schema = some t := ⟨_, rfl⟩
  rw [carryOut_executing hx]
  exact ⟨p, s, t, hprepare, hschema, ht, p.execute_objects ht, fun d k hd =>
    p.arrivals_conserve hvalid hd⟩

/-- The fields of the shop are conserved. -/
theorem shop_fields_conserved :
    ∃ c p s t, Shop.engine.convert Shop.request = .ok c ∧ c.report.mode.executes = true ∧
      Shop.engine.prepare Shop.request = .ok (p, s) ∧ c.schema = some t ∧
      ∀ d k, p.destination? k = some d →
        List.Forall₂ (p.ConservesFields s k.objectType c.findings.warnings)
          (p.chosen (s.objects k)) (p.arrivals s d k) := by
  obtain ⟨c, h, hmode, -⟩ := Shop.converts
  have hx : c.report.mode.executes = true := by
    rw [hmode]
    rfl
  obtain ⟨p, s, t, hprepare, -, ht, -, hfields⟩ := convert_conserves_fields h hx
  exact ⟨c, p, s, t, h, hx, hprepare, ht, hfields⟩

end ConversionEngine

end SchemaConversion
