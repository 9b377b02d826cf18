import SchemaConversion.Proofs.Conversion.Conservation
import SchemaConversion.Proofs.Conversion.Questions
import SchemaConversion.Proofs.Conversion.Fates
import SchemaConversion.Proofs.CustomType.References
import Mathlib.Data.List.Perm.Basic

/-!
# The order of a schema does not matter

The custom types of a schema and the objects of its containers come in some order. A conversion
goes through them in this order, and what it leads to is in this order again; apart from that the
order has no influence. The argument goes from the parts to the whole:

> `convertType_inOrder`, `converted_inOrder`: each custom type and each object is converted in the
> same way, since references name the same types and fields follow the same fates.

> `containerResult_rearranges`, `execute_rearranges`: so containers and conversions lead to the same
> in another order, with equal statistics.

> `convert_rearranged`: requests that differ in the order only have equal reports.
-/

namespace SchemaConversion

/-! ## Another order -/

/-- The same findings in another order. -/
structure Findings.Rearranges (f g : Findings) : Prop where
  warnings : f.warnings.Perm g.warnings
  unsupported : f.unsupported.Perm g.unsupported
  pending : f.pending.Perm g.pending

namespace Findings

theorem Rearranges.refl (f : Findings) : f.Rearranges f := ⟨.rfl, .rfl, .rfl⟩

/-- Findings may be rearranged step by step. -/
theorem Rearranges.append {f f' g g' : Findings} (h : f.Rearranges f') (h' : g.Rearranges g') :
    (f ++ g).Rearranges (f' ++ g') :=
  ⟨h.warnings.append h'.warnings, h.unsupported.append h'.unsupported,
    h.pending.append h'.pending⟩

/-- The steps for items in another order, each of which may tell in another order. -/
theorem Rearranges.join {α : Type} {l l' : List α} {f g : α → Findings} (h : l.Perm l')
    (hstep : ∀ a ∈ l, (f a).Rearranges (g a)) :
    (Findings.join (l.map f)).Rearranges (Findings.join (l'.map g)) := by
  unfold Findings.join
  refine ⟨?_, ?_, ?_⟩ <;> dsimp only <;> rw [List.flatMap_map, List.flatMap_map]
  · exact h.flatMap fun a ha => (hstep a ha).warnings
  · exact h.flatMap fun a ha => (hstep a ha).unsupported
  · exact h.flatMap fun a ha => (hstep a ha).pending

/-- Findings that are warnings only are rearranged with these. -/
theorem Rearranges.ofWarnings {warnings warnings' : List ConversionWarning}
    (h : warnings.Perm warnings') : (ofWarnings warnings).Rearranges (ofWarnings warnings') :=
  ⟨h, .rfl, .rfl⟩

end Findings

/-- The same schema in another order: its custom types and the objects of each container are
permuted. -/
structure Schema.Rearranges (s s' : Schema) : Prop where
  name_eq : s'.name = s.name
  types_perm : s.types.Perm s'.types
  objects_perm : ∀ k, (s.objects k).Perm (s'.objects k)

namespace Schema.Rearranges

variable {s s' : Schema} (h : s.Rearranges s')
include h

/-- Validity does not depend on the order. -/
theorem valid (hs : s.validate = .ok ()) : s'.validate = .ok () := by
  obtain ⟨hobjects, htypes, hkeys⟩ := Schema.validate_eq_ok.1 hs
  refine Schema.validate_eq_ok.2 ⟨fun k o ho => ?_, fun t ht => ?_, ?_⟩
  · exact hobjects k o ((h.objects_perm k).mem_iff.2 ho)
  · exact htypes t (h.types_perm.mem_iff.2 ht)
  · exact (h.types_perm.map CustomType.key).nodup_iff.1 hkeys

theorem count_eq (t : ObjectType) : s'.count t = s.count t := by
  unfold Schema.count Schema.objectsOf
  rw [h.types_perm.length_eq]
  cases t.container? with
  | none => rfl
  | some k =>
    rw [Option.map_some, Option.map_some, Option.getD_some, Option.getD_some,
      (h.objects_perm k).length_eq]

theorem total_eq : s'.total = s.total := by
  unfold Schema.total Schema.counts
  simp only [h.count_eq]

theorem occupied_eq : s'.occupied = s.occupied := by
  unfold Schema.occupied
  simp only [(h.objects_perm _).isEmpty_eq]

end Schema.Rearranges

/-- The statistics of custom types count results. -/
theorem TypeResult.statistics_perm {results results' : List TypeResult}
    (h : results.Perm results') :
    TypeResult.statistics results' = TypeResult.statistics results := by
  unfold TypeResult.statistics
  rw [h.isEmpty_eq, h.length_eq, h.countP_eq, h.countP_eq, h.countP_eq]

/-- What two plans lead to is the same in another order. -/
structure Execution.Rearranges (x x' : Execution) : Prop where
  schema : Option.Rel Schema.Rearranges x.schema x'.schema
  stats_eq : x'.stats = x.stats
  strategies_perm : x.strategies.Perm x'.strategies
  findings : x.findings.Rearranges x'.findings
  requiresUserInput_eq : x'.requiresUserInput = x.requiresUserInput

namespace Plan

/-- The plan with a catalog in another order. -/
def withTypes (p : Plan) (types : List CustomType) : Plan :=
  { p with custom := p.custom.withCatalog types }

/-! ## Types, fields and objects -/

section Order

variable {p : Plan} {s s' : Schema} (hcatalog : p.custom.catalog = s.types)
  (hs : s.validate = .ok ()) (h : s.Rearranges s')
include hcatalog hs h

/-- **A custom type is converted in the same way** in every order of the catalog. -/
theorem convertType_inOrder : (p.withTypes s'.types).convertType = p.convertType := by
  have hreferences : CustomType.SameReferences p.custom.catalog s'.types := by
    rw [hcatalog]
    exact CustomType.sameReferences_of_perm (Schema.validate_eq_ok.1 hs).2.2 h.types_perm
  have hresolve : (p.withTypes s'.types).custom.resolve = p.custom.resolve :=
    CustomConverter.resolve_withCatalog hreferences
  funext t
  unfold convertType
  rw [hresolve]
  rfl

/-- The results for the custom types are the same in the order of the types. -/
theorem convertTypes_perm :
    (p.convertTypes s.types).Perm ((p.withTypes s'.types).convertTypes s'.types) := by
  unfold convertTypes
  rw [convertType_inOrder hcatalog hs h]
  exact h.types_perm.map p.convertType

/-- Fields follow the same fates. -/
theorem fates_inOrder (dataType : String) :
    ((p.withTypes s'.types).fates s').of? dataType = (p.fates s).of? dataType := by
  -- fates are known for fields, and any field with this spelling will do
  let f : Field := { name := "", dataType }
  refine Option.ext fun fate => ?_
  have hfates : ((p.withTypes s'.types).fates s').of? f.dataType = some fate ↔ _ :=
    fates_of? (h.valid hs)
  rw [convertType_inOrder hcatalog hs h] at hfates
  simp only [← h.types_perm.mem_iff] at hfates
  exact hfates.trans (fates_of? (f := f) hs).symm

/-- A field is converted in the same way, since it follows the same fate. -/
theorem convertField_inOrder :
    (p.withTypes s'.types).convertField ((p.withTypes s'.types).fates s') =
      p.convertField (p.fates s) := by
  funext t name f
  unfold convertField
  rw [fates_inOrder hcatalog hs h]
  rfl

theorem convertObject_inOrder :
    (p.withTypes s'.types).convertObject ((p.withTypes s'.types).fates s') =
      p.convertObject (p.fates s) := by
  funext t o
  unfold convertObject
  rw [convertField_inOrder hcatalog hs h]

/-- **An object is converted in the same way** in every order of the schema. -/
theorem converted_inOrder (k : ContainerKind) :
    (p.withTypes s'.types).converted ((p.withTypes s'.types).fates s') k =
      p.converted (p.fates s) k := by
  funext o
  unfold converted
  rw [convertObject_inOrder hcatalog hs h]

theorem moveObject_inOrder (k d : ContainerKind) (rule : ObjectRule) :
    (p.withTypes s'.types).moveObject ((p.withTypes s'.types).fates s') k d rule =
      p.moveObject (p.fates s) k d rule := by
  funext o
  unfold moveObject
  rw [convertObject_inOrder hcatalog hs h]
  rfl

/-! ## Containers -/

/-- A container counts the same and tells the same in another order. -/
theorem containerResult_rearranges (k : ContainerKind) :
    ((p.withTypes s'.types).containerResult s' k).stats = (p.containerResult s k).stats ∧
      (p.containerResult s k).findings.Rearranges
        ((p.withTypes s'.types).containerResult s' k).findings := by
  have hlength := (h.objects_perm k).length_eq
  have hchosen : (p.chosen (s.objects k)).Perm
      ((p.withTypes s'.types).chosen (s'.objects k)) := (h.objects_perm k).filter _
  unfold containerResult
  cases hx : p.preferences.excludesType k.objectType with
  -- the container is left out: its objects are only counted
  | true =>
    rw [convertContainer_excluded hx, convertContainer_excluded (p := p.withTypes s'.types) hx]
    unfold skipContainer
    rw [hlength]
    exact ⟨rfl, .refl _⟩
  | false =>
    cases hd : (p.placement k (p.rule k.objectType)).destination with
    -- its objects are dropped, and each of them is reported
    | none =>
      rw [convertContainer_dropped hx hd,
        convertContainer_dropped (p := p.withTypes s'.types) hx hd, hlength, hchosen.length_eq]
      exact ⟨rfl, (Findings.Rearranges.refl _).append (.join hchosen fun _ _ => .refl _)⟩
    -- they go somewhere, each of them converted in the same way
    | some d =>
      rw [convertContainer_moved hx hd, convertContainer_moved (p := p.withTypes s'.types) hx hd,
        moveObject_inOrder hcatalog hs h, hlength, hchosen.length_eq]
      exact ⟨rfl, (Findings.Rearranges.refl _).append
        (.ofWarnings ((hchosen.map _).flatMap_right _))⟩

/-! ## Schemas -/

/-- The same lookup tables go into a container. -/
theorem tablesIn_perm (d : ContainerKind) :
    (p.tablesIn s d).Perm ((p.withTypes s'.types).tablesIn s' d) := by
  have htables : (p.withTypes s'.types).tablesOf = p.tablesOf := by
    funext t
    unfold tablesOf
    rw [convertType_inOrder hcatalog hs h]
  unfold tablesIn
  rw [htables]
  show (if p.tableContainer? = some d then s.types.flatMap p.tablesOf else []).Perm
    (if p.tableContainer? = some d then s'.types.flatMap p.tablesOf else [])
  split
  · exact h.types_perm.flatMap_right _
  · exact .rfl

/-- The same objects arrive in a container. -/
theorem arrivals_perm (d k : ContainerKind) :
    (p.arrivals s d k).Perm ((p.withTypes s'.types).arrivals s' d k) := by
  unfold arrivals
  rw [converted_inOrder hcatalog hs h]
  show (if p.destination? k = some d then (p.chosen (s.objects k)).map (p.converted (p.fates s) k)
      else []).Perm
    (if p.destination? k = some d then (p.chosen (s'.objects k)).map (p.converted (p.fates s) k)
      else [])
  split
  · exact ((h.objects_perm k).filter _).map _
  · exact .rfl

/-- What is converted is the same schema in another order. -/
theorem schema_rearranges {t t' : Schema} (ht : (p.execute s).schema = some t)
    (ht' : ((p.withTypes s'.types).execute s').schema = some t') : t.Rearranges t' where
  name_eq := by
    cases ht
    cases ht'
    exact h.name_eq
  types_perm := by
    cases ht
    cases ht'
    exact ((convertTypes_perm hcatalog hs h).filter _).map _
  objects_perm d := by
    rw [execute_objects ht, execute_objects ht']
    exact (tablesIn_perm hcatalog hs h d).append
      (List.Perm.flatMap_left _ fun k _ => arrivals_perm hcatalog hs h d k)

/-! ## Executions and analyses -/

/-- **A conversion leads to the same in another order.** -/
theorem execute_rearranges :
    (p.execute s).Rearranges ((p.withTypes s'.types).execute s') where
  schema := .some (schema_rearranges hcatalog hs h rfl rfl)
  stats_eq := by
    have hcontainers (k : ContainerKind) :=
      (containerResult_rearranges hcatalog hs h k).1
    rw [execute_stats, execute_stats, h.occupied_eq,
      TypeResult.statistics_perm (convertTypes_perm hcatalog hs h)]
    simp only [hcontainers]
  strategies_perm := ((convertTypes_perm hcatalog hs h).filterMap _).map _
  findings := by
    rw [execute_findings, execute_findings, h.occupied_eq, convertType_inOrder hcatalog hs h]
    refine .append (.append (.refl p.findings) (.join h.types_perm fun _ _ => .refl _)) ?_
    exact .join .rfl fun k _ => (containerResult_rearranges hcatalog hs h k).2
  requiresUserInput_eq :=
    congrArg (p.matrix.requiresUserInput || ·) (convertTypes_perm hcatalog hs h).any_eq.symm

end Order

/-- The prediction for a container does not depend on the order of its objects. -/
theorem analyzeContainer_rearranges (p : Plan) (k : ContainerKind) {l l' : List SchemaObject}
    (h : l.Perm l') :
    (p.analyzeContainer k l').stats = (p.analyzeContainer k l).stats ∧
      (p.analyzeContainer k l).findings.Rearranges (p.analyzeContainer k l').findings := by
  have hchosen : (p.chosen l).Perm (p.chosen l') := h.filter _
  unfold analyzeContainer
  dsimp only
  rw [h.length_eq, hchosen.length_eq]
  split
  · exact ⟨rfl, .refl _⟩
  · split
    · exact ⟨rfl, .rfl, hchosen.map _, .rfl⟩
    · exact ⟨rfl, .refl _⟩

/-- **An analysis predicts the same in another order.** -/
theorem analyze_rearranges (p : Plan) {s s' : Schema} (h : s.Rearranges s') :
    (p.analyze s).Rearranges ((p.withTypes s'.types).analyze s') where
  schema := .none
  stats_eq := by
    have hcontainers (k : ContainerKind) := (p.analyzeContainer_rearranges k (h.objects_perm k)).1
    have htypes : p.analyzeTypes s'.types = p.analyzeTypes s.types := by
      unfold analyzeTypes
      rw [h.types_perm.isEmpty_eq, h.types_perm.length_eq, h.types_perm.countP_eq,
        h.types_perm.countP_eq]
    show (p.analyze s').stats = (p.analyze s).stats
    rw [analyze_stats, analyze_stats, h.occupied_eq, htypes]
    simp only [hcontainers]
  strategies_perm := (h.types_perm.filter _).map _
  findings := by
    show (p.findings ++ .join ((s.occupied.map fun k => p.analyzeContainer k (s.objects k)).map
        ContainerResult.findings)).Rearranges
      (p.findings ++ .join ((s'.occupied.map fun k => p.analyzeContainer k (s'.objects k)).map
        ContainerResult.findings))
    rw [h.occupied_eq, List.map_map, List.map_map]
    exact .append (.refl p.findings)
      (.join .rfl fun k _ => (p.analyzeContainer_rearranges k (h.objects_perm k)).2)
  requiresUserInput_eq := rfl

end Plan

/-! ## Requests -/

/-- The request with another schema. -/
def ConversionRequest.withSchema (r : ConversionRequest) (s : Schema) : ConversionRequest :=
  { r with schema := some s }

/-- The schema from back to front. -/
def Schema.reverse (s : Schema) : Schema :=
  { s with objects := fun k => (s.objects k).reverse, types := s.types.reverse }

/-- From back to front is another order. -/
theorem Schema.rearranges_reverse (s : Schema) : s.Rearranges s.reverse :=
  ⟨rfl, s.types.reverse_perm.symm, fun k => (s.objects k).reverse_perm.symm⟩

namespace Shop

/-- Orders and customers with prices, which refer to another type of the catalog. -/
def pricesSchema : Schema where
  name := "shop"
  objects := fun
    | .table =>
      [{ name := "orders", fields := [{ name := "total", dataType := "price" }] },
        { name := "customers", fields := [{ name := "credit", dataType := "PRICE" }] }]
    | _ => []
  types :=
    [{ name := "price", definition := .composite [⟨"amount", "Money"⟩] },
      { name := "money", definition := .domain "numeric(10,2)" [] }]

/-- A conversion of the prices to a graph. -/
def pricesRequest : ConversionRequest where
  schema := some pricesSchema
  source := "postgresql"
  target := "neo4j"
  mode := some .automatic

end Shop

namespace ConversionEngine

variable {e : ConversionEngine} {r : ConversionRequest} {p : Plan} {s s' : Schema}

/-- Nothing that is reported depends on the order. -/
theorem report_eq (h : s.Rearranges s') {x x' : Execution} (hx : x.Rearranges x') :
    e.report (p.withTypes s'.types) s' x' = e.report p s x := by
  have hcounts : CustomStrategy.counts x'.strategies = CustomStrategy.counts x.strategies := by
    unfold CustomStrategy.counts
    simp only [hx.strategies_perm.count_eq]
  unfold report
  rw [hcounts, hx.stats_eq, hx.requiresUserInput_eq, h.total_eq, hx.findings.pending.isEmpty_eq]
  rfl

/-- Requests that differ in the order only lead to plans that differ in the catalog only. -/
theorem prepare_inOrder (hschema : r.schema = some s) (hs : s.validate = .ok ())
    (h : s.Rearranges s') :
    e.prepare (r.withSchema s') = (e.prepare r).map fun x => (x.1.withTypes s'.types, s') := by
  have hparallel : r.Parallel (r.withSchema s') s s' :=
    ⟨rfl, rfl, hschema, rfl, hs, h.valid hs⟩
  rw [prepare_parallel hparallel]
  refine map_congr fun x hprepare => ?_
  obtain ⟨-, m, -, -, -, st, tt, tf, -, -, -, hp⟩ := prepare_eq_ok.1 hprepare
  rw [hp]
  rfl

/-- **The order of a schema does not matter.** If the custom types of a valid schema and the
objects of its containers are permuted, then requests for the one and for the other fail in the
same way or have equal reports, and what they lead to is the same in another order: the converted
schemas and all findings. Each custom type and each object is converted in the same way. -/
theorem convert_rearranged (hschema : r.schema = some s) (hs : s.validate = .ok ())
    (h : s.Rearranges s') :
    (∀ error, e.convert (r.withSchema s') = .error error ↔ e.convert r = .error error) ∧
      ∀ c, e.convert r = .ok c → ∃ c' p p', e.convert (r.withSchema s') = .ok c' ∧
        e.prepare r = .ok (p, s) ∧ e.prepare (r.withSchema s') = .ok (p', s') ∧
        (∀ k o, p'.converted (p'.fates s') k o = p.converted (p.fates s) k o) ∧
        (∀ t, p'.convertType t = p.convertType t) ∧
        c'.report = c.report ∧ Option.Rel Schema.Rearranges c.schema c'.schema ∧
        c.findings.Rearranges c'.findings := by
  have hprepare' := prepare_inOrder (e := e) hschema hs h
  constructor
  · intro error
    rw [convert_eq_error, convert_eq_error, hprepare']
    cases e.prepare r <;> simp [Except.map]
  · intro c hc
    obtain ⟨p, s₀, hprepare, rfl⟩ := convert_eq_ok.1 hc
    obtain rfl : s₀ = s := Option.some.inj ((prepare_schema hprepare).1.symm.trans hschema)
    rw [hprepare, map_ok] at hprepare'
    have hcatalog := (custom_of_prepare hprepare).1
    have hleads : (e.carryOut (p.withTypes s'.types) s').report = (e.carryOut p s₀).report ∧
        Option.Rel Schema.Rearranges (e.carryOut p s₀).schema
          (e.carryOut (p.withTypes s'.types) s').schema ∧
        (e.carryOut p s₀).findings.Rearranges
          (e.carryOut (p.withTypes s'.types) s').findings := by
      -- the mode is the same for both, so both are carried out or both are analysed
      cases hx : p.mode.executes with
      | true =>
        have hx' := Plan.execute_rearranges hcatalog hs h
        rw [carryOut_executing hx, carryOut_executing (p := p.withTypes s'.types) hx]
        exact ⟨report_eq h hx', hx'.schema, hx'.findings⟩
      | false =>
        have hx' := p.analyze_rearranges h
        rw [carryOut_analysing hx, carryOut_analysing (p := p.withTypes s'.types) hx]
        exact ⟨report_eq h hx', hx'.schema, hx'.findings⟩
    refine ⟨_, p, p.withTypes s'.types, convert_eq_ok.2 ⟨_, _, hprepare', rfl⟩, hprepare,
      hprepare', fun k o => ?_, fun t => ?_, hleads⟩
    · rw [Plan.converted_inOrder hcatalog hs h]
    · rw [Plan.convertType_inOrder hcatalog hs h]

/-- The shop may be read from back to front. -/
theorem shop_rearranged :
    Shop.pricesSchema.validate = .ok () ∧
      Shop.pricesSchema.Rearranges Shop.pricesSchema.reverse ∧
      ∃ c c', Shop.graphEngine.convert Shop.pricesRequest = .ok c ∧
        Shop.graphEngine.convert (Shop.pricesRequest.withSchema Shop.pricesSchema.reverse) =
          .ok c' ∧
        c'.report = c.report ∧ Option.Rel Schema.Rearranges c.schema c'.schema ∧
        c.findings.Rearranges c'.findings := by
  have htest : (Shop.graphEngine.prepare Shop.pricesRequest).toOption.any (fun _ => true) = true :=
    by decide +kernel
  obtain ⟨⟨p, s⟩, hprepare, -⟩ := exists_ok htest
  have hschema : Shop.pricesRequest.schema = some Shop.pricesSchema := rfl
  obtain ⟨hsame, hs⟩ := prepare_schema hprepare
  obtain rfl : Shop.pricesSchema = s := Option.some.inj (hschema.symm.trans hsame)
  have h := Shop.pricesSchema.rearranges_reverse
  obtain ⟨c', -, -, hconvert', -, -, -, -, hleads⟩ :=
    (convert_rearranged hschema hs h).2 _ (convert_eq_ok.2 ⟨p, _, hprepare, rfl⟩)
  exact ⟨hs, h, _, c', convert_eq_ok.2 ⟨p, _, hprepare, rfl⟩, hconvert', hleads⟩

end ConversionEngine

end SchemaConversion
