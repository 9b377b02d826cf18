import SchemaConversion.Proofs.Conversion.Preparation
import SchemaConversion.Proofs.Conversion.Containers
import Mathlib.Algebra.BigOperators.Group.List.Basic
import Mathlib.Algebra.GroupWithZero.Nat

/-!
# No object is lost or duplicated

Several containers of the source may go into one container of the target, and lookup tables go
there too. What stands in a container of the converted schema is known exactly:

> `execute_objects`: the lookup tables, if it is the container for them, and behind them the
> conversions from each container that goes there, container after container and each in order.

Since a container goes to one place at most, the lengths add up (`execute_total`): the converted
schema holds as many objects as were counted as converted, and the lookup tables.
-/

namespace SchemaConversion

namespace Plan

variable {p : Plan} {s t : Schema}

/-! ## What stands in a container of the converted schema -/

/-- The lookup tables of a type, if it is converted. -/
def tablesOf (p : Plan) (t : CustomType) : List SchemaObject :=
  match (p.convertType t).fate with
  | .converted c => c.tables
  | _ => []

/-- The tables of a type are those of its conversion. -/
theorem mem_tablesOf_iff {u : CustomType} {table : SchemaObject} :
    table ∈ p.tablesOf u ↔ ∃ c, (p.convertType u).fate = .converted c ∧ table ∈ c.tables := by
  unfold tablesOf
  cases (p.convertType u).fate with
  | converted c =>
    constructor
    · intro h
      exact ⟨c, rfl, h⟩
    · rintro ⟨_, hfate, h⟩
      cases hfate
      exact h
  | skipped reason => exact ⟨nofun, fun ⟨_, hfate, _⟩ => nomatch hfate⟩
  | dropped reason => exact ⟨nofun, fun ⟨_, hfate, _⟩ => nomatch hfate⟩

/-- The lookup tables that are created, in the order of the catalog. -/
def createdTables (p : Plan) (s : Schema) : List SchemaObject :=
  if p.tableContainer?.isSome then s.types.flatMap p.tablesOf else []

/-- The lookup tables that are put into a container. -/
def tablesIn (p : Plan) (s : Schema) (d : ContainerKind) : List SchemaObject :=
  if p.tableContainer? = some d then s.types.flatMap p.tablesOf else []

/-- What the objects of one container put into another. -/
def arrivals (p : Plan) (s : Schema) (d k : ContainerKind) : List SchemaObject :=
  if p.destination? k = some d then (p.chosen (s.objects k)).map (p.converted (p.fates s) k) else []

/-- The tables of the conversions are the tables of the types. -/
theorem tables_of_results (p : Plan) (types : List CustomType) :
    ((p.convertTypes types).filterMap TypeResult.conversion?).flatMap CustomConversion.tables =
      types.flatMap p.tablesOf := by
  induction types with
  | nil => rfl
  | cons t types ih =>
    show (((p.convertType t) :: p.convertTypes types).filterMap
      TypeResult.conversion?).flatMap CustomConversion.tables = _
    rw [List.filterMap_cons, List.flatMap_cons, ← ih]
    unfold tablesOf TypeResult.conversion?
    cases (p.convertType t).fate <;> rfl

/-- A container of an assembled schema holds what was placed there. -/
theorem assemble_objects (p : Plan) (name : String) (types : List TypeResult)
    (containers : List ContainerResult) (d : ContainerKind) :
    (p.assemble name types containers).objects d =
      (if p.tableContainer? = some d then
          (types.filterMap TypeResult.conversion?).flatMap CustomConversion.tables
        else []) ++
        (containers.filter (·.destination == some d)).flatMap ContainerResult.objects := by
  unfold assemble
  dsimp only
  rw [lookup_map_key (fun k => k) (fun h => h), if_pos d.mem_all, Option.getD_some]

/-- What arrives from a container is what its result says, if it says that it goes there. -/
theorem arrivals_eq (p : Plan) (s : Schema) (d k : ContainerKind) :
    p.arrivals s d k =
      if (p.containerResult s k).destination == some d then (p.containerResult s k).objects
      else [] := by
  unfold containerResult
  rw [convertContainer_destination, convertContainer_objects]
  unfold arrivals
  by_cases h : p.destination? k = some d
  · simp [h]
  · simp [h]

/-- Of the results of the containers that hold anything, those that go somewhere are what arrives
there from all containers. -/
theorem arrivals_of_results (p : Plan) (s : Schema) (d : ContainerKind) :
    ((s.occupied.map (p.containerResult s)).filter (·.destination == some d)).flatMap
        ContainerResult.objects = ContainerKind.all.flatMap (p.arrivals s d) := by
  unfold Schema.occupied
  induction ContainerKind.all with
  | nil => rfl
  | cons k l ih =>
    rw [List.flatMap_cons, ← ih, arrivals_eq]
    by_cases hk : (s.objects k).isEmpty = true
    · -- an empty container has no result, and nothing could arrive from it
      have hnil : (p.containerResult s k).objects = [] := by
        unfold containerResult
        rw [convertContainer_objects, List.isEmpty_iff.1 hk]
        split <;> rfl
      rw [hnil, ite_self, List.nil_append, List.filter_cons_of_neg (by simp [hk])]
    · rw [List.filter_cons_of_pos (by simp [hk]), List.map_cons, List.filter_cons]
      split
      · rw [List.flatMap_cons]
      · rw [List.nil_append]

/-- The objects of the converted schema, container by container. -/
theorem execute_objects (h : (p.execute s).schema = some t) (d : ContainerKind) :
    t.objects d = p.tablesIn s d ++ ContainerKind.all.flatMap (p.arrivals s d) := by
  cases h
  show (p.assemble s.name (p.convertTypes s.types)
    (p.convertContainers (p.fates s) s)).objects d = _
  rw [assemble_objects, tables_of_results, convertContainers_eq, arrivals_of_results]
  rfl

/-- The objects that arrive from a container have their names, in the same order. -/
theorem arrivals_names (p : Plan) (s : Schema) (d k : ContainerKind) :
    (p.arrivals s d k).map SchemaObject.name =
      if p.destination? k = some d then (p.chosen (s.objects k)).map SchemaObject.name else [] := by
  unfold arrivals
  split
  · rw [List.map_map]
    exact List.map_congr_left fun o _ => converted_name o
  · rfl

/-! ## Counting -/

/-- What has a destination is put into one container. -/
theorem sum_destination (destination : Option ContainerKind) (n : Nat) :
    (ContainerKind.all.map fun d => if destination = some d then n else 0).sum =
      if destination.isSome then n else 0 := by
  cases destination with
  | none => simp
  | some k => cases k <;> simp [ContainerKind.all]

/-- Counted by where they go or by where they come from, the parts of a whole are as many. -/
theorem sum_destinations {α : Type} (l : List α) (destination : α → Option ContainerKind)
    (n : α → Nat) :
    (ContainerKind.all.map fun d =>
        (l.map fun x => if destination x = some d then n x else 0).sum).sum =
      (l.map fun x => if (destination x).isSome then n x else 0).sum := by
  induction l with
  | nil => simp
  | cons x l ih =>
    simp only [List.map_cons, List.sum_cons, List.sum_map_add]
    rw [sum_destination, ih]

/-- The objects of a container that are converted. -/
theorem containerResult_converted (p : Plan) (s : Schema) (k : ContainerKind) :
    (p.containerResult s k).stats.converted =
      if (p.destination? k).isSome then (p.chosen (s.objects k)).length else 0 := by
  unfold containerResult
  rw [convertContainer_converted, convertContainer_objects]
  split
  · rw [List.length_map]
  · rfl

end Plan

/-- How many objects of a type are counted as converted. -/
def Statistics.convertedOf (s : Statistics) (t : ObjectType) : Nat :=
  ((s.lookup t).map ObjectStats.converted).getD 0

namespace Plan

variable {p : Plan} {s t : Schema}

/-- As many objects of a container are counted as converted as are chosen, if they go somewhere. -/
theorem execute_convertedOf (p : Plan) (s : Schema) (k : ContainerKind) :
    (p.execute s).stats.convertedOf k.objectType =
      if (p.destination? k).isSome then (p.chosen (s.objects k)).length else 0 := by
  unfold Statistics.convertedOf
  rw [execute_stats_container]
  by_cases hk : k ∈ s.occupied
  · rw [if_pos hk, ← containerResult_converted]
    rfl
  · have hempty : s.objects k = [] := by simpa [Schema.mem_occupied] using hk
    rw [if_neg hk, hempty]
    split <;> rfl

/-- As many objects stand in the converted schema as were counted as converted, with the lookup
tables. -/
theorem execute_total (h : (p.execute s).schema = some t) :
    (ContainerKind.all.map fun d => (t.objects d).length).sum =
      (ContainerKind.all.map fun k => (p.execute s).stats.convertedOf k.objectType).sum +
        (p.createdTables s).length := by
  have hlength (d : ContainerKind) : (t.objects d).length =
      (if p.tableContainer? = some d then (s.types.flatMap p.tablesOf).length else 0) +
        (ContainerKind.all.map fun k =>
          if p.destination? k = some d then (p.chosen (s.objects k)).length else 0).sum := by
    rw [execute_objects h, List.length_append, List.length_flatMap]
    unfold tablesIn arrivals
    simp only [apply_ite List.length, List.length_map, List.length_nil]
  -- the left side adds up by destinations, the right side by origins
  simp only [hlength, List.sum_map_add, execute_convertedOf]
  rw [sum_destination, sum_destinations, Nat.add_comm]
  unfold createdTables
  simp only [apply_ite List.length, List.length_nil]

end Plan

namespace ConversionEngine

variable {e : ConversionEngine} {r : ConversionRequest} {c : CompletedConversion}

/-- **Conservation of objects.** Whatever the databases, the preferences and the decisions are: in
a container of the converted schema stand the lookup tables, if it is the container for them, and
then the conversions of the objects that go there, container after container, each in order and
under its name. So there are as many objects as were counted as converted, and the tables. -/
theorem convert_conserves_objects (h : e.convert r = .ok c)
    (hx : c.report.mode.executes = true) :
    ∃ p s t, e.prepare r = .ok (p, s) ∧ r.schema = some s ∧ c.schema = some t ∧
      (∀ d, t.objects d = p.tablesIn s d ++ ContainerKind.all.flatMap (p.arrivals s d)) ∧
      (∀ d k, (p.arrivals s d k).map SchemaObject.name =
        if p.destination? k = some d then (p.chosen (s.objects k)).map SchemaObject.name else []) ∧
      (∀ k, c.report.stats.convertedOf k.objectType =
        if (p.destination? k).isSome then (p.chosen (s.objects k)).length else 0) ∧
      (ContainerKind.all.map fun d => (t.objects d).length).sum =
        (ContainerKind.all.map fun k => c.report.stats.convertedOf k.objectType).sum +
          (p.createdTables s).length := by
  obtain ⟨p, s, hprepare, rfl⟩ := convert_eq_ok.1 h
  obtain ⟨t, ht⟩ : ∃ t, (p.execute s).schema = some t := ⟨_, rfl⟩
  rw [carryOut_executing hx]
  exact ⟨p, s, t, hprepare, (prepare_schema hprepare).1, ht, p.execute_objects ht,
    p.arrivals_names s, p.execute_convertedOf s, p.execute_total ht⟩

/-- The objects of the shop are conserved, its lookup table included. -/
theorem shop_objects_conserved :
    ∃ c p s t, Shop.engine.convert Shop.request = .ok c ∧ c.report.mode.executes = true ∧
      Shop.engine.prepare Shop.request = .ok (p, s) ∧ c.schema = some t ∧
      (∀ d, t.objects d = p.tablesIn s d ++ ContainerKind.all.flatMap (p.arrivals s d)) ∧
      (ContainerKind.all.map fun d => (t.objects d).length).sum =
        (ContainerKind.all.map fun k => c.report.stats.convertedOf k.objectType).sum +
          (p.createdTables s).length := by
  obtain ⟨c, h, hmode, -⟩ := Shop.converts
  have hx : c.report.mode.executes = true := by
    rw [hmode]
    rfl
  obtain ⟨p, s, t, hprepare, -, ht, hobjects, -, -, htotal⟩ := convert_conserves_objects h hx
  exact ⟨c, p, s, t, h, hx, hprepare, ht, hobjects, htotal⟩

end ConversionEngine

end SchemaConversion
