import SchemaConversion.Conversion.Analysis

/-!
# What the statistics of a conversion say about one object type

Statistics are put in declaration order, which changes nothing about what stands under an object
type. Under a container kind stands what that container contributed, if it holds anything; under
the custom types stands what their results add up to.
-/

namespace SchemaConversion

/-! ## Lists of entries -/

/-- Keys with what is known of them: a listed key has what is known of it. -/
theorem lookup_filterMap_key {κ β : Type} [DecidableEq κ] (f : κ → Option β) (l : List κ)
    (key : κ) :
    (l.filterMap fun x => (f x).map fun b => (x, b)).lookup key =
      if key ∈ l then f key else none := by
  induction l with
  | nil => rfl
  | cons x l ih =>
    by_cases hx : key = x
    · subst hx
      cases hf : f key with
      | none => simp [hf, ih]
      | some b => simp [hf]
    · cases hf : f x with
      | none => simp [hf, ih, hx]
      | some b => simp [hf, Dictionary.lookup_cons_ite, ih, hx]

/-- Entries made of a list, each under a key of its own. -/
theorem lookup_map_key {α κ β : Type} [DecidableEq α] [DecidableEq κ] (key : α → κ)
    (hkey : ∀ {x y}, key x = key y → x = y) (f : α → β) (l : List α) (a : α) :
    (l.map fun x => (key x, f x)).lookup (key a) = if a ∈ l then some (f a) else none := by
  induction l with
  | nil => rfl
  | cons x l ih =>
    rw [List.map_cons, Dictionary.lookup_cons_ite, ih]
    by_cases hx : a = x
    · subst hx
      simp
    · rw [if_neg fun e => hx (hkey e)]
      simp [hx]

/-- Declaration order changes nothing about what stands under a type. -/
@[simp] theorem Statistics.lookup_ofEntries (entries : List (ObjectType × ObjectStats))
    (t : ObjectType) : (Statistics.ofEntries entries).lookup t = entries.lookup t := by
  unfold Statistics.ofEntries
  rw [lookup_filterMap_key, if_pos t.mem_all]

/-! ## The entries of a conversion and of an analysis -/

/-- The containers that hold anything, in the order of processing. -/
def Schema.occupied (s : Schema) : List ContainerKind :=
  ContainerKind.all.filter fun k => !(s.objects k).isEmpty

/-- A container is processed exactly if it holds anything. -/
theorem Schema.mem_occupied {s : Schema} {k : ContainerKind} :
    k ∈ s.occupied ↔ (s.objects k).isEmpty = false := by
  simp [Schema.occupied, k.mem_all]

/-- The entry of a container behind the entry for the custom types. -/
theorem lookup_container_entry {types : Statistics}
    (htypes : ∀ entry ∈ types, entry.1 = .customType) (f : ContainerKind → ObjectStats)
    (l : List ContainerKind) (k : ContainerKind) :
    (types ++ l.map fun k => (k.objectType, f k)).lookup k.objectType =
      if k ∈ l then some (f k) else none := by
  -- custom types have no container
  have hnone : types.lookup k.objectType = none := by
    rw [List.lookup_eq_none_iff]
    intro entry hentry
    rw [htypes entry hentry]
    simpa using k.objectType_ne_customType
  rw [List.lookup_append, hnone, Option.none_or,
    lookup_map_key ContainerKind.objectType ContainerKind.objectType_injective]

/-- The entry for the custom types in front of the entries of containers. -/
theorem lookup_types_entry (types : Statistics) (f : ContainerKind → ObjectStats)
    (l : List ContainerKind) :
    (types ++ l.map fun k => (k.objectType, f k)).lookup .customType =
      types.lookup .customType := by
  have hnone : (l.map fun k => (k.objectType, f k)).lookup .customType = none := by
    rw [List.lookup_eq_none_iff]
    intro entry hentry
    obtain ⟨k, -, rfl⟩ := List.mem_map.1 hentry
    simpa using k.objectType_ne_customType.symm
  rw [List.lookup_append, hnone, Option.or_none]

/-- The statistics of types are entries for custom types alone. -/
theorem TypeResult.statistics_keys (results : List TypeResult) :
    ∀ entry ∈ TypeResult.statistics results, entry.1 = .customType := by
  unfold TypeResult.statistics
  split <;> simp

namespace Plan

/-- The fates of the custom types of a schema. -/
def fates (p : Plan) (s : Schema) : Fates := .ofResults (p.convertTypes s.types)

/-- What a container of a schema contributes to the conversion of the schema. -/
def containerResult (p : Plan) (s : Schema) (k : ContainerKind) : ContainerResult :=
  p.convertContainer (p.fates s) k (s.objects k)

/-- The containers that hold anything are converted one by one. -/
theorem convertContainers_eq (p : Plan) (s : Schema) :
    p.convertContainers (p.fates s) s = s.occupied.map (p.containerResult s) := rfl

/-- The result for a container is about this container. -/
@[simp] theorem convertContainer_kind (p : Plan) (fates : Fates) (k : ContainerKind)
    (objects : List SchemaObject) : (p.convertContainer fates k objects).kind = k := by
  unfold convertContainer
  split
  · rfl
  · dsimp only
    split <;> rfl

@[simp] theorem analyzeContainer_kind (p : Plan) (k : ContainerKind)
    (objects : List SchemaObject) : (p.analyzeContainer k objects).kind = k := by
  unfold analyzeContainer
  split
  · rfl
  · dsimp only
    split <;> rfl

/-- What is predicted of types concerns custom types alone. -/
theorem analyzeTypes_keys (p : Plan) (types : List CustomType) :
    ∀ entry ∈ p.analyzeTypes types, entry.1 = .customType := by
  unfold analyzeTypes
  split <;> simp

/-- The statistics of an execution have an entry for custom types and one for each container. -/
theorem execute_stats (p : Plan) (s : Schema) :
    (p.execute s).stats = .ofEntries (TypeResult.statistics (p.convertTypes s.types) ++
      s.occupied.map fun k => (k.objectType, (p.containerResult s k).stats)) := by
  show Statistics.ofEntries (TypeResult.statistics (p.convertTypes s.types) ++
    (p.convertContainers (p.fates s) s).map fun r => (r.kind.objectType, r.stats)) = _
  rw [convertContainers_eq, List.map_map]
  simp [Function.comp_def, containerResult]

theorem analyze_stats (p : Plan) (s : Schema) :
    (p.analyze s).stats = .ofEntries (p.analyzeTypes s.types ++
      s.occupied.map fun k => (k.objectType, (p.analyzeContainer k (s.objects k)).stats)) := by
  show Statistics.ofEntries (p.analyzeTypes s.types ++
    (s.occupied.map fun k => p.analyzeContainer k (s.objects k)).map
      fun r => (r.kind.objectType, r.stats)) = _
  rw [List.map_map]
  simp [Function.comp_def]

/-- Under a container kind stands what the container contributed, if it holds anything. -/
theorem execute_stats_container (p : Plan) (s : Schema) (k : ContainerKind) :
    (p.execute s).stats.lookup k.objectType =
      if k ∈ s.occupied then some (p.containerResult s k).stats else none := by
  rw [execute_stats, Statistics.lookup_ofEntries,
    lookup_container_entry (TypeResult.statistics_keys _)]

/-- The entry for a container in an analysis is the prediction for it. -/
theorem analyze_stats_container (p : Plan) (s : Schema) (k : ContainerKind) :
    (p.analyze s).stats.lookup k.objectType =
      if k ∈ s.occupied then some (p.analyzeContainer k (s.objects k)).stats else none := by
  rw [analyze_stats, Statistics.lookup_ofEntries, lookup_container_entry (p.analyzeTypes_keys _)]

theorem execute_stats_types (p : Plan) (s : Schema) :
    (p.execute s).stats.lookup .customType =
      (TypeResult.statistics (p.convertTypes s.types)).lookup .customType := by
  rw [execute_stats, Statistics.lookup_ofEntries, lookup_types_entry]

theorem analyze_stats_types (p : Plan) (s : Schema) :
    (p.analyze s).stats.lookup .customType = (p.analyzeTypes s.types).lookup .customType := by
  rw [analyze_stats, Statistics.lookup_ofEntries, lookup_types_entry]

end Plan

end SchemaConversion
