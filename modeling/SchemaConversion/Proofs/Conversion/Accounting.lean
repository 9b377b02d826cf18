import SchemaConversion.Proofs.Conversion.Conservation
import SchemaConversion.Proofs.Conversion.Prediction

/-!
# Every object is accounted for

Whether a request is carried out or only analysed, its statistics and the features that it loses are
put together from one tally for the custom types and one for each container that holds anything. A
fair tally counts every object once, and tells of as many lost features as it counts objects as
dropped:

> `Execution.TalliedBy.accounts`: from fair tallies follows what the statistics as a whole say.

> `convert_accounts`: all tallies are fair, so the report on a request accounts for its schema.
-/

namespace SchemaConversion

/-! ## Object types and what a schema holds of them -/

/-- An object type is that of the custom types, has a container, or has neither. -/
theorem ObjectType.custom_or_contained (t : ObjectType) :
    t = .customType ∨ (∃ k : ContainerKind, k.objectType = t) ∨
      (t ≠ .customType ∧ t.container? = none) := by
  cases hc : t.container? with
  | some k => exact .inr (.inl ⟨k, ContainerKind.objectType_eq_iff.2 hc⟩)
  | none =>
    by_cases ht : t = .customType
    · exact .inl ht
    · exact .inr (.inr ⟨ht, rfl⟩)

namespace Schema

variable {s : Schema}

@[simp] theorem count_customType (s : Schema) : s.count .customType = s.types.length := if_pos rfl

@[simp] theorem count_objectType (s : Schema) (k : ContainerKind) :
    s.count k.objectType = (s.objects k).length := by
  unfold count objectsOf
  rw [if_neg k.objectType_ne_customType, ContainerKind.container?_objectType]
  rfl

/-- No objects are of a type without a container, custom types apart. -/
theorem count_of_container?_eq_none {t : ObjectType} (ht : t ≠ .customType)
    (hc : t.container? = none) : s.count t = 0 := by
  unfold count objectsOf
  rw [if_neg ht, hc]
  rfl

/-- A schema holds something of a type if a container of that type is occupied or if the type is
that of a catalog with custom types. -/
theorem count_ne_zero {t : ObjectType} :
    s.count t ≠ 0 ↔
      (∃ k : ContainerKind, k.objectType = t ∧ s.objects k ≠ []) ∨
        (t = .customType ∧ s.types ≠ []) := by
  rcases t.custom_or_contained with rfl | ⟨k, rfl⟩ | ⟨ht, hc⟩
  · rw [count_customType]
    simp [ContainerKind.objectType_ne_customType]
  · rw [count_objectType]
    constructor
    · intro h
      exact .inl ⟨k, rfl, fun hnil => h (by simp [hnil])⟩
    · rintro (⟨k', hk', h⟩ | ⟨hk, -⟩)
      · rw [ContainerKind.objectType_injective hk'] at h
        simpa using h
      · exact absurd hk k.objectType_ne_customType
  · rw [count_of_container?_eq_none ht hc]
    constructor
    · intro h
      exact absurd rfl h
    · rintro (⟨k, rfl, -⟩ | ⟨h, -⟩)
      · simp at hc
      · exact absurd h ht

/-- The types of which a schema holds anything, and how much. -/
theorem counts_eq (s : Schema) :
    s.counts = ObjectType.all.filterMap fun t =>
      if s.count t = 0 then none else some (t, s.count t) := by
  unfold counts
  induction ObjectType.all with
  | nil => rfl
  | cons t l ih =>
    rw [List.map_cons, List.filter_cons, List.filterMap_cons, ih]
    by_cases h : s.count t = 0 <;> simp [h]

/-- Object types are counted in declaration order, if there are objects of them. -/
theorem counts_keys (s : Schema) :
    s.counts.map Prod.fst = ObjectType.all.filter fun t => s.count t ≠ 0 := by
  unfold counts
  rw [List.filter_map, List.map_map]
  exact List.map_id _

/-- No container is processed twice. -/
theorem occupied_nodup (s : Schema) : s.occupied.Nodup := by
  have hall : ContainerKind.all.Nodup := by decide
  exact hall.filter _

/-- A container that is not processed has no objects. -/
theorem count_eq_zero_of_not_mem_occupied {k : ContainerKind} (hk : k ∉ s.occupied) :
    s.count k.objectType = 0 := by
  rw [count_objectType]
  simpa [mem_occupied] using hk

end Schema

/-! ## Tallies -/

/-- What a pass says about the objects of one type. -/
structure Tally where
  stats : ObjectStats
  /-- The features that are lost with objects of the type. -/
  lost : List UnsupportedFeature

/-- The tally counts each of this many objects of the type once, and what it counts as dropped is
lost. -/
structure Tally.IsFair (y : Tally) (t : ObjectType) (size : Nat) : Prop where
  sourceCount_eq : y.stats.sourceCount = size
  balanced : y.stats.converted + y.stats.skipped + y.stats.dropped = y.stats.sourceCount
  lost_type : ∀ u ∈ y.lost, u.objectType = t
  lost_length : y.lost.length = y.stats.dropped

theorem Tally.isFair_of_lost_nil {stats : ObjectStats} {t : ObjectType} {size : Nat}
    (hsource : stats.sourceCount = size) (hdropped : stats.dropped = 0)
    (hbalanced : stats.converted + stats.skipped = size) : (⟨stats, []⟩ : Tally).IsFair t size where
  sourceCount_eq := hsource
  balanced := by rw [hdropped, hsource, hbalanced, Nat.add_zero]
  lost_type := fun _ hu => absurd hu List.not_mem_nil
  lost_length := hdropped.symm

/-- How many objects of a type are counted as dropped. -/
def Statistics.droppedOf (s : Statistics) (t : ObjectType) : Nat :=
  ((s.lookup t).map ObjectStats.dropped).getD 0

/-- Features of one type are all of that type or none of another. -/
theorem countP_objectType {l : List UnsupportedFeature} {t : ObjectType}
    (h : ∀ u ∈ l, u.objectType = t) (t' : ObjectType) :
    l.countP (·.objectType = t') = if t' = t then l.length else 0 := by
  split
  · next heq =>
    rw [List.countP_eq_length]
    intro u hu
    simp [h u hu, heq]
  · next hne =>
    rw [List.countP_eq_zero]
    intro u hu
    rw [h u hu]
    simpa using Ne.symm hne

/-- Of what is lost with some containers, what is lost with one of them has its type. -/
theorem countP_containers {lost : ContainerKind → List UnsupportedFeature} {l : List ContainerKind}
    (h : ∀ k ∈ l, ∀ u ∈ lost k, u.objectType = k.objectType) (hl : l.Nodup) (k : ContainerKind) :
    (l.flatMap lost).countP (·.objectType = k.objectType) =
      if k ∈ l then (lost k).length else 0 := by
  induction l with
  | nil => rfl
  | cons k' l ih =>
    obtain ⟨hk', hl⟩ := List.nodup_cons.1 hl
    rw [List.flatMap_cons, List.countP_append, countP_objectType (h k' List.mem_cons_self),
      ih (fun k hk => h k (List.mem_cons_of_mem k' hk)) hl]
    by_cases heq : k = k'
    · -- the container stands in the list once, so nothing of its type follows
      subst heq
      rw [if_pos rfl, if_neg hk', if_pos List.mem_cons_self, Nat.add_zero]
    · rw [if_neg fun htype => heq (ContainerKind.objectType_injective htype), Nat.zero_add]
      simp [heq]

/-- An execution that is put together from a tally for the custom types and one for each container
that holds anything. -/
structure Execution.TalliedBy (x : Execution) (s : Schema) (types : Tally)
    (containers : ContainerKind → Tally) : Prop where
  stats : x.stats = .ofEntries ((if s.types.isEmpty then [] else [(.customType, types.stats)]) ++
    s.occupied.map fun k => (k.objectType, (containers k).stats))
  unsupported : x.findings.unsupported =
    types.lost ++ s.occupied.flatMap fun k => (containers k).lost
  strategies : x.strategies.length = types.stats.converted

/-- The statistics and lost features of an execution account for a schema: they have an entry for
each type of which the schema holds anything, every entry counts each object once, what is dropped
is lost, and each converted custom type has a strategy. -/
structure Execution.AccountsFor (x : Execution) (s : Schema) : Prop where
  sourceCounts : (x.stats.map fun entry => (entry.1, entry.2.sourceCount)) = s.counts
  balanced : ∀ entry ∈ x.stats, entry.2.isBalanced = true
  unsupported : ∀ t, x.findings.unsupported.countP (·.objectType = t) = x.stats.droppedOf t
  strategies : x.strategies.length = x.stats.convertedOf .customType

namespace Execution.AccountsFor

variable {x : Execution} {s : Schema}

/-- There are entries for the object types that occur, in declaration order. -/
theorem keys_eq (h : x.AccountsFor s) :
    x.stats.map Prod.fst = ObjectType.all.filter fun t => s.count t ≠ 0 := by
  have hkeys := congrArg (List.map Prod.fst) h.sourceCounts
  rw [List.map_map] at hkeys
  exact hkeys.trans s.counts_keys

theorem keys_nodup (h : x.AccountsFor s) : (x.stats.map Prod.fst).Nodup := by
  have hall : ObjectType.all.Nodup := by decide
  rw [h.keys_eq]
  exact hall.filter _

/-- An object type has an entry exactly if it occurs. -/
theorem mem_keys (h : x.AccountsFor s) (t : ObjectType) :
    t ∈ x.stats.map Prod.fst ↔ s.count t ≠ 0 := by
  rw [h.keys_eq, List.mem_filter, decide_eq_true_iff]
  exact and_iff_right t.mem_all

/-- An entry counts all objects of its type in the source. -/
theorem sourceCount_eq (h : x.AccountsFor s) {entry : ObjectType × ObjectStats}
    (hentry : entry ∈ x.stats) : entry.2.sourceCount = s.count entry.1 := by
  have hmem := List.mem_map_of_mem (f := fun entry => (entry.1, entry.2.sourceCount)) hentry
  rw [h.sourceCounts] at hmem
  obtain ⟨t, -, heq⟩ := List.mem_map.1 (List.mem_of_mem_filter hmem)
  obtain ⟨ht, hcount⟩ := Prod.mk.inj heq
  rw [← hcount, ht]

theorem sourceTotal_eq (h : x.AccountsFor s) : x.stats.sourceTotal = s.total := by
  unfold Statistics.sourceTotal Schema.total
  rw [← h.sourceCounts, List.map_map]
  rfl

end Execution.AccountsFor

namespace Execution.TalliedBy

variable {x : Execution} {s : Schema} {types : Tally} {containers : ContainerKind → Tally}

/-- The entry for a container that is processed is what is said of it; no other container has one.
-/
theorem lookup_container (h : x.TalliedBy s types containers) (k : ContainerKind) :
    x.stats.lookup k.objectType = if k ∈ s.occupied then some (containers k).stats else none := by
  rw [h.stats, Statistics.lookup_ofEntries, lookup_container_entry]
  intro entry hentry
  split at hentry
  · cases hentry
  · rw [List.mem_singleton.1 hentry]

/-- The custom types have an entry unless the catalog is empty. -/
theorem lookup_types (h : x.TalliedBy s types containers) :
    x.stats.lookup .customType = if s.types.isEmpty then none else some types.stats := by
  rw [h.stats, Statistics.lookup_ofEntries, lookup_types_entry]
  split <;> rfl

theorem lookup_other (h : x.TalliedBy s types containers) {t : ObjectType}
    (ht : t ≠ .customType) (hc : t.container? = none) : x.stats.lookup t = none := by
  rw [h.stats, Statistics.lookup_ofEntries, List.lookup_eq_none_iff]
  intro entry hentry
  rcases List.mem_append.1 hentry with hentry | hentry
  · split at hentry
    · cases hentry
    · rw [List.mem_singleton.1 hentry]
      simpa using ht
  · obtain ⟨k, -, rfl⟩ := List.mem_map.1 hentry
    rw [bne_iff_ne]
    rintro rfl
    simp at hc

/-- A fair tally of nothing has lost nothing. -/
theorem lost_eq_nil {y : Tally} {t : ObjectType} {size : Nat} (hy : y.IsFair t size)
    (hsize : size = 0) : y.lost = [] := by
  have hbalanced := hy.balanced
  rw [hy.sourceCount_eq, hsize] at hbalanced
  rw [← List.length_eq_zero_iff, hy.lost_length]
  omega

/-- What is lost with containers is not lost with the custom types. -/
theorem countP_containers_other {t : ObjectType}
    (hcontainers : ∀ k ∈ s.occupied, (containers k).IsFair k.objectType (s.count k.objectType))
    (ht : ∀ k : ContainerKind, k.objectType ≠ t) :
    (s.occupied.flatMap fun k => (containers k).lost).countP (·.objectType = t) = 0 := by
  rw [List.countP_eq_zero]
  intro u hu
  obtain ⟨k, hk, hu⟩ := List.mem_flatMap.1 hu
  rw [(hcontainers k hk).lost_type u hu]
  simpa using ht k

/-- Under each type of which the schema holds anything stands a fair tally, whose lost features are
all that are told of the type; under any other stands nothing, and nothing of it is lost. -/
theorem lookup_fair (h : x.TalliedBy s types containers)
    (htypes : types.IsFair .customType (s.count .customType))
    (hcontainers : ∀ k ∈ s.occupied, (containers k).IsFair k.objectType (s.count k.objectType))
    (t : ObjectType) :
    (s.count t = 0 ∧ x.stats.lookup t = none ∧
        x.findings.unsupported.countP (·.objectType = t) = 0) ∨
      (s.count t ≠ 0 ∧ ∃ y : Tally, y.IsFair t (s.count t) ∧ x.stats.lookup t = some y.stats ∧
        x.findings.unsupported.countP (·.objectType = t) = y.lost.length) := by
  have hlost := countP_objectType htypes.lost_type t
  rw [h.unsupported, List.countP_append, hlost]
  rcases t.custom_or_contained with rfl | ⟨k, rfl⟩ | ⟨ht, hc⟩
  · rw [countP_containers_other hcontainers fun k => k.objectType_ne_customType, h.lookup_types,
      if_pos rfl, Nat.add_zero]
    by_cases hempty : s.types.isEmpty = true
    · have hcount : s.count .customType = 0 := by simpa using hempty
      refine .inl ⟨hcount, if_pos hempty, ?_⟩
      rw [lost_eq_nil htypes hcount]
      rfl
    · have hcount : s.count .customType ≠ 0 := by simpa using hempty
      exact .inr ⟨hcount, types, htypes, if_neg hempty, rfl⟩
  · rw [countP_containers (fun k hk => (hcontainers k hk).lost_type) s.occupied_nodup,
      h.lookup_container, if_neg k.objectType_ne_customType, Nat.zero_add]
    by_cases hk : k ∈ s.occupied
    · rw [if_pos hk, if_pos hk]
      have hcount : s.count k.objectType ≠ 0 := by
        rw [Schema.count_objectType]
        simpa [Schema.mem_occupied] using hk
      exact .inr ⟨hcount, containers k, hcontainers k hk, rfl, rfl⟩
    · rw [if_neg hk, if_neg hk]
      exact .inl ⟨Schema.count_eq_zero_of_not_mem_occupied hk, rfl, rfl⟩
  · have hother : ∀ k : ContainerKind, k.objectType ≠ t := by
      rintro k rfl
      simp at hc
    rw [countP_containers_other hcontainers hother, if_neg ht]
    exact .inl ⟨Schema.count_of_container?_eq_none ht hc, h.lookup_other ht hc, rfl⟩

/-- The statistics list what stands under each type, in declaration order. -/
theorem stats_eq (h : x.TalliedBy s types containers) :
    x.stats =
      ObjectType.all.filterMap fun t => (x.stats.lookup t).map fun stats => (t, stats) := by
  conv_lhs => rw [h.stats]
  unfold Statistics.ofEntries
  refine List.filterMap_congr fun t _ => ?_
  rw [h.stats, Statistics.lookup_ofEntries]

/-- An entry is what is found for its object type, since no other one is. -/
theorem lookup_of_mem (h : x.TalliedBy s types containers) {entry : ObjectType × ObjectStats}
    (hentry : entry ∈ x.stats) : x.stats.lookup entry.1 = some entry.2 := by
  rw [h.stats_eq] at hentry
  obtain ⟨t, -, hmap⟩ := List.mem_filterMap.1 hentry
  obtain ⟨stats, hlookup, rfl⟩ := Option.map_eq_some_iff.1 hmap
  exact hlookup

/-- **Fair tallies account for a schema.** -/
theorem accounts (h : x.TalliedBy s types containers)
    (htypes : types.IsFair .customType (s.count .customType))
    (hcontainers : ∀ k ∈ s.occupied, (containers k).IsFair k.objectType (s.count k.objectType)) :
    x.AccountsFor s where
  sourceCounts := by
    rw [h.stats_eq, List.map_filterMap, Schema.counts_eq]
    refine List.filterMap_congr fun t _ => ?_
    rcases h.lookup_fair htypes hcontainers t with ⟨hcount, hnone, -⟩ | ⟨hcount, y, hy, hsome, -⟩
    · rw [hnone, if_pos hcount]
      rfl
    · rw [hsome, if_neg hcount, ← hy.sourceCount_eq]
      rfl
  balanced := by
    intro entry hentry
    have hlookup := h.lookup_of_mem hentry
    rcases h.lookup_fair htypes hcontainers entry.1 with ⟨-, hnone, -⟩ | ⟨-, y, hy, hsome, -⟩
    · rw [hnone] at hlookup
      cases hlookup
    · have hstats : entry.2 = y.stats := Option.some.inj (hlookup.symm.trans hsome)
      rw [hstats]
      exact decide_eq_true hy.balanced
  unsupported := by
    intro t
    unfold Statistics.droppedOf
    rcases h.lookup_fair htypes hcontainers t with ⟨-, hnone, hlost⟩ | ⟨-, y, hy, hsome, hlost⟩
    · rw [hnone, hlost]
      rfl
    · rw [hsome, hlost, hy.lost_length]
      rfl
  strategies := by
    unfold Statistics.convertedOf
    rw [h.strategies, h.lookup_types]
    split
    · next hempty =>
      -- nothing is converted of an empty catalog
      have hbalanced := htypes.balanced
      have hcount : s.count .customType = 0 := by simpa using hempty
      rw [htypes.sourceCount_eq, hcount] at hbalanced
      show types.stats.converted = 0
      omega
    · rfl

end Execution.TalliedBy

/-! ## The tallies of a conversion -/

/-- What the result for a container says about its objects. -/
def ContainerResult.tally (r : ContainerResult) : Tally := ⟨r.stats, r.findings.unsupported⟩

/-- What the results for custom types say about them. -/
def TypeResult.tally (results : List TypeResult) : Tally where
  stats :=
    { sourceCount := results.length
      converted := results.countP fun r => r.conversion?.isSome
      skipped := results.countP TypeResult.isSkipped
      dropped := results.countP TypeResult.isDropped }
  lost := results.flatMap fun r => r.findings.unsupported

/-- Every custom type is converted, skipped or dropped. -/
theorem TypeResult.countP_fates (results : List TypeResult) :
    (results.countP fun r => r.conversion?.isSome) + results.countP TypeResult.isSkipped +
      results.countP TypeResult.isDropped = results.length := by
  induction results with
  | nil => rfl
  | cons r results ih =>
    simp only [List.countP_cons, List.length_cons, ← ih]
    unfold conversion? isSkipped isDropped
    cases r.fate <;> simp <;> omega

namespace Plan

variable {p : Plan} {s : Schema}

theorem chosen_length_le (p : Plan) (objects : List SchemaObject) :
    (p.chosen objects).length ≤ objects.length := List.length_filter_le _ _

/-- The feature that is lost with an object that a conversion drops. -/
def droppedFeature (p : Plan) (rule : ObjectRule) (o : SchemaObject) : UnsupportedFeature where
  featureType := rule.objectType.name
  objectType := rule.objectType
  objectName := some o.name
  description := p.dropReason rule
  alternatives := rule.alternatives

/-- What is not left out and what is left out are all objects. -/
theorem chosen_add_skipped (p : Plan) (objects : List SchemaObject) :
    (p.chosen objects).length + (objects.length - (p.chosen objects).length) = objects.length :=
  Nat.add_sub_cancel' (p.chosen_length_le objects)

/-- Objects all of which are dropped but for those that are left out, each with one lost
feature. -/
theorem dropped_tally (p : Plan) {objects : List SchemaObject} {t : ObjectType}
    {feature : SchemaObject → UnsupportedFeature} (hfeature : ∀ o, (feature o).objectType = t) :
    (⟨{ sourceCount := objects.length, dropped := (p.chosen objects).length
        skipped := objects.length - (p.chosen objects).length },
      (p.chosen objects).map feature⟩ : Tally).IsFair t objects.length where
  sourceCount_eq := rfl
  balanced := by
    have hchosen := p.chosen_add_skipped objects
    show 0 + (objects.length - (p.chosen objects).length) + (p.chosen objects).length =
      objects.length
    omega
  lost_type := by
    intro u hu
    obtain ⟨o, -, rfl⟩ := List.mem_map.1 hu
    exact hfeature o
  lost_length := List.length_map feature

/-- The conversion of a container counts each object once and loses what it drops. -/
theorem convertContainer_tally {fates : Fates} {k : ContainerKind}
    (hrule : (p.rule k.objectType).objectType = k.objectType) (objects : List SchemaObject) :
    (p.convertContainer fates k objects).tally.IsFair k.objectType objects.length := by
  cases hx : p.preferences.excludesType k.objectType with
  | true =>
    rw [convertContainer_excluded hx]
    exact Tally.isFair_of_lost_nil rfl rfl (Nat.zero_add _)
  | false =>
    cases hd : (p.placement k (p.rule k.objectType)).destination with
    | none =>
      have hlost : (p.convertContainer fates k objects).tally.lost =
          (p.chosen objects).map (p.droppedFeature (p.rule k.objectType)) := by
        rw [convertContainer_dropped hx hd]
        show (p.placement k (p.rule k.objectType)).findings.unsupported ++
          ((p.chosen objects).map (p.dropFindings (p.rule k.objectType))).flatMap
            Findings.unsupported = _
        rw [placement_unsupported, List.nil_append, List.flatMap_map, List.map_eq_flatMap]
        rfl
      have hfair : (⟨{ sourceCount := objects.length, dropped := (p.chosen objects).length
                       skipped := objects.length - (p.chosen objects).length },
          (p.chosen objects).map (p.droppedFeature (p.rule k.objectType))⟩ : Tally).IsFair
            k.objectType objects.length := p.dropped_tally fun _ => hrule
      rw [← hlost] at hfair
      rw [convertContainer_dropped hx hd] at hfair ⊢
      exact hfair
    | some d =>
      have hlost : (p.convertContainer fates k objects).tally.lost = [] := by
        rw [convertContainer_moved hx hd]
        show (p.placement k (p.rule k.objectType)).findings.unsupported ++ [] = []
        rw [placement_unsupported, List.nil_append]
      unfold ContainerResult.tally at hlost ⊢
      dsimp only at hlost
      rw [hlost, convertContainer_moved hx hd]
      exact Tally.isFair_of_lost_nil rfl rfl (p.chosen_add_skipped objects)

/-- The analysis of a container counts each object once and loses what it drops. -/
theorem analyzeContainer_tally {k : ContainerKind}
    (hrule : (p.rule k.objectType).objectType = k.objectType) (objects : List SchemaObject) :
    (p.analyzeContainer k objects).tally.IsFair k.objectType objects.length := by
  unfold analyzeContainer
  dsimp only
  split
  · exact Tally.isFair_of_lost_nil rfl rfl (Nat.zero_add _)
  · split
    · exact p.dropped_tally fun _ => hrule
    · exact Tally.isFair_of_lost_nil rfl rfl (p.chosen_add_skipped objects)

/-- A custom type is lost if it is dropped, and then once. -/
theorem convertType_lost (p : Plan) (t : CustomType) :
    (p.convertType t).findings.unsupported.length =
      if (p.convertType t).isDropped then 1 else 0 := by
  have htreats := p.treats_convertType t
  generalize p.convertType t = result at htreats ⊢
  cases htreats with
  | excluded _ => rfl
  | failed _ _ => rfl
  | refused _ _ =>
    show (p.consentFindings t _).unsupported.length = 0
    rw [consentFindings_unsupported]
    rfl
  | carried _ _ =>
    show ((p.consentFindings t _).unsupported ++ []).length = 0
    rw [consentFindings_unsupported]
    rfl

/-- The conversion of a catalog counts each type once and loses what it drops. -/
theorem convertTypes_tally (p : Plan) (types : List CustomType) :
    (TypeResult.tally (p.convertTypes types)).IsFair .customType types.length where
  sourceCount_eq := List.length_map _
  balanced := TypeResult.countP_fates _
  lost_type := by
    intro u hu
    obtain ⟨r, hr, hu⟩ := List.mem_flatMap.1 hu
    obtain ⟨t, -, rfl⟩ := List.mem_map.1 hr
    exact convertType_unsupported hu
  lost_length := by
    show ((types.map p.convertType).flatMap fun r => r.findings.unsupported).length =
      (types.map p.convertType).countP TypeResult.isDropped
    induction types with
    | nil => rfl
    | cons t types ih =>
      rw [List.map_cons, List.flatMap_cons, List.length_append, ih, convertType_lost,
        List.countP_cons, Nat.add_comm]

/-- The analysis of a catalog takes every type to be converted that is not left out. -/
def analysisTally (p : Plan) (types : List CustomType) : Tally where
  stats :=
    { sourceCount := types.length
      converted := types.countP fun t => !p.excludes t
      skipped := types.countP p.excludes }
  lost := []

/-- What is predicted of the custom types is fair. -/
theorem analysisTally_isFair (p : Plan) (types : List CustomType) :
    (p.analysisTally types).IsFair .customType types.length := by
  refine Tally.isFair_of_lost_nil rfl rfl ?_
  have hsplit := List.length_eq_countP_add_countP p.excludes (l := types)
  simp only [Bool.not_eq_true, Bool.decide_eq_false] at hsplit
  rw [hsplit, Nat.add_comm]

/-! ## Both passes -/

/-- A conversion is put together from the results for the custom types and for the containers. -/
theorem execute_tallied (p : Plan) (s : Schema) :
    (p.execute s).TalliedBy s (TypeResult.tally (p.convertTypes s.types))
      fun k => (p.containerResult s k).tally where
  stats := by
    rw [execute_stats]
    unfold TypeResult.statistics
    rw [show (p.convertTypes s.types).isEmpty = s.types.isEmpty from List.isEmpty_map]
    rfl
  unsupported := by
    rw [execute_findings]
    show [] ++ ((s.types.map fun t => (p.convertType t).findings).flatMap Findings.unsupported) ++
      ((s.occupied.map fun k => (p.containerResult s k).findings).flatMap
        Findings.unsupported) = _
    rw [List.nil_append, List.flatMap_map, List.flatMap_map]
    unfold TypeResult.tally convertTypes
    rw [List.flatMap_map]
    rfl
  strategies := by
    show (((p.convertTypes s.types).filterMap TypeResult.conversion?).map
      CustomConversion.strategy).length = _
    rw [List.length_map, List.length_filterMap_eq_countP]
    rfl

/-- An analysis is put together from what it expects of the catalog and of the containers. -/
theorem analyze_tallied (p : Plan) (s : Schema) :
    (p.analyze s).TalliedBy s (p.analysisTally s.types)
      fun k => (p.analyzeContainer k (s.objects k)).tally where
  stats := p.analyze_stats s
  unsupported := p.analyze_unsupported s
  strategies := by
    show ((s.types.filter fun t => !p.excludes t).map fun t =>
      (StrategyChoice.of t.definition p.types.target).primary).length = _
    rw [List.length_map, ← List.countP_eq_length_filter]
    rfl

section Passes

variable (hrule : ∀ t, (p.rule t).objectType = t)
include hrule

/-- **An execution accounts for the whole schema.** -/
theorem execute_accounts (s : Schema) : (p.execute s).AccountsFor s := by
  refine (p.execute_tallied s).accounts ?_ fun k _ => ?_
  · rw [Schema.count_customType]
    exact p.convertTypes_tally s.types
  · rw [Schema.count_objectType]
    exact convertContainer_tally (hrule _) _

/-- **So does an analysis.** -/
theorem analyze_accounts (s : Schema) : (p.analyze s).AccountsFor s := by
  refine (p.analyze_tallied s).accounts ?_ fun k _ => ?_
  · rw [Schema.count_customType]
    exact p.analysisTally_isFair s.types
  · rw [Schema.count_objectType]
    exact analyzeContainer_tally (hrule _) _

end Passes

end Plan

/-! ## Strategies -/

/-- Each strategy that is used is one of those that are counted. -/
theorem CustomStrategy.sum_count (used : List CustomStrategy) :
    (all.map used.count).sum = used.length := by
  induction used with
  | nil => rfl
  | cons u used ih =>
    have hu : (all.map fun s => if u == s then 1 else 0).sum = 1 := by cases u <;> decide
    simp only [List.count_cons, List.sum_map_add, hu, List.length_cons, ih]

/-- The counts of the strategies in a list add up to its length. -/
theorem CustomStrategy.sum_counts (used : List CustomStrategy) :
    ((counts used).map Prod.snd).sum = used.length := by
  rw [← sum_count]
  unfold counts
  induction all with
  | nil => rfl
  | cons s l ih =>
    rw [List.map_cons, List.filter_cons, List.map_cons, List.sum_cons, ← ih]
    split
    · rw [List.map_cons, List.sum_cons]
    · next hzero =>
      -- a strategy that does not occur adds nothing
      have hcount : used.count s = 0 := by simpa using hzero
      rw [hcount, Nat.zero_add]

namespace ConversionEngine

variable {e : ConversionEngine} {r : ConversionRequest} {c : CompletedConversion}

/-- **Every object is accounted for.** Whatever the mode is in which a request succeeds, its report
has one entry for each type of which the schema holds anything and none for any other; every entry
starts from the number of objects of its type and counts each as converted, skipped or dropped; all
entries together start from the objects of the schema. Of each type as many features are lost as
objects are dropped, and the custom types that are converted are those that have a strategy. -/
theorem convert_accounts (h : e.convert r = .ok c) :
    ∃ s, r.schema = some s ∧
      (c.report.stats.map Prod.fst).Nodup ∧
      (∀ t, t ∈ c.report.stats.map Prod.fst ↔
        (∃ k : ContainerKind, k.objectType = t ∧ s.objects k ≠ []) ∨
          (t = .customType ∧ s.types ≠ [])) ∧
      (∀ entry ∈ c.report.stats, entry.2.sourceCount = s.count entry.1 ∧
        entry.2.converted + entry.2.skipped + entry.2.dropped = entry.2.sourceCount) ∧
      c.report.stats.sourceTotal = s.total ∧
      (∀ t, c.findings.unsupported.countP (·.objectType = t) = c.report.stats.droppedOf t) ∧
      (c.report.strategyCounts.map Prod.snd).sum = c.report.stats.convertedOf .customType := by
  obtain ⟨p, s, hprepare, rfl⟩ := convert_eq_ok.1 h
  have hrule : ∀ t, (p.rule t).objectType = t := by
    intro t
    rw [rule_of_prepare hprepare, ObjectRule.objectType_of]
  have haccounts : ∃ x : Execution, x.AccountsFor s ∧
      (e.carryOut p s).report = e.report p s x ∧ (e.carryOut p s).findings = x.findings := by
    cases hm : p.mode.executes with
    | true =>
      rw [carryOut_executing hm]
      exact ⟨_, p.execute_accounts hrule s, rfl, rfl⟩
    | false =>
      rw [carryOut_analysing hm]
      exact ⟨_, p.analyze_accounts hrule s, rfl, rfl⟩
  obtain ⟨x, hx, hreport, hfindings⟩ := haccounts
  rw [hreport, hfindings]
  refine ⟨s, (prepare_schema hprepare).1, hx.keys_nodup, fun t => ?_, fun entry hentry => ?_,
    hx.sourceTotal_eq, hx.unsupported, ?_⟩
  · exact (hx.mem_keys t).trans Schema.count_ne_zero
  · exact ⟨hx.sourceCount_eq hentry, of_decide_eq_true (hx.balanced entry hentry)⟩
  · exact (CustomStrategy.sum_counts x.strategies).trans hx.strategies

/-- The objects of the shop are accounted for. -/
theorem shop_accounts :
    ∃ c s, Shop.engine.convert Shop.request = .ok c ∧ Shop.request.schema = some s ∧
      (∀ t, t ∈ c.report.stats.map Prod.fst ↔
        (∃ k : ContainerKind, k.objectType = t ∧ s.objects k ≠ []) ∨
          (t = .customType ∧ s.types ≠ [])) ∧
      c.report.stats.sourceTotal = s.total ∧
      (∀ t, c.findings.unsupported.countP (·.objectType = t) = c.report.stats.droppedOf t) ∧
      (c.report.strategyCounts.map Prod.snd).sum = c.report.stats.convertedOf .customType := by
  obtain ⟨c, h, -⟩ := Shop.converts
  obtain ⟨s, hs, -, hkeys, -, htotal, hlost, hstrategies⟩ := convert_accounts h
  exact ⟨c, s, h, hs, hkeys, htotal, hlost, hstrategies⟩

end ConversionEngine

end SchemaConversion
