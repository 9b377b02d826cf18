import SchemaConversion.Proofs.CustomType.Resolution
import SchemaConversion.Proofs.Conversion.Preparation
import SchemaConversion.Proofs.Conversion.Questions
import Mathlib.Data.List.Basic

/-!
# An analysis predicts the conversion

An analysis goes by the rules and the primary strategies alone, a conversion by decisions and by
what becomes of each type as well. Container by container, both count alike and lose the same:

> `convert_predicted`: unless an answer drops what is emulated, the statistics of the containers and
> the unsupported features are as predicted; if besides every type takes its primary strategy, those
> of the custom types are too.
-/

namespace SchemaConversion

/-- Whatever has nothing to stand in for it says why it is dropped. -/
theorem ObjectRule.of_drop {t : ObjectType} {state? : Option SupportState}
    (h : (ObjectRule.of t state?).action = .drop) :
    (ObjectRule.of t state?).alternatives = [] ∧
      (ObjectRule.of t state?).notes.isEmpty = false := by
  cases state? with
  | none => exact ⟨rfl, rfl⟩
  | some state =>
    cases state with
    | full => cases h
    | limited alternatives note => cases h
    | unsupported alternatives note =>
      cases alternatives with
      | nil => exact ⟨rfl, rfl⟩
      | cons a rest => cases h

namespace Plan

variable {p : Plan} {s : Schema}

/-! ## Answers that change a prediction -/

/-- The answer that stands under an identifier, as it is read. -/
def answer? (p : Plan) (id : String) : Option String :=
  (p.preferences.decisions.find? id).map fun written => Text.lowerCase (Text.trim written)

/-- No answer drops the objects of a container that is emulated. -/
def KeepsEmulated (p : Plan) : Prop :=
  ∀ k : ContainerKind, (p.rule k.objectType).action = .emulate →
    p.answer? ("emulate." ++ k.name) ≠ some dropAnswer

/-- A type that is not left out is converted by its primary strategy, and no answer skips it. -/
def TakesPrimary (p : Plan) (t : CustomType) : Prop :=
  p.excludes t = false →
    (∃ c, p.custom.resolve t = .ok c ∧ c.usedFallback = false) ∧
      p.answer? ("custom_type." ++ t.name) ≠ some skipAnswer

/-- A decision falls in a certain way only if that is the standard or was answered. -/
theorem decide_answer_ne {d : PendingDecision} {answer : String} (hstandard : d.standard ≠ answer)
    (hanswer : p.answer? d.id ≠ some answer) : (p.decide d).answer ≠ answer := by
  unfold decide
  unfold answer? at hanswer
  cases hd : p.preferences.decisions.find? d.id with
  | none => exact hstandard
  | some written =>
    rw [hd] at hanswer
    dsimp only
    split
    · exact fun heq => hanswer (congrArg some heq)
    · exact hstandard

/-- The standard answer drops no objects. -/
theorem emulationDecision_standard (p : Plan) (k : ContainerKind)
    (containers : List ContainerKind) :
    (p.emulationDecision k containers).standard ≠ dropAnswer := by
  cases containers with
  | nil =>
    show keepAnswer ≠ dropAnswer
    decide
  | cons c rest =>
    show c.name ≠ dropAnswer
    cases c <;> decide

theorem consentDecision_standard (p : Plan) (t : CustomType) (c : CustomConversion) :
    (p.consentDecision t c).standard ≠ skipAnswer := by
  show c.strategy.name ≠ skipAnswer
  cases c.strategy <;> decide

/-! ## Containers -/

section Containers

variable {k : ContainerKind} {fates : Fates} {objects : List SchemaObject}

/-- Unless an answer drops them, objects are dropped only if their rule says so. -/
theorem placement_destination {rule : ObjectRule}
    (hanswer : rule.action = .emulate → p.answer? ("emulate." ++ k.name) ≠ some dropAnswer) :
    (p.placement k rule).destination = none ↔ rule.action = .drop := by
  cases ha : rule.action with
  | direct => rw [placement_direct ha]; simp
  | drop => rw [placement_drop ha]; simp
  | emulate =>
    have hne : (p.decide (p.emulationQuestion k rule)).answer ≠ dropAnswer :=
      decide_answer_ne (p.emulationDecision_standard k _) (hanswer ha)
    rw [placement_emulate ha]
    unfold answered
    rw [if_neg hne]
    simp

/-- What a rule lets go is described alike by both passes. -/
theorem dropFindings_unsupported {rule : ObjectRule} (halternatives : rule.alternatives = [])
    (hnotes : rule.notes.isEmpty = false) (l : List SchemaObject) :
    (Findings.join (l.map (p.dropFindings rule))).unsupported = l.map (lostFeature rule) := by
  have hobject : ∀ o, (p.dropFindings rule o).unsupported = [lostFeature rule o] := by
    intro o
    unfold dropFindings dropReason lostFeature
    simp [halternatives, hnotes]
  show (l.map (p.dropFindings rule)).flatMap Findings.unsupported = _
  rw [List.flatMap_map, List.map_eq_flatMap]
  simp only [hobject]

/-- A decision says of nothing that it is unsupported. -/
theorem decide_unsupported (p : Plan) (d : PendingDecision) :
    (p.decide d).findings.unsupported = [] := by
  unfold decide
  split
  · dsimp only
    split <;> rfl
  · rfl

theorem placement_unsupported (p : Plan) (k : ContainerKind) (rule : ObjectRule) :
    (p.placement k rule).findings.unsupported = [] := by
  rw [placement_findings]
  split
  · exact p.decide_unsupported _
  · rfl

/-- A container is converted as predicted: the objects are counted alike, and the same are lost. -/
theorem convertContainer_predicted
    (hrule : p.rule k.objectType = .of k.objectType (p.targetFeatures.support k.objectType))
    (hanswer : (p.rule k.objectType).action = .emulate →
      p.answer? ("emulate." ++ k.name) ≠ some dropAnswer) :
    (p.convertContainer fates k objects).stats = (p.analyzeContainer k objects).stats ∧
      (p.convertContainer fates k objects).findings.unsupported =
        (p.analyzeContainer k objects).findings.unsupported := by
  cases hx : p.preferences.excludesType k.objectType with
  | true =>
    rw [convertContainer_excluded hx]
    unfold analyzeContainer
    rw [if_pos hx]
    exact ⟨rfl, rfl⟩
  | false =>
    have hdestination := placement_destination (p := p) (k := k) hanswer
    unfold analyzeContainer
    rw [if_neg (by simp [hx])]
    dsimp only
    cases hd : (p.placement k (p.rule k.objectType)).destination with
    | none =>
      -- no answer drops the objects, so the rule does, and then it has a note and nothing else
      have haction := hdestination.1 hd
      have hof := ObjectRule.of_drop (hrule ▸ haction)
      rw [← hrule] at hof
      rw [convertContainer_dropped hx hd, if_pos haction]
      refine ⟨rfl, ?_⟩
      show (p.placement k (p.rule k.objectType)).findings.unsupported ++
        (Findings.join ((p.chosen objects).map
          (p.dropFindings (p.rule k.objectType)))).unsupported = _
      rw [placement_unsupported, dropFindings_unsupported hof.1 hof.2]
      rfl
    | some d =>
      have haction : ¬(p.rule k.objectType).action = .drop := by
        intro ha
        rw [hdestination.2 ha] at hd
        cases hd
      rw [convertContainer_moved hx hd, if_neg haction]
      refine ⟨rfl, ?_⟩
      show (p.placement k (p.rule k.objectType)).findings.unsupported ++ [] = _
      rw [placement_unsupported]
      rfl

end Containers

/-- In a conversion as in an analysis, the statistics of a container are those of its result. -/
theorem execute_stats_predicted (hrule : ∀ t, p.rule t = .of t (p.targetFeatures.support t))
    (hkeeps : p.KeepsEmulated) (k : ContainerKind) :
    (p.execute s).stats.lookup k.objectType = (p.analyze s).stats.lookup k.objectType := by
  rw [execute_stats_container, analyze_stats_container]
  unfold containerResult
  rw [(convertContainer_predicted (hrule _) (hkeeps k)).1]

/-- With consent nothing is lost, nor without. -/
theorem consentFindings_unsupported (p : Plan) (t : CustomType) (c : CustomConversion) :
    (p.consentFindings t c).unsupported = [] := by
  unfold consentFindings
  split
  · exact p.decide_unsupported _
  · rfl

/-- What is lost with a type is a custom type. -/
theorem convertType_unsupported {t : CustomType} {u : UnsupportedFeature}
    (hu : u ∈ (p.convertType t).findings.unsupported) : u.objectType = .customType := by
  have htreats := p.treats_convertType t
  generalize p.convertType t = result at hu htreats
  cases htreats with
  | excluded _ => cases hu
  | failed _ _ => rw [List.mem_singleton.1 hu]
  -- no type that is converted or skipped is lost
  | refused _ _ =>
    rw [consentFindings_unsupported] at hu
    cases hu
  | carried _ _ =>
    rcases List.mem_append.1 hu with hu | hu
    · rw [consentFindings_unsupported] at hu
      cases hu
    · cases hu

/-- What is lost with a container is of its type. -/
theorem analyzeContainer_unsupported
    {k : ContainerKind} (hrule : (p.rule k.objectType).objectType = k.objectType)
    {objects : List SchemaObject} {u : UnsupportedFeature}
    (hu : u ∈ (p.analyzeContainer k objects).findings.unsupported) :
    u.objectType = k.objectType := by
  unfold analyzeContainer at hu
  dsimp only at hu
  split at hu
  · cases hu
  · split at hu
    · obtain ⟨o, -, rfl⟩ := List.mem_map.1 hu
      exact hrule
    · cases hu

/-- An analysis tells of the features that are lost with containers. -/
theorem analyze_unsupported (p : Plan) (s : Schema) :
    (p.analyze s).findings.unsupported =
      s.occupied.flatMap fun k => (p.analyzeContainer k (s.objects k)).findings.unsupported := by
  show [] ++ (((s.occupied.map fun k => p.analyzeContainer k (s.objects k)).map
    ContainerResult.findings).flatMap Findings.unsupported) = _
  rw [List.nil_append, List.map_map, List.flatMap_map]
  rfl

/-- The features that a conversion loses besides custom types are the ones predicted. -/
theorem execute_unsupported_predicted
    (hrule : ∀ t, p.rule t = .of t (p.targetFeatures.support t)) (hkeeps : p.KeepsEmulated) :
    (p.execute s).findings.unsupported.filter (·.objectType ≠ .customType) =
      (p.analyze s).findings.unsupported := by
  have htypes : (s.types.flatMap fun t => (p.convertType t).findings.unsupported).filter
      (·.objectType ≠ .customType) = [] := by
    rw [List.filter_eq_nil_iff]
    intro u hu
    obtain ⟨t, -, hu⟩ := List.mem_flatMap.1 hu
    simp [convertType_unsupported hu]
  have hcontainers : (s.occupied.flatMap fun k => (p.containerResult s k).findings.unsupported) =
      (p.analyze s).findings.unsupported := by
    rw [analyze_unsupported]
    congr 1
    funext k
    exact (convertContainer_predicted (hrule _) (hkeeps k)).2
  have hparts : (p.execute s).findings.unsupported =
      (s.types.flatMap fun t => (p.convertType t).findings.unsupported) ++
        s.occupied.flatMap fun k => (p.containerResult s k).findings.unsupported := by
    rw [execute_findings]
    show [] ++ ((s.types.map fun t => (p.convertType t).findings).flatMap Findings.unsupported) ++
      ((s.occupied.map fun k => (p.containerResult s k).findings).flatMap
        Findings.unsupported) = _
    rw [List.nil_append, List.flatMap_map, List.flatMap_map]
  rw [hparts, List.filter_append, htypes, List.nil_append, hcontainers, List.filter_eq_self]
  -- what is left is lost with containers, none of which holds custom types
  intro u hu
  rw [analyze_unsupported] at hu
  obtain ⟨k, -, hu⟩ := List.mem_flatMap.1 hu
  have hkind : (p.rule k.objectType).objectType = k.objectType := by
    rw [hrule, ObjectRule.objectType_of]
  rw [analyzeContainer_unsupported hkind hu]
  simpa using k.objectType_ne_customType

/-! ## Custom types -/

/-- What becomes of a type that takes its primary strategy. -/
theorem convertType_predicted {t : CustomType} (h : p.TakesPrimary t) :
    (p.convertType t).isSkipped = p.excludes t ∧ (p.convertType t).isDropped = false ∧
      (p.convertType t).conversion?.map CustomConversion.strategy =
        if p.excludes t then none
        else some (StrategyChoice.of t.definition p.custom.target).primary := by
  cases hx : p.excludes t with
  | true =>
    rw [convertType_excluded hx]
    exact ⟨rfl, rfl, rfl⟩
  | false =>
    obtain ⟨⟨c, hc, hprimary⟩, hskip⟩ := h hx
    have hfate : (p.convertType t).fate = .converted c := by
      cases hr : c.rendition.requiresUserInput with
      | false => rw [convertType_plain hx hc hr]
      | true =>
        have hne : (p.decide (p.consentDecision t c)).answer ≠ skipAnswer :=
          decide_answer_ne (p.consentDecision_standard t c) hskip
        rw [convertType_asked hx hc hr, if_neg hne]
    have hstrategy := CustomConverter.resolve_primary hc hprimary
    unfold TypeResult.isSkipped TypeResult.isDropped TypeResult.conversion?
    rw [hfate]
    exact ⟨rfl, rfl, congrArg some hstrategy⟩

/-- The statistics of types that take their primary strategy are predicted. -/
theorem execute_types_predicted (h : ∀ t ∈ s.types, p.TakesPrimary t) :
    (p.execute s).stats.lookup .customType = (p.analyze s).stats.lookup .customType := by
  -- each count over the results is a count over the catalog
  have hconverted : (p.convertTypes s.types).countP (fun r => r.conversion?.isSome) =
      s.types.countP fun t => !p.excludes t := by
    unfold convertTypes
    rw [List.countP_map]
    refine List.countP_congr fun t ht => ?_
    have hstrategy := congrArg Option.isSome (convertType_predicted (h t ht)).2.2
    rw [Option.isSome_map] at hstrategy
    rw [Function.comp_apply, hstrategy]
    cases p.excludes t <;> simp
  have hskipped : (p.convertTypes s.types).countP TypeResult.isSkipped =
      s.types.countP p.excludes := by
    unfold convertTypes
    rw [List.countP_map]
    refine List.countP_congr fun t ht => ?_
    rw [Function.comp_apply, (convertType_predicted (h t ht)).1]
  have hdropped : (p.convertTypes s.types).countP TypeResult.isDropped = 0 := by
    unfold convertTypes
    rw [List.countP_map, List.countP_eq_zero]
    intro t ht
    rw [Function.comp_apply, (convertType_predicted (h t ht)).2.1]
    decide
  rw [execute_stats_types, analyze_stats_types]
  unfold TypeResult.statistics analyzeTypes
  rw [hconverted, hskipped, hdropped]
  unfold convertTypes
  rw [List.length_map, List.isEmpty_map]

/-- So are the strategies that they take. -/
theorem execute_strategies_predicted (htypes : p.custom.types = p.types)
    (h : ∀ t ∈ s.types, p.TakesPrimary t) :
    (p.execute s).strategies = (p.analyze s).strategies := by
  have htarget : p.custom.target = p.types.target := congrArg TypeConverter.target htypes
  show ((s.types.map p.convertType).filterMap TypeResult.conversion?).map
      CustomConversion.strategy =
    (s.types.filter fun t => !p.excludes t).map fun t =>
      (StrategyChoice.of t.definition p.types.target).primary
  rw [← htarget, List.filterMap_map, List.map_filterMap, ← List.filterMap_eq_map,
    List.filterMap_filter]
  refine List.filterMap_congr fun t ht => ?_
  rw [Function.comp_apply, (convertType_predicted (h t ht)).2.2]
  cases p.excludes t <;> rfl

end Plan

namespace ConversionEngine

variable {e : ConversionEngine} {r : ConversionRequest} {c : CompletedConversion}

/-- **An analysis predicts the conversion.** For a request that succeeds, the analysis and the
automatic conversion have the same statistics of every container and lose the same features besides
custom types, unless an answer drops what is emulated. If every type that is not left out takes its
primary strategy and is not skipped, they agree on the custom types as well. -/
theorem convert_predicted (h : e.convert r = .ok c) :
    ∃ p s a x, e.prepare r = .ok (p, s) ∧ e.convert (r.inMode .analysisOnly) = .ok a ∧
      e.convert (r.inMode .automatic) = .ok x ∧
      (p.KeepsEmulated →
        (∀ k : ContainerKind,
          a.report.stats.lookup k.objectType = x.report.stats.lookup k.objectType) ∧
        a.findings.unsupported = x.findings.unsupported.filter (·.objectType ≠ .customType)) ∧
      ((∀ t ∈ s.types, p.TakesPrimary t) →
        a.report.stats.lookup .customType = x.report.stats.lookup .customType ∧
          a.report.strategyCounts = x.report.strategyCounts) := by
  obtain ⟨p, s, hprepare, -⟩ := convert_eq_ok.1 h
  have hrule := rule_of_prepare hprepare
  have htypes := (plan_of_prepare hprepare).2.2
  refine ⟨p, s, e.carryOut (p.inMode .analysisOnly) s, e.carryOut (p.inMode .automatic) s, hprepare,
    by rw [convert_inMode, hprepare, map_ok], by rw [convert_inMode, hprepare, map_ok], ?_⟩
  rw [carryOut_analysing (p := p.inMode .analysisOnly) rfl,
    carryOut_executing (p := p.inMode .automatic) rfl]
  refine ⟨fun hkeeps => ⟨fun k => ?_, ?_⟩, fun hprimary => ⟨?_, ?_⟩⟩
  · exact (Plan.execute_stats_predicted (p := p.inMode .automatic) hrule hkeeps k).symm
  · exact (Plan.execute_unsupported_predicted (p := p.inMode .automatic) hrule hkeeps).symm
  · exact (Plan.execute_types_predicted (p := p.inMode .automatic) hprimary).symm
  · exact congrArg CustomStrategy.counts
      (Plan.execute_strategies_predicted (p := p.inMode .automatic) htypes hprimary).symm

/-- The conversion of the shop is predicted. -/
theorem shop_predicted :
    ∃ c a x, Shop.engine.convert Shop.request = .ok c ∧
      Shop.engine.convert (Shop.request.inMode .analysisOnly) = .ok a ∧
      Shop.engine.convert (Shop.request.inMode .automatic) = .ok x ∧
      (∀ k : ContainerKind,
        a.report.stats.lookup k.objectType = x.report.stats.lookup k.objectType) ∧
      a.findings.unsupported = x.findings.unsupported.filter (·.objectType ≠ .customType) ∧
      a.report.stats.lookup .customType = x.report.stats.lookup .customType ∧
      a.report.strategyCounts = x.report.strategyCounts := by
  obtain ⟨c, h, -⟩ := Shop.converts
  obtain ⟨p, s, a, x, hprepare, ha, hx, hcontainers, htypes⟩ := convert_predicted h
  have hanswers : ∀ id, p.answer? id = none := by
    intro id
    unfold Plan.answer?
    rw [(plan_of_prepare hprepare).1]
    rfl
  have hprimary : (Shop.engine.prepare Shop.request).toOption.any (fun x => decide
      (∀ t ∈ x.2.types, (x.1.custom.resolve t).toOption.any (fun c => !c.usedFallback) = true)) =
      true := by decide +kernel
  rw [hprepare] at hprimary
  have hkeeps : p.KeepsEmulated := fun k _ => by simp [hanswers]
  have htakes : ∀ t ∈ s.types, p.TakesPrimary t := by
    intro t ht _
    obtain ⟨c, hc, hf⟩ := exists_ok (of_decide_eq_true hprimary t ht)
    exact ⟨⟨c, hc, by simpa using hf⟩, by simp [hanswers]⟩
  exact ⟨c, a, x, h, ha, hx, (hcontainers hkeeps).1, (hcontainers hkeeps).2, (htypes htakes).1,
    (htypes htakes).2⟩

end ConversionEngine

end SchemaConversion
