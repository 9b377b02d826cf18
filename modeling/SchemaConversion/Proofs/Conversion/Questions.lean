import SchemaConversion.Proofs.Conversion.Containers
import SchemaConversion.Proofs.Conversion.Findings

/-!
# The questions of a conversion

What a user could be asked in the course of a conversion is known beforehand: `Plan.questions`
depends neither on the mode nor on the answers. What decisions have to tell is what the decisions
of these questions have to tell, one after the other:

> `execute_ofDecisions`: the refused answers and open questions of a conversion are those of its
> questions.
-/

namespace SchemaConversion

namespace Plan

/-! ## Single decisions -/

/-- The question is asked in this mode, and no answer to it is there. -/
def leavesOpen (p : Plan) (d : PendingDecision) : Bool :=
  p.mode = .interactive && (p.preferences.decisions.find? d.id).isNone

/-- A question is pending exactly if it is left open. -/
theorem decide_pending (p : Plan) (d : PendingDecision) :
    (p.decide d).findings.pending = if p.leavesOpen d then [d] else [] := by
  unfold decide leavesOpen
  cases p.preferences.decisions.find? d.id with
  | none => by_cases h : p.mode = .interactive <;> simp [h]
  | some written =>
    dsimp only
    split <;> simp [Findings.none, Findings.ofWarnings]

/-- All that a decision has to tell is made by decisions. -/
theorem decide_ofDecisions (p : Plan) (d : PendingDecision) :
    (p.decide d).findings.ofDecisions = (p.decide d).findings := by
  unfold decide
  cases p.preferences.decisions.find? d.id with
  | none => rfl
  | some written =>
    dsimp only
    split <;> rfl

/-! ## What could be asked -/

/-- The question about a custom type, if its conversion needs consent. -/
def typeQuestion? (p : Plan) (t : CustomType) : Option PendingDecision :=
  if p.excludes t then none
  else
    match p.custom.resolve t with
    | .error _ => none
    | .ok c => if c.rendition.requiresUserInput then some (p.consentDecision t c) else none

/-- There is a question about a type whose conversion needs consent. -/
theorem typeQuestion?_asked {p : Plan} {t : CustomType} {c : CustomConversion}
    (hx : p.excludes t = false) (hc : p.custom.resolve t = .ok c)
    (hu : c.rendition.requiresUserInput = true) :
    p.typeQuestion? t = some (p.consentDecision t c) := by
  unfold typeQuestion?
  rw [if_neg (by simp [hx]), hc]
  exact if_pos hu

/-- The question about a container, if its object type is emulated. -/
def containerQuestion? (p : Plan) (k : ContainerKind) : Option PendingDecision :=
  if p.preferences.excludesType k.objectType then none
  else
    if (p.rule k.objectType).action = .emulate then
      some (p.emulationQuestion k (p.rule k.objectType))
    else none

/-- There is a question about a container if its type is emulated. -/
theorem containerQuestion?_included {p : Plan} {k : ContainerKind}
    (hx : p.preferences.excludesType k.objectType = false) :
    p.containerQuestion? k =
      if (p.rule k.objectType).action = .emulate then
        some (p.emulationQuestion k (p.rule k.objectType))
      else none :=
  if_neg (by simp [hx])

/-- All questions of a conversion, in the order in which they come up. -/
def questions (p : Plan) (s : Schema) : List PendingDecision :=
  s.types.filterMap p.typeQuestion? ++ s.occupied.filterMap p.containerQuestion?

/-- What the decision of a question has to tell, if there is a question. -/
def told (p : Plan) (question? : Option PendingDecision) : Findings :=
  (question?.map fun d => (p.decide d).findings).getD .none

theorem join_told {α : Type} (p : Plan) (question? : α → Option PendingDecision) (l : List α) :
    Findings.join (l.map fun x => p.told (question? x)) =
      .join ((l.filterMap question?).map fun d => (p.decide d).findings) := by
  induction l with
  | nil => rfl
  | cons x l ih =>
    rw [List.map_cons, Findings.join_cons, ih, List.filterMap_cons]
    cases hx : question? x with
    | none => exact Findings.none_append _
    | some d => rfl

/-! ## Who tells of decisions -/

/-- What is known beforehand is not decided. -/
theorem findings_ofDecisions (p : Plan) : p.findings.ofDecisions = .none := by
  refine Findings.ofDecisions_ofWarnings fun w hw => ?_
  rcases List.mem_append.1 hw with hw | hw
  · obtain ⟨limitation, -, rfl⟩ := List.mem_map.1 hw
    rfl
  · split at hw
    · rw [List.mem_singleton.1 hw]
      rfl
    · cases hw

/-- What the conversion of a type has to tell is not decided. -/
theorem conversionFindings_ofDecisions (p : Plan) (t : CustomType) (c : CustomConversion) :
    (p.conversionFindings t c).ofDecisions = .none := by
  refine Findings.ofDecisions_ofWarnings fun w hw => ?_
  rcases List.mem_append.1 hw with hw | hw
  · obtain ⟨message, -, rfl⟩ := List.mem_map.1 hw
    rfl
  · split at hw
    · cases hw
    · obtain ⟨table, -, rfl⟩ := List.mem_map.1 hw
      rfl

/-- The conversion of a type tells of the decision about it and of no other. -/
theorem convertType_ofDecisions (p : Plan) (t : CustomType) :
    (p.convertType t).findings.ofDecisions = p.told (p.typeQuestion? t) := by
  cases hx : p.excludes t with
  | true =>
    have hq : p.typeQuestion? t = none := if_pos hx
    rw [convertType_excluded hx, hq]
    rfl
  | false =>
    cases hc : p.custom.resolve t with
    | error error =>
      have hq : p.typeQuestion? t = none := by simp [typeQuestion?, hx, hc]
      rw [convertType_failed hx hc, hq]
      rfl
    | ok c =>
      cases hu : c.rendition.requiresUserInput with
      | false =>
        have hq : p.typeQuestion? t = none := by simp [typeQuestion?, hx, hc, hu]
        rw [convertType_plain hx hc hu, hq]
        exact conversionFindings_ofDecisions p t c
      | true =>
        rw [convertType_asked hx hc hu, typeQuestion?_asked hx hc hu]
        -- skipped or not, the decision is told; what the conversion adds is not decided
        split
        · exact decide_ofDecisions p _
        · rw [Findings.ofDecisions_append, conversionFindings_ofDecisions, Findings.append_none]
          exact decide_ofDecisions p _

/-- A field is converted without a decision. -/
theorem convertField_isRefusal {p : Plan} {fates : Fates} {t : ObjectType} {name : String}
    {f : Field} {w : ConversionWarning} (hw : w ∈ (p.convertField fates t name f).warnings) :
    w.isRefusal = false := by
  unfold convertField at hw
  split at hw
  · cases hw
  · rw [List.mem_singleton.1 hw]
    rfl
  · rw [List.mem_singleton.1 hw]
    rfl
  · unfold convertPrimitive at hw
    split at hw
    · dsimp only at hw
      split at hw
      · rw [List.mem_singleton.1 hw]
        rfl
      · cases hw
    · rw [List.mem_singleton.1 hw]
      rfl

/-- An object is converted without a decision. -/
theorem moveObject_isRefusal {p : Plan} {fates : Fates} {k d : ContainerKind} {rule : ObjectRule}
    {o : SchemaObject} {w : ConversionWarning}
    (hw : w ∈ (p.moveObject fates k d rule o).warnings) : w.isRefusal = false := by
  have hfields : ∀ w ∈ (p.convertObject fates k.objectType o).warnings, w.isRefusal = false := by
    intro w hw
    obtain ⟨part, hpart, hw⟩ := List.mem_flatMap.1 hw
    obtain ⟨f, -, rfl⟩ := List.mem_map.1 hpart
    exact convertField_isRefusal hw
  unfold moveObject at hw
  dsimp only at hw
  split at hw
  · rcases List.mem_cons.1 hw with rfl | hw
    · rfl
    · exact hfields w hw
  · exact hfields w hw

/-- A placement tells what its decision tells, if it takes one. -/
theorem placement_findings (p : Plan) (k : ContainerKind) (rule : ObjectRule) :
    (p.placement k rule).findings =
      if rule.action = .emulate then (p.decide (p.emulationQuestion k rule)).findings
      else .none := by
  cases ha : rule.action with
  | direct => rw [placement_direct ha]; rfl
  | drop => rw [placement_drop ha]; rfl
  | emulate => rw [placement_emulate ha]; rfl

/-- The conversion of a container tells of the decision about it and of no other. -/
theorem convertContainer_ofDecisions (p : Plan) (fates : Fates) (k : ContainerKind)
    (objects : List SchemaObject) :
    (p.convertContainer fates k objects).findings.ofDecisions =
      p.told (p.containerQuestion? k) := by
  cases hx : p.preferences.excludesType k.objectType with
  | true =>
    have hq : p.containerQuestion? k = none := if_pos hx
    rw [convertContainer_excluded hx, hq]
    rfl
  | false =>
    have hplacement : (p.placement k (p.rule k.objectType)).findings.ofDecisions =
        p.told (p.containerQuestion? k) := by
      rw [containerQuestion?_included hx, placement_findings]
      split
      · exact decide_ofDecisions p _
      · rfl
    rw [← hplacement]
    cases hd : (p.placement k (p.rule k.objectType)).destination with
    -- the warnings about objects that are dropped are no refusals
    | none =>
      rw [convertContainer_dropped hx hd, Findings.ofDecisions_append, Findings.ofDecisions_join,
        Findings.join_eq_none, Findings.append_none]
      intro f hf
      obtain ⟨_, hdrop, rfl⟩ := List.mem_map.1 hf
      obtain ⟨o, -, rfl⟩ := List.mem_map.1 hdrop
      rfl
    -- neither are those about objects that are converted
    | some d =>
      rw [convertContainer_moved hx hd, Findings.ofDecisions_append,
        Findings.ofDecisions_ofWarnings, Findings.append_none]
      intro w hw
      obtain ⟨conversion, hconversion, hw⟩ := List.mem_flatMap.1 hw
      obtain ⟨o, -, rfl⟩ := List.mem_map.1 hconversion
      exact moveObject_isRefusal hw

/-- **What an execution tells** is what is known beforehand, then what the types have to tell and
then the containers. -/
theorem execute_findings (p : Plan) (s : Schema) :
    (p.execute s).findings =
      p.findings ++ .join (s.types.map fun t => (p.convertType t).findings) ++
        .join (s.occupied.map fun k => (p.containerResult s k).findings) := by
  show p.findings ++ .join ((s.types.map p.convertType).map TypeResult.findings) ++
    .join ((s.occupied.map (p.containerResult s)).map ContainerResult.findings) = _
  rw [List.map_map, List.map_map]
  rfl

/-- **The decisions of a conversion.** Its refused answers and open questions are those of its
questions, one after the other. -/
theorem execute_ofDecisions (p : Plan) (s : Schema) :
    (p.execute s).findings.ofDecisions =
      .join ((p.questions s).map fun d => (p.decide d).findings) := by
  have htypes : (Findings.join (s.types.map fun t => (p.convertType t).findings)).ofDecisions =
      .join ((s.types.filterMap p.typeQuestion?).map fun d => (p.decide d).findings) := by
    rw [Findings.ofDecisions_join, List.map_map, ← join_told]
    congr 1
    exact List.map_congr_left fun t _ => p.convertType_ofDecisions t
  have hcontainers :
      (Findings.join (s.occupied.map fun k => (p.containerResult s k).findings)).ofDecisions =
        .join ((s.occupied.filterMap p.containerQuestion?).map fun d => (p.decide d).findings) := by
    rw [Findings.ofDecisions_join, List.map_map, ← join_told]
    congr 1
    exact List.map_congr_left fun k _ => p.convertContainer_ofDecisions _ k _
  -- what is known before the first step was not decided
  rw [execute_findings, Findings.ofDecisions_append, Findings.ofDecisions_append,
    findings_ofDecisions, Findings.none_append, htypes, hcontainers, ← Findings.join_append,
    ← List.map_append]
  rfl

/-- A conversion leaves those of its questions open that it asks and that are not answered. -/
theorem execute_pending (p : Plan) (s : Schema) :
    (p.execute s).findings.pending = (p.questions s).filter p.leavesOpen := by
  have hdecisions : (p.execute s).findings.pending =
      ((p.questions s).map fun d => (p.decide d).findings).flatMap Findings.pending :=
    congrArg Findings.pending (p.execute_ofDecisions s)
  rw [hdecisions, List.flatMap_map]
  simp only [decide_pending]
  induction p.questions s with
  | nil => rfl
  | cons d l ih =>
    rw [List.flatMap_cons, ih, List.filter_cons]
    split <;> rfl

end Plan

end SchemaConversion
