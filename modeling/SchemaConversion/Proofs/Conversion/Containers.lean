import SchemaConversion.Proofs.Conversion.Findings
import SchemaConversion.Proofs.Conversion.Statistics

/-!
# What becomes of a type and of a container

The conversion of a custom type ends in one of four ways, that of a container in one of three; each
way has an equation here, and all else is said by them. Once it is settled where the objects of a
container go, everything about its result follows: the objects that are not left out are converted
and go there together, or are dropped together, and each of them is counted once.
-/

namespace SchemaConversion

namespace Plan

variable {p : Plan}

/-! ## Custom types -/

section Types

variable {t : CustomType} {c : CustomConversion}

/-- A type that is excluded is left out, and nothing is told of it. -/
theorem convertType_excluded (hx : p.excludes t = true) :
    p.convertType t = { type := t, fate := .skipped "excluded by request" } := by
  unfold convertType
  rw [if_pos hx]

/-- A type for which no strategy works is dropped. -/
theorem convertType_failed {error : ConversionError} (hx : p.excludes t = false)
    (hc : p.custom.resolve t = .error error) : p.convertType t = dropType t error := by
  unfold convertType
  rw [if_neg (by simp [hx]), hc]

/-- Any other type is converted, if its conversion needs no consent. -/
theorem convertType_plain (hx : p.excludes t = false) (hc : p.custom.resolve t = .ok c)
    (hu : c.rendition.requiresUserInput = false) :
    p.convertType t =
      { type := t, fate := .converted c, findings := p.conversionFindings t c } := by
  unfold convertType
  rw [if_neg (by simp [hx]), hc]
  exact if_neg (by simp [hu])

/-- A conversion that needs consent is carried out unless the answer is to skip the type. -/
theorem convertType_asked (hx : p.excludes t = false) (hc : p.custom.resolve t = .ok c)
    (hu : c.rendition.requiresUserInput = true) :
    p.convertType t =
      if (p.decide (p.consentDecision t c)).answer = skipAnswer then
        { type := t, fate := .skipped "skipped by decision", requiresUserInput := true
          findings := (p.decide (p.consentDecision t c)).findings }
      else
        { type := t, fate := .converted c, requiresUserInput := true
          findings :=
            (p.decide (p.consentDecision t c)).findings ++ p.conversionFindings t c } := by
  unfold convertType
  rw [if_neg (by simp [hx]), hc]
  exact if_pos hu

/-- What is told of the question whether a type is converted, if its conversion needs consent. -/
def consentFindings (p : Plan) (t : CustomType) (c : CustomConversion) : Findings :=
  if c.rendition.requiresUserInput then (p.decide (p.consentDecision t c)).findings else .none

/-- What a plan makes of a type, each way with its result. -/
inductive Treats (p : Plan) (t : CustomType) : TypeResult → Prop
  | excluded (excludes_eq : p.excludes t = true) :
      Treats p t { type := t, fate := .skipped "excluded by request" }
  | failed {error : ConversionError} (excludes_eq : p.excludes t = false)
      (resolve_eq : p.custom.resolve t = .error error) : Treats p t (dropType t error)
  /-- The conversion needs consent, and this is refused. -/
  | refused {c : CustomConversion} (excludes_eq : p.excludes t = false)
      (resolve_eq : p.custom.resolve t = .ok c) :
      Treats p t { type := t, fate := .skipped "skipped by decision", requiresUserInput := true
                   findings := p.consentFindings t c }
  /-- The conversion is carried out, with consent if it needs any. -/
  | carried {c : CustomConversion} (excludes_eq : p.excludes t = false)
      (resolve_eq : p.custom.resolve t = .ok c) :
      Treats p t { type := t, fate := .converted c
                   requiresUserInput := c.rendition.requiresUserInput
                   findings := p.consentFindings t c ++ p.conversionFindings t c }

/-- **What becomes of a type** is one of these. -/
theorem treats_convertType (p : Plan) (t : CustomType) : p.Treats t (p.convertType t) := by
  cases hx : p.excludes t with
  | true =>
    rw [convertType_excluded hx]
    exact .excluded hx
  | false =>
    cases hc : p.custom.resolve t with
    | error error =>
      rw [convertType_failed hx hc]
      exact .failed hx hc
    | ok c =>
      have hrefused := Treats.refused hx hc
      have hcarried := Treats.carried hx hc
      unfold consentFindings at hrefused hcarried
      cases hu : c.rendition.requiresUserInput with
      | false =>
        rw [convertType_plain hx hc hu]
        simpa [hu] using hcarried
      | true =>
        rw [convertType_asked hx hc hu]
        rw [hu] at hrefused hcarried
        split
        · exact hrefused
        · exact hcarried

end Types

/-! ## Placements -/

/-- Where an answer sends the objects of a container that others may stand in for. -/
def answered (k : ContainerKind) (containers : List ContainerKind) (answer : String) :
    Option ContainerKind :=
  if answer = dropAnswer then none else some ((containers.find? (·.name == answer)).getD k)

/-- The question where the objects of a container go that is emulated under a rule. -/
def emulationQuestion (p : Plan) (k : ContainerKind) (rule : ObjectRule) : PendingDecision :=
  p.emulationDecision k (p.supportedContainers rule.alternatives)

section Placements

variable {k : ContainerKind} {rule : ObjectRule}

/-- Where the target supports the type, the objects stay in their container. -/
theorem placement_direct (ha : rule.action = .direct) :
    p.placement k rule = { destination := some k } := by
  unfold placement
  rw [ha]

/-- Where it has nothing for it, they are dropped. -/
theorem placement_drop (ha : rule.action = .drop) :
    p.placement k rule = { destination := none } := by
  unfold placement
  rw [ha]

/-- Where others stand in for the type, a decision says where the objects go. -/
theorem placement_emulate (ha : rule.action = .emulate) :
    p.placement k rule =
      { destination := answered k (p.supportedContainers rule.alternatives)
          (p.decide (p.emulationQuestion k rule)).answer
        findings := (p.decide (p.emulationQuestion k rule)).findings } := by
  unfold placement
  rw [ha]
  rfl

end Placements

/-! ## Containers -/

section Containers

variable {fates : Fates} {k d : ContainerKind} {objects : List SchemaObject}

/-- A container that is excluded is skipped as a whole. -/
theorem convertContainer_excluded (hx : p.preferences.excludesType k.objectType = true) :
    p.convertContainer fates k objects = skipContainer k objects := by
  unfold convertContainer
  rw [if_pos hx]

/-- The objects of a container without a destination are dropped one by one. -/
theorem convertContainer_dropped (hx : p.preferences.excludesType k.objectType = false)
    (hd : (p.placement k (p.rule k.objectType)).destination = none) :
    p.convertContainer fates k objects =
      { kind := k
        stats := { sourceCount := objects.length, dropped := (p.chosen objects).length
                   skipped := objects.length - (p.chosen objects).length }
        findings := (p.placement k (p.rule k.objectType)).findings ++
          .join ((p.chosen objects).map (p.dropFindings (p.rule k.objectType))) } := by
  unfold convertContainer
  rw [if_neg (by simp [hx])]
  dsimp only
  rw [hd]

/-- The objects of a container with a destination are converted one by one. -/
theorem convertContainer_moved (hx : p.preferences.excludesType k.objectType = false)
    (hd : (p.placement k (p.rule k.objectType)).destination = some d) :
    p.convertContainer fates k objects =
      { kind := k
        stats := { sourceCount := objects.length, converted := (p.chosen objects).length
                   skipped := objects.length - (p.chosen objects).length }
        destination := some d
        objects := ((p.chosen objects).map (p.moveObject fates k d (p.rule k.objectType))).map
          ObjectConversion.object
        findings := (p.placement k (p.rule k.objectType)).findings ++
          .ofWarnings (((p.chosen objects).map
            (p.moveObject fates k d (p.rule k.objectType))).flatMap
              ObjectConversion.warnings) } := by
  unfold convertContainer
  rw [if_neg (by simp [hx])]
  dsimp only
  rw [hd]

/-- The container of the target for the objects of a container; none if they are left out as a
whole or dropped. -/
def destination? (p : Plan) (k : ContainerKind) : Option ContainerKind :=
  if p.preferences.excludesType k.objectType then none
  else (p.placement k (p.rule k.objectType)).destination

theorem destination?_of_excluded (hx : p.preferences.excludesType k.objectType = true) :
    p.destination? k = none := if_pos hx

theorem destination?_of_included (hx : p.preferences.excludesType k.objectType = false) :
    p.destination? k = (p.placement k (p.rule k.objectType)).destination :=
  if_neg (by simp [hx])

/-- Objects go where they are placed, unless their container is excluded. -/
theorem destination?_eq_some :
    p.destination? k = some d ↔
      p.preferences.excludesType k.objectType = false ∧
        (p.placement k (p.rule k.objectType)).destination = some d := by
  cases hx : p.preferences.excludesType k.objectType with
  | true => simp [destination?_of_excluded hx]
  | false => simp [destination?_of_included hx]

/-- The conversion of an object of a container, without the warnings about it. -/
def converted (p : Plan) (fates : Fates) (k : ContainerKind) (o : SchemaObject) : SchemaObject :=
  (p.convertObject fates k.objectType o).object

@[simp] theorem converted_name (o : SchemaObject) : (p.converted fates k o).name = o.name := rfl

/-- A remark on emulation does not touch the object. -/
theorem moveObject_object (rule : ObjectRule) (o : SchemaObject) :
    (p.moveObject fates k d rule o).object = p.converted fates k o := by
  unfold moveObject
  dsimp only
  split <;> rfl

/-- The result for a container tells its destination. -/
theorem convertContainer_destination :
    (p.convertContainer fates k objects).destination = p.destination? k := by
  cases hx : p.preferences.excludesType k.objectType with
  | true => rw [convertContainer_excluded hx, destination?_of_excluded hx]; rfl
  | false =>
    rw [destination?_of_included hx]
    cases hd : (p.placement k (p.rule k.objectType)).destination with
    | none => rw [convertContainer_dropped hx hd]
    | some d => rw [convertContainer_moved hx hd]

/-- All objects that are not left out are converted, in order. -/
theorem convertContainer_objects :
    (p.convertContainer fates k objects).objects =
      if (p.destination? k).isSome then (p.chosen objects).map (p.converted fates k) else [] := by
  cases hx : p.preferences.excludesType k.objectType with
  | true => rw [convertContainer_excluded hx, destination?_of_excluded hx]; rfl
  | false =>
    rw [destination?_of_included hx]
    cases hd : (p.placement k (p.rule k.objectType)).destination with
    | none => rw [convertContainer_dropped hx hd]; rfl
    | some d =>
      rw [convertContainer_moved hx hd, List.map_map]
      exact List.map_congr_left fun o _ => moveObject_object _ o

/-- What is counted as converted is what is put into the target. -/
theorem convertContainer_converted :
    (p.convertContainer fates k objects).stats.converted =
      (p.convertContainer fates k objects).objects.length := by
  cases hx : p.preferences.excludesType k.objectType with
  | true => rw [convertContainer_excluded hx]; rfl
  | false =>
    cases hd : (p.placement k (p.rule k.objectType)).destination with
    | none => rw [convertContainer_dropped hx hd]; rfl
    | some d => rw [convertContainer_moved hx hd]; simp

end Containers

end Plan

end SchemaConversion
