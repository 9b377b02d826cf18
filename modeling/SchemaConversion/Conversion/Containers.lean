import SchemaConversion.Conversion.Fields
import SchemaConversion.Conversion.Statistics

/-!
# Converting containers

The objects of a container are converted together: its rule and, where the type is emulated, a
decision say to which container of the target they go or that they are dropped. Objects that the
user leaves out are skipped.
-/

namespace SchemaConversion

/-- What one container contributes to a conversion. -/
structure ContainerResult where
  kind : ContainerKind
  stats : ObjectStats
  /-- The container of the target that takes the objects, if one does. -/
  destination : Option ContainerKind := none
  objects : List SchemaObject := []
  findings : Findings := .none

namespace Plan

/-- The objects of a container that the user does not leave out. -/
def chosen (p : Plan) (objects : List SchemaObject) : List SchemaObject :=
  objects.filter fun o => !p.preferences.excludesName o.name

/-- The result for a container that the user leaves out. -/
def skipContainer (k : ContainerKind) (objects : List SchemaObject) : ContainerResult :=
  let count := objects.length
  let warning : ConversionWarning :=
    { kind := .excluded, severity := .info
      message := toString count ++ " " ++ k.name ++ " objects excluded by request" }
  { kind := k, stats := { sourceCount := count, skipped := count }
    findings := .ofWarnings [warning.forType k.objectType] }

/-- Why the objects under a rule are dropped. -/
def dropReason (p : Plan) (rule : ObjectRule) : String :=
  if rule.notes.isEmpty then p.targetName ++ " does not support " ++ rule.objectType.name
  else "; ".intercalate rule.notes

/-- What is told about an object that is dropped. -/
def dropFindings (p : Plan) (rule : ObjectRule) (o : SchemaObject) : Findings :=
  let reason := p.dropReason rule
  let warning : ConversionWarning :=
    { kind := .unsupported, severity := .warning
      message := o.name ++ " dropped: " ++ reason }
  { warnings := [warning.on rule.objectType o.name]
    unsupported :=
      [{ featureType := rule.objectType.name, objectType := rule.objectType
         objectName := some o.name, description := reason
         alternatives := rule.alternatives }] }

/-- What is told about an object of an emulated type. -/
def emulationWarning (p : Plan) (k destination : ContainerKind) (rule : ObjectRule)
    (o : SchemaObject) : ConversionWarning :=
  let message :=
    if destination = k then
      o.name ++ " kept as " ++ k.name ++ "; " ++ p.targetName ++ " emulates it with "
        ++ ", ".intercalate (rule.alternatives.map ObjectType.name)
    else o.name ++ " converted from " ++ k.name ++ " to " ++ destination.name
  let warning : ConversionWarning :=
    { kind := .emulation, severity := .info, message, suggestion := rule.notes.head? }
  warning.on k.objectType o.name

/-- The conversion of an object that goes to a container of the target. -/
def moveObject (p : Plan) (fates : Fates) (k destination : ContainerKind) (rule : ObjectRule)
    (o : SchemaObject) : ObjectConversion :=
  let conversion := p.convertObject fates k.objectType o
  if rule.action = .emulate then
    { conversion with
      warnings := p.emulationWarning k destination rule o :: conversion.warnings }
  else conversion

/-- Converts the objects of a container. -/
def convertContainer (p : Plan) (fates : Fates) (k : ContainerKind) (objects : List SchemaObject) :
    ContainerResult :=
  if p.preferences.excludesType k.objectType then skipContainer k objects
  else
    let rule := p.rule k.objectType
    let placement := p.placement k rule
    let chosen := p.chosen objects
    let skipped := objects.length - chosen.length
    match placement.destination with
    | none =>
      { kind := k
        stats := { sourceCount := objects.length, skipped, dropped := chosen.length }
        findings := placement.findings ++ .join (chosen.map (p.dropFindings rule)) }
    | some destination =>
      let moved := chosen.map (p.moveObject fates k destination rule)
      { kind := k
        stats := { sourceCount := objects.length, skipped, converted := chosen.length }
        destination := some destination
        objects := moved.map ObjectConversion.object
        findings := placement.findings ++ .ofWarnings (moved.flatMap ObjectConversion.warnings) }

/-- Converts the containers of a schema that hold anything, in the order of processing. -/
def convertContainers (p : Plan) (fates : Fates) (s : Schema) : List ContainerResult :=
  (ContainerKind.all.filter fun k => !(s.objects k).isEmpty).map fun k =>
    p.convertContainer fates k (s.objects k)

end Plan

end SchemaConversion
