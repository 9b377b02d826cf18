import SchemaConversion.ConversionMatrix
import SchemaConversion.CustomType.Conversion
import SchemaConversion.Conversion.Findings
import SchemaConversion.Conversion.Request

/-!
# Plans

A plan is all that the steps of a conversion need to know, and none of them changes it: the mode,
the preferences, the matrix, the profile of the target and the two type converters. It answers the
questions that do not depend on single objects: which rule holds for a container, how a decision
falls, and where the objects of a container go.
-/

namespace SchemaConversion

/-- The basis of one conversion. -/
structure Plan where
  mode : ExecutionMode
  preferences : Preferences
  matrix : ConversionMatrix
  targetFeatures : FeatureProfile
  types : TypeConverter
  custom : CustomConverter

namespace Plan

/-- The identifier of the target database. -/
def targetName (p : Plan) : String := p.matrix.target.id

/-- What is known before any object is looked at: the limitations of the target, and that hints on
access patterns are missing where they would help. -/
def findings (p : Plan) : Findings :=
  let limitations : List ConversionWarning := p.matrix.limitations.map fun limitation =>
    { kind := .limitation, severity := .info, message := p.targetName ++ ": " ++ limitation }
  let enrichment : List ConversionWarning :=
    if p.matrix.requiresEnrichment && !p.preferences.enrichmentAvailable then
      [{ kind := .enrichment, severity := .info
         message := p.matrix.compatibility.name
           ++ " paradigms: access patterns and relationship hints are not available"
         suggestion := some "provide schema enrichment to guide denormalization" }]
    else []
  .ofWarnings (limitations ++ enrichment)

/-- The rule for an object type; for one that the source does not support, the rule that it would
have. -/
def rule (p : Plan) (t : ObjectType) : ObjectRule :=
  (p.matrix.rule? t).getD (.of t (p.targetFeatures.support t))

/-- An answer with what it took to find it. -/
structure Decision where
  answer : String
  findings : Findings := .none

/-- How a decision falls: as the user answered, if that is an option, else in the standard way. An
interactive conversion reports a decision without an answer as pending. -/
def decide (p : Plan) (d : PendingDecision) : Decision :=
  match p.preferences.decisions.find? d.id with
  | some written =>
    let answer := Text.lowerCase (Text.trim written)
    if d.options.contains answer then { answer }
    else
      let warning : ConversionWarning :=
        { kind := .emulation, severity := .warning
          message := "answer '" ++ answer ++ "' to " ++ d.id ++ " is not an option; using "
            ++ d.standard }
      { answer := d.standard, findings := .ofWarnings [warning.forType d.objectType] }
  | none =>
    { answer := d.standard
      findings := { pending := if p.mode = .interactive then [d] else [] } }

/-- The answer that drops the objects of a container. -/
def dropAnswer : String := "drop"

/-- The answer that keeps the objects in their own container. -/
def keepAnswer : String := "keep"

/-- The answer that leaves a custom type out. -/
def skipAnswer : String := "skip"

/-- Where the objects of a container go. -/
structure Placement where
  /-- The container of the target; none if the objects are dropped. -/
  destination : Option ContainerKind
  findings : Findings := .none

/-- The containers among some object types that the target supports. -/
def supportedContainers (p : Plan) (ts : List ObjectType) : List ContainerKind :=
  (ts.filter p.targetFeatures.supports).filterMap ObjectType.container?

/-- The question where the objects of an emulated type go, given the containers that may take
them. -/
def emulationDecision (p : Plan) (k : ContainerKind) (containers : List ContainerKind) :
    PendingDecision :=
  let options := if containers.isEmpty then [keepAnswer] else containers.map ContainerKind.name
  { id := "emulate." ++ k.name, objectType := k.objectType
    question := p.targetName ++ " does not support " ++ k.name
      ++ "; how should these objects be converted?"
    options := options ++ [dropAnswer]
    standard := options.headD keepAnswer }

/-- Where the objects of a container go under a rule. -/
def placement (p : Plan) (k : ContainerKind) (rule : ObjectRule) : Placement :=
  match rule.action with
  | .direct => { destination := some k }
  | .drop => { destination := none }
  | .emulate =>
    let containers := p.supportedContainers rule.alternatives
    let decision := p.decide (p.emulationDecision k containers)
    let destination :=
      if decision.answer = dropAnswer then none
      else some ((containers.find? (·.name == decision.answer)).getD k)
    { destination, findings := decision.findings }

end Plan

end SchemaConversion
