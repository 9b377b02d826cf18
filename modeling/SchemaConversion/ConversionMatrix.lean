import SchemaConversion.Registry
import SchemaConversion.Estimate
import SchemaConversion.Paradigm.Strategy

/-!
# Conversion matrices

The matrix of an ordered pair of databases says how far their paradigms overlap, what happens to
every object type that the source supports, how hard the conversion is and what it is estimated to
take. It is computed from the registry alone, so it is the same for every schema.
-/

namespace SchemaConversion

/-- What happens to the objects of a type. -/
inductive RuleAction where
  /-- The target supports the type. -/
  | direct
  /-- Other object types of the target stand in. -/
  | emulate
  /-- The target has nothing for the type. -/
  | drop
  deriving DecidableEq, Inhabited

namespace RuleAction

/-- Every action, in declaration order. -/
def all : List RuleAction := [.direct, .emulate, .drop]

/-- The name by which documents call the action. -/
def name : RuleAction → String
  | .direct => "direct"
  | .emulate => "emulate"
  | .drop => "drop"

/-- The action with this name. -/
def ofName? (name : String) : Option RuleAction := all.find? (·.name == name)

end RuleAction

/-- The rule for the objects of one type. -/
structure ObjectRule where
  objectType : ObjectType
  action : RuleAction
  /-- What can stand in, or come with caveats, in the target. -/
  alternatives : List ObjectType := []
  notes : List String := []
  deriving DecidableEq

/-- The rule for an object type by its state in the target. -/
def ObjectRule.of (t : ObjectType) (state? : Option SupportState) : ObjectRule :=
  match state? with
  | none => ⟨t, .drop, [], [t.name ++ " is not defined for the target"]⟩
  | some state =>
    let notes := state.note?.toList
    if state.isSupported then ⟨t, .direct, state.alternatives, notes⟩
    else if state.alternatives.isEmpty then ⟨t, .drop, [], notes⟩
    else ⟨t, .emulate, state.alternatives, notes⟩

/-- Between equal sets of paradigms this many unsupported object types are still simple. -/
def maxSimpleUnsupported : Nat := 3

/-- How hard a conversion with these rules is. -/
def Complexity.ofRules (compatibility : Compatibility) (rules : List ObjectRule) : Complexity :=
  match compatibility with
  | .identical =>
    let unsupported := rules.countP (·.action != .direct)
    if unsupported = 0 then .trivial
    else if unsupported ≤ maxSimpleUnsupported then .simple
    else .moderate
  | .compatible => .simple
  | .overlapping => .moderate
  | .incompatible => if rules.all (·.action == .drop) then .impossible else .complex

/-- The classification of an ordered pair of databases. -/
structure ConversionMatrix where
  source : Capabilities
  target : Capabilities
  compatibility : Compatibility
  complexity : Complexity
  /-- The rules for the object types that the source supports, in declaration order. -/
  rules : List ObjectRule
  strategies : List ParadigmStrategy
  successRate : Float
  duration : Duration
  notes : List String
  /-- The known limitations of the target. -/
  limitations : List String

namespace ConversionMatrix

/-- The pair can be converted at all. -/
def isFeasible (m : ConversionMatrix) : Bool := m.complexity != .impossible

/-- Neither set of paradigms contains the other, so that hints on access patterns would help. -/
def requiresEnrichment (m : ConversionMatrix) : Bool := m.compatibility.isAtMostPartial

/-- A user should look at the conversion. -/
def requiresUserInput (m : ConversionMatrix) : Bool :=
  .complex ≤ m.complexity || m.compatibility.isAtMostPartial

/-- The object types of the source that the target does not support. -/
def unsupportedTypes (m : ConversionMatrix) : List ObjectType :=
  (m.rules.filter (·.action != .direct)).map ObjectRule.objectType

/-- The rule for an object type, if the source supports it. -/
def rule? (m : ConversionMatrix) (t : ObjectType) : Option ObjectRule :=
  m.rules.find? (·.objectType == t)

/-- The matrix of two databases whose profiles are known. -/
def between (r : Registry) (estimator : Estimator) (source target : Capabilities)
    (sourceFeatures targetFeatures : FeatureProfile) : ConversionMatrix :=
  let compatibility := Compatibility.between source.paradigms target.paradigms
  let rules := sourceFeatures.supportedTypes.map fun t => ObjectRule.of t (targetFeatures.support t)
  let complexity := Complexity.ofRules compatibility rules
  let preferences := targetFeatures.preferences
  let preferred :=
    if preferences.preferredSources.any fun id => r.normalize id == source.id then
      [source.displayName ++ " is a preferred source for " ++ target.displayName]
    else []
  { source, target, compatibility, complexity, rules
    strategies := ParadigmStrategy.betweenSets source.paradigms target.paradigms
    successRate := estimator.successRate complexity compatibility
    duration := estimator.duration complexity rules.length
    notes := preferences.specialRequirements ++ preferred
    limitations := preferences.limitations }

/-- The matrix of two databases. Both need to be known and to have both profiles. -/
def generate (r : Registry) (estimator : Estimator) (source target : String) :
    Except ConversionError ConversionMatrix := do
  let sourceCapabilities ← r.requireCapabilities source
  let targetCapabilities ← r.requireCapabilities target
  let sourceFeatures ← r.requireFeatureProfile source
  let targetFeatures ← r.requireFeatureProfile target
  let _ ← r.requireTypeProfile source
  let _ ← r.requireTypeProfile target
  return between r estimator sourceCapabilities targetCapabilities sourceFeatures targetFeatures

/-- A one-line overview of what matrices are computed from. -/
def overview (r : Registry) (estimator : Estimator) : String :=
  "MatrixGenerator \x7b databases: " ++ toString r.databaseIds.length ++ ", estimator: "
    ++ Text.quoted estimator.name ++ " \x7d"

end ConversionMatrix

end SchemaConversion
