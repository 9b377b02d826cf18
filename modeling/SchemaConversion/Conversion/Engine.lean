import SchemaConversion.ConversionPath
import SchemaConversion.Conversion.Analysis
import SchemaConversion.Config.Codec

/-!
# Running conversions

The engine answers requests. A request fails as a whole if it is not valid, if there is no matrix
for its databases, or if the matrix is impossible and the configuration does not allow that; after
that, nothing that happens to a single field or type ends it.
-/

namespace SchemaConversion

/-- What conversions are made with. -/
structure ConversionEngine where
  registry : Registry
  config : Config := {}
  estimator : Estimator := config.estimator.estimator
  /-- The user has given up. -/
  cancelled : Bool := false

/-- What is reported about a conversion. -/
structure ConversionReport where
  matrix : ConversionMatrix
  mode : ExecutionMode
  /-- The name of the estimator. -/
  estimator : String
  /-- The duration that is estimated for the objects of the schema. -/
  duration : Duration
  stats : Statistics
  /-- How many custom types take each strategy. -/
  strategyCounts : List (CustomStrategy × Nat)
  requiresUserInput : Bool
  enrichmentUsed : Bool
  sampleDataUsed : Bool
  /-- The fingerprint of the configuration. -/
  configHash : String

/-- A conversion that was carried through. -/
structure CompletedConversion where
  schema : Option Schema
  report : ConversionReport
  findings : Findings

/-- The warnings of at least this severity. -/
def Findings.atLeast (f : Findings) (s : Severity) : List ConversionWarning :=
  f.warnings.filter fun w => s.level ≤ w.severity.level

/-- The conversion has caveats. -/
def CompletedConversion.hasCaveats (c : CompletedConversion) : Bool :=
  !c.findings.warnings.isEmpty || !c.findings.unsupported.isEmpty

/-- How often each strategy occurs in a list, in declaration order. -/
def CustomStrategy.counts (used : List CustomStrategy) : List (CustomStrategy × Nat) :=
  (all.map fun s => (s, used.count s)).filter fun entry => entry.2 ≠ 0

namespace ConversionEngine

/-- The matrix of two databases. -/
def matrix (e : ConversionEngine) (source target : String) :
    Except ConversionError ConversionMatrix :=
  ConversionMatrix.generate e.registry e.estimator source target

/-- The best path between two databases. -/
def path (e : ConversionEngine) (source target : String) : Except ConversionError ConversionPath :=
  ConversionPath.find e.registry e.estimator source target

/-- The conversion of one type. -/
def resolveType (e : ConversionEngine) (source target spelling : String) :
    Except ConversionError TypeConversion := do
  let _ ← e.registry.requireCapabilities source
  let _ ← e.registry.requireCapabilities target
  let source ← e.registry.requireTypeProfile source
  let target ← e.registry.requireTypeProfile target
  TypeConverter.resolve { source, target } spelling

/-- The schema of a request that may be carried out. -/
def validate (e : ConversionEngine) (r : ConversionRequest) : Except ConversionError Schema := do
  match r.schema with
  | none => throw .missingSchema
  | some schema =>
    let key := Registry.key r.source
    if key = Registry.key r.target then throw (.sameDatabase key)
    let source ← e.registry.requireCapabilities r.source
    let target ← e.registry.requireCapabilities r.target
    if source.id = target.id then throw (.sameDatabase source.id)
    schema.validate
    return schema

/-- A hint at a database through which an impossible conversion can be made. -/
def detour (e : ConversionEngine) (m : ConversionMatrix) : String :=
  match e.path m.source.id m.target.id with
  | .ok path =>
    match path.intermediate? with
    | some via =>
      if path.recommended then
        "; consider converting through " ++ via ++ " (" ++ path.complexity.name ++ ")"
      else ""
    | none => ""
  | .error _ => ""

/-- The conversion is impossible. -/
def impossible (e : ConversionEngine) (m : ConversionMatrix) : ConversionError :=
  .impossibleConversion m.source.id m.target.id m.source.paradigms.text m.target.paradigms.text
    (e.detour m)

/-- The user's replacements under the normal forms of the spellings they replace. -/
def normalizedOverrides (p : Preferences) : Dictionary String :=
  .ofList (p.typeOverrides.entries.map fun entry => (TypeName.normalize entry.1, entry.2))

/-- The plan for a request whose databases stand in a matrix. -/
def plan (e : ConversionEngine) (r : ConversionRequest) (m : ConversionMatrix) (s : Schema)
    (source target : TypeProfile) (targetFeatures : FeatureProfile) : Plan :=
  let types : TypeConverter :=
    { source, target, overrides := normalizedOverrides r.preferences }
  { mode := r.mode.getD e.config.engine.defaultMode
    preferences := r.preferences
    matrix := m
    targetFeatures
    types
    custom := .withDepth types s.types e.config.engine.maxCustomTypeDepth }

/-- The report on what a plan led to. -/
def report (e : ConversionEngine) (p : Plan) (s : Schema) (x : Execution) : ConversionReport where
  matrix := p.matrix
  mode := p.mode
  estimator := e.estimator.name
  duration := e.estimator.duration p.matrix.complexity s.total
  stats := x.stats
  strategyCounts := CustomStrategy.counts x.strategies
  requiresUserInput := x.requiresUserInput || !x.findings.pending.isEmpty
  enrichmentUsed := p.matrix.requiresEnrichment && p.preferences.enrichmentAvailable
  sampleDataUsed := p.matrix.requiresEnrichment && p.preferences.sampleDataAvailable
  configHash := e.config.fingerprint

/-- Carries a plan through. -/
def carryOut (e : ConversionEngine) (p : Plan) (s : Schema) : CompletedConversion :=
  let execution := if p.mode.executes then p.execute s else p.analyze s
  { schema := execution.schema
    report := e.report p s execution
    findings := execution.findings }

/-- The plan for a request and the schema that it is for. All that can end a request ends it
here. -/
def prepare (e : ConversionEngine) (r : ConversionRequest) :
    Except ConversionError (Plan × Schema) := do
  let schema ← e.validate r
  let source := e.registry.normalize r.source
  let target := e.registry.normalize r.target
  let m ← e.matrix source target
  if !m.isFeasible && e.config.engine.failOnImpossible then throw (e.impossible m)
  if e.cancelled then throw .cancelled
  let sourceTypes ← e.registry.requireTypeProfile source
  let targetTypes ← e.registry.requireTypeProfile target
  let targetFeatures ← e.registry.requireFeatureProfile target
  return (e.plan r m schema sourceTypes targetTypes targetFeatures, schema)

/-- Answers a request. -/
def convert (e : ConversionEngine) (r : ConversionRequest) :
    Except ConversionError CompletedConversion := do
  let (p, schema) ← e.prepare r
  return e.carryOut p schema

end ConversionEngine

end SchemaConversion
