import SchemaConversion.Conversion.Execution

/-!
# Analysing a plan

An analysis predicts what an execution would do, from the rules alone: it converts nothing, asks
nothing and takes every custom type to be converted by its primary strategy.
-/

namespace SchemaConversion

namespace Plan

/-- The feature that is lost with an object under a rule. -/
def lostFeature (rule : ObjectRule) (o : SchemaObject) : UnsupportedFeature where
  featureType := rule.objectType.name
  objectType := rule.objectType
  objectName := some o.name
  description := "; ".intercalate rule.notes

/-- What is predicted for a container. -/
def analyzeContainer (p : Plan) (k : ContainerKind) (objects : List SchemaObject) :
    ContainerResult :=
  let sourceCount := objects.length
  if p.preferences.excludesType k.objectType then
    { kind := k, stats := { sourceCount, skipped := sourceCount } }
  else
    let rule := p.rule k.objectType
    let chosen := p.chosen objects
    let skipped := sourceCount - chosen.length
    if rule.action = .drop then
      { kind := k, stats := { sourceCount, skipped, dropped := chosen.length }
        findings := { unsupported := chosen.map (lostFeature rule) } }
    else { kind := k, stats := { sourceCount, skipped, converted := chosen.length } }

/-- What is predicted for the custom types. -/
def analyzeTypes (p : Plan) (types : List CustomType) : Statistics :=
  if types.isEmpty then []
  else
    [(.customType,
      { sourceCount := types.length
        converted := types.countP fun t => !p.excludes t
        skipped := types.countP p.excludes })]

/-- Predicts the conversion of a schema. -/
def analyze (p : Plan) (s : Schema) : Execution :=
  let containers := (ContainerKind.all.filter fun k => !(s.objects k).isEmpty).map fun k =>
    p.analyzeContainer k (s.objects k)
  { schema := none
    stats := .ofEntries (p.analyzeTypes s.types
      ++ containers.map fun r => (r.kind.objectType, r.stats))
    strategies := (s.types.filter fun t => !p.excludes t).map fun t =>
      (StrategyChoice.of t.definition p.types.target).primary
    findings := p.findings ++ .join (containers.map ContainerResult.findings)
    requiresUserInput := p.matrix.requiresUserInput }

end Plan

end SchemaConversion
