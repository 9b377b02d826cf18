import SchemaConversion.Conversion.Containers

/-!
# Carrying out a plan

An execution converts the catalog first and then the containers. Its schema consists of the kept
types, the lookup tables and the objects of the containers; its statistics and findings are those
of the parts.
-/

namespace SchemaConversion

/-- What carrying out or analysing a plan leads to. -/
structure Execution where
  /-- The converted schema; none if the plan was only analysed. -/
  schema : Option Schema
  stats : Statistics
  /-- The strategies that custom types take, one for each type. -/
  strategies : List CustomStrategy
  findings : Findings
  requiresUserInput : Bool

/-- The statistics of the custom types; there are none for an empty catalog. -/
def TypeResult.statistics (results : List TypeResult) : Statistics :=
  if results.isEmpty then []
  else
    [(.customType,
      { sourceCount := results.length
        converted := results.countP fun r => r.conversion?.isSome
        skipped := results.countP TypeResult.isSkipped
        dropped := results.countP TypeResult.isDropped })]

/-- The schema that the results for its parts make up. -/
def Plan.assemble (p : Plan) (name : String) (types : List TypeResult)
    (containers : List ContainerResult) : Schema :=
  let tables := (types.filterMap TypeResult.conversion?).flatMap CustomConversion.tables
  let placed : List (ContainerKind × List SchemaObject) := ContainerKind.all.map fun k =>
    let own := if p.tableContainer? = some k then tables else []
    (k, own ++ (containers.filter (·.destination == some k)).flatMap ContainerResult.objects)
  { name
    objects := fun k => (placed.lookup k).getD []
    types := (types.filter TypeResult.isKept).map TypeResult.type }

/-- Converts a schema. -/
def Plan.execute (p : Plan) (s : Schema) : Execution :=
  let types := p.convertTypes s.types
  let containers := p.convertContainers (.ofResults types) s
  { schema := some (p.assemble s.name types containers)
    stats := .ofEntries (TypeResult.statistics types
      ++ containers.map fun r => (r.kind.objectType, r.stats))
    strategies := (types.filterMap TypeResult.conversion?).map CustomConversion.strategy
    findings := p.findings ++ .join (types.map TypeResult.findings)
      ++ .join (containers.map ContainerResult.findings)
    requiresUserInput := p.matrix.requiresUserInput || types.any TypeResult.requiresUserInput }

end SchemaConversion
