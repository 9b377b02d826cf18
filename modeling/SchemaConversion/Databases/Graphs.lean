import SchemaConversion.Databases.Definition
import SchemaConversion.Databases.Baseline

/-!
# Graph databases

Databases of nodes and relationships.
-/

namespace SchemaConversion.Databases

open NativeTemplate.Placeholder

/-- Neo4j. -/
def neo4j : DatabaseDefinition where
  id := "neo4j"
  displayName := "Neo4j"
  paradigms := [.graph]
  types :=
    TypeProfile.ofTable "neo4j"
      [.simple "boolean" .boolean,
        .simple "integer" .int64 ["int", "long"],
        .simple "float" .float64 ["double"],
        .simple "string" .string,
        .simple "bytearray" .binary ["byte[]"],
        .simple "date" .date,
        .simple "local time" .time ["time", "zoned time"],
        .simple "local datetime" .timestamp ["localdatetime"],
        .simple "zoned datetime" .timestampTz ["datetime"],
        .simple "duration" .interval,
        .simple "point" .point,
        .simple "list" .list,
        .simple "map" .map,
        .simple "node" .graphNode,
        .simple "relationship" .graphEdge,
        .simple "path" .graphRelation,
        .sized "vector" .vector (some 4096) none]
    |>.withCustomTypes
        { arrays := some ⟨s!"LIST<{element}>", ["lists hold a single primitive type"]⟩,
          spatial := some ⟨"POINT", ["points only, no polygons"]⟩ }
    |>.withConstraints { unique := true, notNull := true }
  features :=
    Baseline.graph.withStates
      [(.vectorIndex, .limited [.index] "vector indexes on node properties"),
        (.embedding, .unsupported [.node] "vectors stored as node properties")]
    |>.withPreferences
      { preferredSources := ["postgresql", "arangodb"],
        specialRequirements := ["relationship types must be chosen for foreign keys"],
        limitations := ["properties cannot hold nested maps"] }

/-- ArangoDB. -/
def arangodb : DatabaseDefinition where
  id := "arangodb"
  displayName := "ArangoDB"
  paradigms := [.graph, .document, .keyValue]
  aliases := ["arango"]
  types :=
    TypeProfile.ofTable "arangodb"
      [.simple "bool" .boolean ["boolean"],
        .simple "number" .float64,
        .simple "string" .string,
        .simple "object" .document,
        .simple "array" .array,
        .simple "vertex" .graphNode,
        .simple "edge" .graphEdge,
        .simple "geojson" .geometry]
    |>.withCustomTypes
        { json := some ⟨"object", []⟩,
          arrays := some ⟨"array", []⟩,
          spatial := some ⟨"GeoJSON", []⟩ }
    |>.withConstraints { primaryKey := true, unique := true }
  features :=
    (Baseline.graph.full [.collection, .keyspace, .view]).withStates
      [(.checkConstraint, .limited [] "collection schema validation"),
        (.table, .unsupported [.collection] "rows become documents"),
        (.measurement, .unsupported [.collection] "points become documents"),
        (.columnFamily, .unsupported [.collection] "rows become documents"),
        (.embedding, .unsupported [.collection] "vectors stored as array attributes")]
    |>.withPreferences
      { preferredSources := ["mongodb", "neo4j"] }

/-- The databases of this kind. -/
def graphsDatabases : List DatabaseDefinition :=
  [neo4j, arangodb]

end SchemaConversion.Databases
