import SchemaConversion.Databases.Definition
import SchemaConversion.Databases.Baseline

/-!
# Databases of documents, values and objects

Stores whose entries are found by their key: documents, values and whole objects.
-/

namespace SchemaConversion.Databases

open NativeTemplate.Placeholder

/-- MongoDB. -/
def mongodb : DatabaseDefinition where
  id := "mongodb"
  displayName := "MongoDB"
  paradigms := [.document]
  aliases := ["mongo"]
  types :=
    TypeProfile.ofTable "mongodb"
      [.simple "bool" .boolean ["boolean"],
        .simple "int32" .int32 ["int"],
        .simple "int64" .int64 ["long"],
        .simple "double" .float64 ["number"],
        .simple "decimal128" .decimal ["decimal"],
        .simple "string" .string ["str"],
        .simple "date" .timestamp ["datetime"],
        .simple "bindata" .binary ["binary"],
        .simple "uuid" .uuid,
        .simple "objectid" .varbinary,
        .simple "object" .document ["document", "embedded"],
        .simple "array" .array,
        .simple "point" .point,
        .simple "linestring" .lineString,
        .simple "polygon" .polygon,
        .simple "geojson" .geometry]
    |>.withCustomTypes
        { json := some ⟨"embedded document", []⟩,
          arrays := some ⟨"array", []⟩,
          spatial := some ⟨"GeoJSON object", ["coordinates must be WGS84 longitude/latitude"]⟩ }
    |>.withConstraints { primaryKey := true, unique := true }
  features :=
    (Baseline.document.full [.stream, .measurement]).withStates
      [(.vectorIndex, .limited [.index] "vector search indexes require Atlas")]
    |>.withPreferences
      { preferredSources := ["postgresql", "couchdb"],
        preferredTargets := ["couchdb", "elasticsearch"],
        specialRequirements := ["every document needs an _id field"],
        limitations := ["documents are limited to 16 MB"] }

/-- CouchDB. -/
def couchdb : DatabaseDefinition where
  id := "couchdb"
  displayName := "CouchDB"
  paradigms := [.document]
  aliases := ["couch"]
  types :=
    TypeProfile.ofTable "couchdb"
      [.simple "boolean" .boolean ["bool"],
        .simple "number" .float64,
        .simple "string" .string,
        .simple "object" .document,
        .simple "array" .array]
    |>.withCustomTypes
        { json := some ⟨"JSON object", []⟩,
          arrays := some ⟨"JSON array", []⟩ }
    |>.withConstraints { primaryKey := true }
  features :=
    (Baseline.document.full [.view]).withStates
      [(.index, .limited [] "Mango indexes"),
        (.searchIndex, .unsupported [.view] "search requires an external indexer"),
        (.uniqueConstraint, .unsupported [] "only _id is unique"),
        (.checkConstraint, .unsupported [] "validation functions run on update"),
        (.role, .unsupported [.user] "per-database member lists")]
    |>.withPreferences
      { preferredSources := ["mongodb"],
        limitations := ["numbers are IEEE 754 doubles"] }

/-- Amazon DynamoDB. -/
def dynamodb : DatabaseDefinition where
  id := "dynamodb"
  displayName := "Amazon DynamoDB"
  paradigms := [.keyValue, .document]
  aliases := ["dynamo", "ddb"]
  types :=
    TypeProfile.ofTable "dynamodb"
      [.simple "s" .string ["string"],
        .simple "n" .decimal ["number"],
        .simple "b" .binary ["binary"],
        .simple "bool" .boolean ["boolean"],
        .simple "m" .map ["map"],
        .simple "l" .list ["list"],
        .simple "ss" .set ["string set", "ns", "bs"]]
    |>.withCustomTypes
        { json := some ⟨"M", ["items are limited to 400 KB"]⟩,
          arrays := some ⟨"L", []⟩ }
    |>.withConstraints { primaryKey := true }
  features :=
    (Baseline.keyValue.full [.table, .primaryKey, .stream]).withStates
      [(.index, .limited [] "global and local secondary indexes"),
        (.collection, .unsupported [.table] "documents become items"),
        (.keyspace, .unsupported [.table] "a keyspace maps to a table"),
        (.trigger, .unsupported [.stream] "stream consumers replace triggers"),
        (.node, .unsupported [.table] "nodes become items in an adjacency list"),
        (.measurement, .unsupported [.table] "points become items keyed by series and time"),
        (.columnFamily, .unsupported [.table] "column families become tables"),
        (.schema, .unsupported [] "no schema namespace")]
    |>.withPreferences
      { preferredSources := ["mongodb", "cassandra"],
        specialRequirements := ["access patterns must be known to design keys"],
        limitations := ["items are limited to 400 KB"] }

/-- Redis. -/
def redis : DatabaseDefinition where
  id := "redis"
  displayName := "Redis"
  paradigms := [.keyValue]
  types :=
    TypeProfile.ofTable "redis"
      [.simple "string" .string ["str"],
        .simple "integer" .int64 ["int"],
        .simple "hash" .map,
        .simple "list" .list,
        .simple "set" .set ["zset", "sorted set"],
        .simple "json" .json ["rejson"],
        .sized "vector" .vector (some 32768) none]
    |>.withCustomTypes
        { json := some ⟨"JSON", ["requires the RedisJSON module"]⟩,
          arrays := some ⟨"LIST", []⟩ }
  features :=
    (Baseline.keyValue.full [.stream, .user]).withStates
      [(.searchIndex, .limited [.keyspace] "requires the search module"),
        (.vectorIndex, .limited [.keyspace] "requires the search module")]
    |>.withPreferences
      { specialRequirements := ["the dataset must fit in memory"],
        limitations := ["values are limited to 512 MB"] }

/-- Amazon S3. -/
def s3 : DatabaseDefinition where
  id := "s3"
  displayName := "Amazon S3"
  paradigms := [.objectStore]
  aliases := ["aws_s3", "minio"]
  types :=
    TypeProfile.ofTable "s3"
      [.simple "application/octet-stream" .blob ["binary", "blob"],
        .simple "application/json" .json ["json"],
        .simple "text/plain" .text ["text", "string"],
        .simple "text/csv" .clob ["csv"],
        .simple "application/xml" .xml ["xml"]]
    |>.withCustomTypes
        { json := some ⟨"application/json", []⟩ }
  features :=
    Baseline.objectStore
    |>.withPreferences
      { specialRequirements := ["an export file format must be chosen"],
        limitations := ["objects are immutable; updates rewrite the object"] }

/-- The databases of this kind. -/
def documentsDatabases : List DatabaseDefinition :=
  [mongodb, couchdb, dynamodb, redis, s3]

end SchemaConversion.Databases
