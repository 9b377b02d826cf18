import SchemaConversion.Databases.Definition
import SchemaConversion.Databases.Baseline

/-!
# Databases organised by columns or series

Analytical column stores, wide-column stores and a store of time series.
-/

namespace SchemaConversion.Databases

open NativeTemplate.Placeholder

/-- ClickHouse. -/
def clickhouse : DatabaseDefinition where
  id := "clickhouse"
  displayName := "ClickHouse"
  paradigms := [.columnar]
  aliases := ["ch"]
  types :=
    TypeProfile.ofTable "clickhouse"
      [.simple "bool" .boolean ["boolean"],
        .simple "int8" .int8 ["tinyint"],
        .simple "int16" .int16 ["smallint"],
        .simple "int32" .int32 ["int", "integer"],
        .simple "int64" .int64 ["bigint"],
        .simple "uint8" .uint8,
        .simple "uint16" .uint16,
        .simple "uint32" .uint32,
        .simple "uint64" .uint64,
        .simple "float32" .float32 ["real"],
        .simple "float64" .float64 ["double"],
        (TypeInfo.numeric "decimal" .decimal (some 76) (some 76) ["numeric"]).withPrecision 10 0,
        .simple "string" .string ["text", "varchar", "blob"],
        .sized "fixedstring" .char none (some 1),
        .simple "date" .date ["date32"],
        .simple "datetime" .timestamp,
        .sized "datetime64" .timestampTz (some 9) (some 3),
        .simple "uuid" .uuid,
        .simple "json" .json ["object('json')"],
        .simple "array" .array,
        .simple "map" .map,
        .simple "tuple" .object ["nested"],
        .simple "enum8" .enum ["enum16", "enum"],
        .simple "point" .point,
        .simple "linestring" .lineString ["ring"],
        .simple "polygon" .polygon ["multipolygon"]]
    |>.withCustomTypes
        { enums := some ⟨s!"Enum8({values})", ["at most 256 values"]⟩,
          composites := some ⟨s!"Tuple({fields})", []⟩,
          arrays := some ⟨s!"Array({element})", []⟩,
          json := some ⟨"JSON", []⟩,
          spatial := some ⟨"Point", []⟩ }
    |>.withConstraints { check := true, defaultValue := true }
  features :=
    Baseline.columnar.withStates
      [(.checkConstraint, .limited [] "checked on insert only"),
        (.embedding, .limited [.table] "Array(Float32) columns"),
        (.vectorIndex, .limited [.index] "experimental vector similarity indexes")]
    |>.withPreferences
      { preferredSources := ["postgresql", "mysql"],
        specialRequirements := ["every table needs an ORDER BY sorting key"],
        limitations := ["updates and deletes are asynchronous mutations"] }

/-- DuckDB. -/
def duckdb : DatabaseDefinition where
  id := "duckdb"
  displayName := "DuckDB"
  paradigms := [.columnar, .relational]
  types :=
    TypeProfile.ofTable "duckdb"
      [.simple "boolean" .boolean ["bool", "logical"],
        .simple "tinyint" .int8 ["int1"],
        .simple "smallint" .int16 ["int2", "short"],
        .simple "integer" .int32 ["int", "int4", "signed"],
        .simple "bigint" .int64 ["int8", "long"],
        .simple "utinyint" .uint8,
        .simple "usmallint" .uint16,
        .simple "uinteger" .uint32,
        .simple "ubigint" .uint64,
        .simple "float" .float32 ["float4", "real"],
        .simple "double" .float64 ["float8"],
        (TypeInfo.numeric "decimal" .decimal (some 38) (some 38) ["numeric"]).withPrecision 18 3,
        .sized "varchar" .varchar none none ["string", "char", "bpchar", "nvarchar"],
        .simple "text" .text,
        .simple "blob" .blob ["bytea", "varbinary"],
        .simple "date" .date,
        .simple "time" .time,
        .simple "timestamp" .timestamp ["datetime"],
        .simple "timestamptz" .timestampTz ["timestamp with time zone"],
        .simple "interval" .interval,
        .simple "uuid" .uuid,
        .simple "json" .json,
        .simple "struct" .object,
        .simple "map" .map,
        .simple "list" .list,
        .sized "array" .array none none,
        .simple "enum" .enum,
        .simple "geometry" .geometry]
    |>.withCustomTypes
        { enums := some ⟨s!"CREATE TYPE {name} AS ENUM ({values})", []⟩,
          composites := some ⟨s!"CREATE TYPE {name} AS STRUCT({fields})", []⟩,
          arrays := some ⟨s!"{element}[]", []⟩,
          json := some ⟨"JSON", ["requires the json extension"]⟩,
          spatial := some ⟨"GEOMETRY", ["requires the spatial extension"]⟩ }
    |>.withConstraints .relational
  features :=
    (Baseline.columnar.full
        [.primaryKey, .foreignKey, .uniqueConstraint, .checkConstraint, .sequence, .customType,
          .extension]).withStates
      [(.index, .limited [] "ART indexes for point lookups"),
        (.materializedView, .unsupported [.view, .table] "materialize with CREATE TABLE AS"),
        (.trigger, .unsupported [] "no triggers")]
    |>.withPreferences
      { preferredSources := ["postgresql", "sqlite", "clickhouse"],
        limitations := ["single-writer embedded engine"] }

/-- Apache Cassandra. -/
def cassandra : DatabaseDefinition where
  id := "cassandra"
  displayName := "Apache Cassandra"
  paradigms := [.wideColumn]
  aliases := ["cql", "scylladb"]
  types :=
    TypeProfile.ofTable "cassandra"
      [.simple "boolean" .boolean,
        .simple "tinyint" .int8,
        .simple "smallint" .int16,
        .simple "int" .int32,
        .simple "bigint" .int64 ["counter", "varint"],
        .simple "float" .float32,
        .simple "double" .float64,
        .simple "decimal" .decimal,
        .simple "text" .text ["varchar", "ascii"],
        .simple "blob" .blob,
        .simple "date" .date,
        .simple "time" .time,
        .simple "timestamp" .timestampTz,
        .simple "duration" .interval,
        .simple "uuid" .uuid ["timeuuid"],
        .simple "list" .list,
        .simple "set" .set,
        .simple "map" .map,
        .simple "tuple" .object,
        .sized "vector" .vector (some 8192) none]
    |>.withCustomTypes
        { composites :=
            some ⟨s!"CREATE TYPE {name} ({fields})", ["nested UDT columns must be frozen"]⟩,
          arrays := some ⟨s!"list<{element}>", []⟩ }
    |>.withConstraints { primaryKey := true }
  features :=
    (Baseline.wideColumn.full [.table, .customType, .materializedView]).withStates
      [(.searchIndex, .limited [.index] "SASI and storage-attached indexes"),
        (.vectorIndex, .limited [.index] "storage-attached vector indexes"),
        (.function, .limited [] "user-defined functions are disabled by default"),
        (.embedding, .limited [.table] "vector columns"),
        (.collection, .unsupported [.table] "documents become rows with frozen UDT columns"),
        (.node, .unsupported [.table] "nodes become rows"),
        (.relationship, .unsupported [.table] "relationships become query tables"),
        (.measurement, .unsupported [.table] "points become clustered rows"),
        (.trigger, .unsupported [] "triggers require server-side Java classes")]
    |>.withPreferences
      { preferredSources := ["postgresql", "dynamodb"],
        specialRequirements := ["partition and clustering keys must be chosen per query"],
        limitations := ["no joins"] }

/-- Apache HBase. -/
def hbase : DatabaseDefinition where
  id := "hbase"
  displayName := "Apache HBase"
  paradigms := [.wideColumn]
  types :=
    TypeProfile.ofTable "hbase"
      [.simple "bytes" .binary ["byte[]"],
        .simple "string" .string,
        .simple "boolean" .boolean,
        .simple "short" .int16,
        .simple "int" .int32 ["integer"],
        .simple "long" .int64,
        .simple "float" .float32,
        .simple "double" .float64,
        .simple "bigdecimal" .decimal]
    |>.withConstraints { primaryKey := true }
  features :=
    Baseline.wideColumn.withStates
      [(.index, .unsupported [.columnFamily] "secondary indexes are maintained as extra tables"),
        (.role, .unsupported [.user] "ACLs are granted to users and groups")]
    |>.withPreferences
      { specialRequirements := ["row keys must be designed to avoid hotspots"],
        limitations := ["values are untyped byte arrays"] }

/-- InfluxDB. -/
def influxdb : DatabaseDefinition where
  id := "influxdb"
  displayName := "InfluxDB"
  paradigms := [.timeSeries]
  aliases := ["influx"]
  types :=
    TypeProfile.ofTable "influxdb"
      [.simple "float" .float64 ["double"],
        .simple "integer" .int64 ["int"],
        .simple "uinteger" .uint64 ["unsigned"],
        .simple "string" .string,
        .simple "boolean" .boolean ["bool"],
        .simple "timestamp" .timestampTz ["time"],
        .simple "tag" .varchar]
      [(.string, "string")]
  features :=
    (Baseline.timeSeries.full [.schema])
    |>.withPreferences
      { preferredSources := ["timescaledb", "postgresql"],
        specialRequirements := ["each measurement needs a timestamp column"],
        limitations := ["field types cannot change within a shard"] }

/-- The databases of this kind. -/
def columnsDatabases : List DatabaseDefinition :=
  [clickhouse, duckdb, cassandra, hbase, influxdb]

end SchemaConversion.Databases
