import SchemaConversion.Databases.Definition
import SchemaConversion.Databases.Baseline

/-!
# Relational databases

The SQL databases and the time-series extension of one of them. Two families share their type
tables: PostgreSQL with its extension for time series, and MySQL with MariaDB.
-/

namespace SchemaConversion.Databases

open NativeTemplate.Placeholder

/-- What PostgreSQL and its derivatives express natively. -/
def postgresCustomTypes : CustomTypeSupport where
  enums := some ⟨s!"CREATE TYPE {name} AS ENUM ({values})", []⟩
  composites := some ⟨s!"CREATE TYPE {name} AS ({fields})", []⟩
  domains := some ⟨s!"CREATE DOMAIN {name} AS {base}{checks}", []⟩
  arrays := some ⟨s!"{element}[]", []⟩
  ranges := some ⟨s!"CREATE TYPE {name} AS RANGE (subtype = {base})", []⟩
  json := some ⟨"JSONB", []⟩
  xml := some ⟨"XML", []⟩
  spatial := some ⟨"geometry", ["requires the PostGIS extension"]⟩

/-- The types of PostgreSQL and its derivatives. -/
def postgresTypes (database : String) : TypeProfile :=
  TypeProfile.ofTable database
    [.simple "boolean" .boolean ["bool"],
      .simple "smallint" .int16 ["int2", "smallserial", "serial2"],
      .simple "integer" .int32 ["int", "int4", "serial", "serial4"],
      .simple "bigint" .int64 ["int8", "bigserial", "serial8"],
      .simple "real" .float32 ["float4"],
      .simple "double precision" .float64 ["float8", "float"],
      .numeric "numeric" .numeric (some 1000) (some 1000),
      .numeric "decimal" .decimal (some 1000) (some 1000),
      .simple "money" .money,
      .sized "varchar" .varchar (some 10485760) none ["character varying"],
      .sized "char" .char (some 10485760) (some 1) ["character", "bpchar"],
      .simple "text" .text ["citext", "name"],
      .simple "bytea" .binary,
      .simple "date" .date,
      .simple "time" .time ["time without time zone", "timetz", "time with time zone"],
      .simple "timestamp" .timestamp ["timestamp without time zone"],
      .simple "timestamptz" .timestampTz ["timestamp with time zone"],
      .simple "interval" .interval,
      .simple "uuid" .uuid,
      .simple "json" .json,
      .simple "jsonb" .json,
      .simple "xml" .xml,
      .simple "hstore" .map,
      .simple "point" .point,
      .simple "path" .lineString,
      .simple "polygon" .polygon,
      .simple "geometry" .geometry,
      .simple "geography" .geography,
      .sized "vector" .vector (some 16000) none,
      .simple "int4range" .range ["int8range", "numrange", "tsrange", "tstzrange", "daterange"]]
    [(.json, "jsonb")]
  |>.withCustomTypes postgresCustomTypes
  |>.withConstraints .relational

/-- The types of MySQL and its derivatives. -/
def mysqlTypes (database : String) : TypeProfile :=
  TypeProfile.ofTable database
    [.simple "boolean" .boolean ["bool"],
      .integer "tinyint" .int8 ["int1"],
      .integer "smallint" .int16 ["int2"],
      .integer "mediumint" .int32 ["int3"],
      .integer "int" .int32 ["integer", "int4"],
      .integer "bigint" .int64 ["int8"],
      .simple "float" .float32 ["float4"],
      .simple "double" .float64 ["double precision", "real", "float8"],
      (TypeInfo.numeric "decimal" .decimal (some 65) (some 30)
        ["numeric", "dec", "fixed"]).withPrecision 10 0,
      .sized "char" .char (some 255) (some 1) ["character", "nchar"],
      .sized "varchar" .varchar (some 65535) (some 255) ["character varying", "nvarchar"],
      .bounded "tinytext" .text 255,
      .bounded "text" .text 65535,
      .bounded "mediumtext" .text 16777215,
      .bounded "longtext" .text 4294967295,
      .sized "binary" .binary (some 255) (some 1),
      .sized "varbinary" .varbinary (some 65535) (some 255),
      .bounded "tinyblob" .blob 255,
      .bounded "blob" .blob 65535,
      .bounded "mediumblob" .blob 16777215,
      .bounded "longblob" .blob 4294967295,
      .simple "date" .date,
      .simple "time" .time,
      .simple "datetime" .timestamp,
      .simple "timestamp" .timestampTz,
      .simple "year" .int16,
      .simple "json" .json,
      .simple "enum" .enum,
      .simple "set" .set,
      .simple "geometry" .geometry ["geometrycollection"],
      .simple "point" .point,
      .simple "linestring" .lineString,
      .simple "polygon" .polygon ["multipolygon"]]
    [(.int32, "int"), (.int16, "smallint"), (.text, "longtext"), (.blob, "longblob")]
  |>.withCustomTypes
      { enums := some ⟨s!"ENUM({values})", ["declared inline per column"]⟩,
        json := some ⟨"JSON", []⟩,
        spatial := some ⟨"GEOMETRY", []⟩ }
  |>.withConstraints .relational

/-- PostgreSQL. -/
def postgresql : DatabaseDefinition where
  id := "postgresql"
  displayName := "PostgreSQL"
  paradigms := [.relational]
  aliases := ["postgres", "pg", "pgsql"]
  types :=
    postgresTypes "postgresql"
  features :=
    (Baseline.relational.full
        [.materializedView, .customType, .extension, .partition]).withStates
      [(.vectorIndex, .limited [.index] "requires the pgvector extension"),
        (.searchIndex, .limited [.index] "tsvector columns with GIN indexes"),
        (.embedding, .limited [.table] "vector columns through pgvector")]
    |>.withPreferences
      { preferredSources := ["mysql", "sqlserver", "oracle"],
        preferredTargets := ["cockroachdb", "timescaledb", "mysql"],
        limitations := ["identifiers longer than 63 bytes are truncated"] }

/-- MySQL. -/
def mysql : DatabaseDefinition where
  id := "mysql"
  displayName := "MySQL"
  paradigms := [.relational]
  types :=
    mysqlTypes "mysql"
  features :=
    Baseline.relational.withStates
      [(.sequence, .unsupported [] "AUTO_INCREMENT columns replace sequences"),
        (.materializedView, .unsupported [.view, .table] "no materialized views"),
        (.customType, .unsupported [.checkConstraint] "only inline ENUM and SET types"),
        (.searchIndex, .limited [.index] "FULLTEXT indexes")]
    |>.withPreferences
      { preferredSources := ["mariadb", "postgresql"],
        preferredTargets := ["mariadb", "postgresql"],
        specialRequirements := ["InnoDB engine for foreign keys"],
        limitations := ["row size is limited to 65,535 bytes"] }

/-- MariaDB. -/
def mariadb : DatabaseDefinition where
  id := "mariadb"
  displayName := "MariaDB"
  paradigms := [.relational]
  types :=
    mysqlTypes "mariadb"
      |>.entry (.simple "uuid" .uuid)
      |>.entry (.simple "inet6" .varchar ["inet4"])
      |>.prefer .varchar "varchar"
  features :=
    Baseline.relational.withStates
      [(.materializedView, .unsupported [.view, .table] "no materialized views"),
        (.customType, .unsupported [.checkConstraint] "only inline ENUM and SET types"),
        (.searchIndex, .limited [.index] "FULLTEXT indexes")]
    |>.withPreferences
      { preferredSources := ["mysql"],
        preferredTargets := ["mysql"] }

/-- SQL Server. -/
def sqlserver : DatabaseDefinition where
  id := "sqlserver"
  displayName := "SQL Server"
  paradigms := [.relational]
  aliases := ["mssql", "sql_server", "tsql"]
  types :=
    TypeProfile.ofTable "sqlserver"
      [.simple "bit" .boolean,
        .simple "tinyint" .uint8,
        .simple "smallint" .int16,
        .simple "int" .int32 ["integer"],
        .simple "bigint" .int64,
        .simple "real" .float32,
        .simple "float" .float64 ["double precision"],
        (TypeInfo.numeric "decimal" .decimal (some 38) (some 38) ["dec"]).withPrecision 18 0,
        .numeric "numeric" .numeric (some 38) (some 38),
        .simple "money" .money ["smallmoney"],
        .sized "char" .char (some 8000) (some 1) ["character"],
        .sized "nchar" .char (some 4000) (some 1),
        .sized "varchar" .varchar (some 8000) (some 1) ["character varying"],
        .sized "nvarchar" .varchar (some 4000) (some 1),
        .simple "nvarchar(max)" .text ["varchar(max)", "text", "ntext"],
        .sized "binary" .binary (some 8000) (some 1),
        .sized "varbinary" .varbinary (some 8000) (some 1),
        .simple "varbinary(max)" .blob ["image"],
        .simple "date" .date,
        .simple "time" .time,
        .simple "datetime2" .timestamp ["datetime", "smalldatetime"],
        .simple "datetimeoffset" .timestampTz,
        .simple "uniqueidentifier" .uuid,
        .simple "xml" .xml,
        .simple "geometry" .geometry,
        .simple "geography" .geography]
      [(.char, "nchar"), (.varchar, "nvarchar")]
    |>.withCustomTypes
        { domains :=
            some ⟨s!"CREATE TYPE {name} FROM {base}",
              ["alias types cannot carry check constraints"]⟩,
          json := some ⟨s!"NVARCHAR(MAX) CHECK (ISJSON({name}) = 1)", []⟩,
          xml := some ⟨"XML", []⟩,
          spatial := some ⟨"GEOMETRY", []⟩ }
    |>.withConstraints .relational
  features :=
    (Baseline.relational.full [.partition]).withStates
      [(.materializedView, .limited [.view, .table] "indexed views with schema binding"),
        (.searchIndex, .limited [.index] "full-text catalogs")]
    |>.withPreferences
      { preferredSources := ["postgresql", "mysql"],
        preferredTargets := ["postgresql"],
        limitations := ["index keys are limited to 900 bytes"] }

/-- Oracle Database. -/
def oracle : DatabaseDefinition where
  id := "oracle"
  displayName := "Oracle Database"
  paradigms := [.relational]
  aliases := ["oracledb"]
  types :=
    TypeProfile.ofTable "oracle"
      [.simple "number(1)" .boolean ["boolean"],
        .simple "number(3)" .int8,
        .simple "number(5)" .int16 ["smallint"],
        .simple "number(10)" .int32 ["integer", "int"],
        .simple "number(19)" .int64,
        .numeric "number" .numeric (some 38) (some 127) ["numeric", "decimal", "dec"],
        .simple "binary_float" .float32,
        .simple "binary_double" .float64 ["double precision", "float"],
        .sized "char" .char (some 2000) (some 1) ["nchar", "character"],
        .sized "varchar2" .varchar (some 4000) none ["varchar", "nvarchar2"],
        .simple "clob" .clob ["nclob", "long"],
        .simple "blob" .blob ["long raw"],
        .sized "raw" .varbinary (some 2000) none,
        .simple "date" .date,
        .sized "timestamp" .timestamp (some 9) none,
        .simple "timestamp with time zone" .timestampTz ["timestamp with local time zone"],
        .simple "interval day to second" .interval ["interval year to month"],
        .simple "xmltype" .xml,
        .simple "json" .json,
        .simple "sdo_geometry" .geometry,
        .sized "vector" .vector (some 65535) none]
    |>.withCustomTypes
        { composites := some ⟨s!"CREATE TYPE {name} AS OBJECT ({fields})", []⟩,
          arrays :=
            some ⟨s!"CREATE TYPE {name} AS VARRAY(1000) OF {element}",
              ["varrays have a fixed maximum size"]⟩,
          json := some ⟨"JSON", []⟩,
          xml := some ⟨"XMLTYPE", []⟩,
          spatial := some ⟨"SDO_GEOMETRY", []⟩ }
    |>.withConstraints .relational
  features :=
    (Baseline.relational.full [.materializedView, .partition, .customType]).withStates
      [(.searchIndex, .limited [.index] "Oracle Text indexes")]
    |>.withPreferences
      { preferredTargets := ["postgresql"],
        limitations := ["empty strings are stored as NULL"] }

/-- SQLite. -/
def sqlite : DatabaseDefinition where
  id := "sqlite"
  displayName := "SQLite"
  paradigms := [.relational]
  aliases := ["sqlite3"]
  types :=
    TypeProfile.ofTable "sqlite"
      [.simple "integer" .int64 ["int", "bigint", "smallint", "tinyint", "mediumint"],
        .simple "boolean" .boolean ["bool"],
        .simple "real" .float64 ["double", "float", "double precision"],
        .numeric "numeric" .numeric none none ["decimal"],
        .simple "text" .text ["clob", "varchar", "char", "nvarchar", "character"],
        .simple "blob" .blob,
        .simple "date" .date,
        .simple "datetime" .timestamp ["timestamp"]]
    |>.withCustomTypes
        { json := some ⟨"TEXT", ["JSON is stored as text and queried with json functions"]⟩ }
    |>.withConstraints .relational
  features :=
    Baseline.relational.withStates
      [(.sequence, .unsupported [] "AUTOINCREMENT columns replace sequences"),
        (.function, .unsupported [] "functions are registered by the host application"),
        (.procedure, .unsupported [] "no stored procedures"),
        (.schema, .unsupported [] "attached databases replace schemas"),
        (.user, .unsupported [] "no access control"),
        (.role, .unsupported [] "no access control"),
        (.materializedView, .unsupported [.view, .table] "no materialized views"),
        (.customType, .unsupported [.checkConstraint] "type affinity only"),
        (.partition, .unsupported [] "no partitioning"),
        (.stream, .unsupported [.trigger] "change capture through triggers"),
        (.relationship, .unsupported [.table] "relationships become join tables"),
        (.graph, .unsupported [] "no graph namespace"),
        (.keyspace, .unsupported [] "no keyspace namespace")]
    |>.withPreferences
      { limitations := ["column types are affinities, not enforced"] }

/-- CockroachDB. -/
def cockroachdb : DatabaseDefinition where
  id := "cockroachdb"
  displayName := "CockroachDB"
  paradigms := [.relational]
  aliases := ["cockroach", "crdb"]
  types :=
    TypeProfile.ofTable "cockroachdb"
      [.simple "bool" .boolean ["boolean"],
        .simple "int2" .int16 ["smallint"],
        .simple "int4" .int32 ["integer"],
        .simple "int8" .int64 ["int", "bigint"],
        .simple "float4" .float32 ["real"],
        .simple "float8" .float64 ["double precision", "float"],
        .numeric "decimal" .decimal none none ["numeric", "dec"],
        .sized "varchar" .varchar none none ["character varying"],
        .sized "char" .char none (some 1) ["character"],
        .simple "string" .string ["text"],
        .simple "bytes" .binary ["bytea"],
        .simple "date" .date,
        .simple "time" .time,
        .simple "timestamp" .timestamp,
        .simple "timestamptz" .timestampTz,
        .simple "interval" .interval,
        .simple "uuid" .uuid,
        .simple "jsonb" .json ["json"],
        .simple "geometry" .geometry,
        .simple "geography" .geography]
    |>.withCustomTypes
        { enums := some ⟨s!"CREATE TYPE {name} AS ENUM ({values})", []⟩,
          composites := some ⟨s!"CREATE TYPE {name} AS ({fields})", []⟩,
          arrays := some ⟨s!"{element}[]", ["nested arrays are not supported"]⟩,
          json := some ⟨"JSONB", []⟩,
          spatial := some ⟨"GEOMETRY", []⟩ }
    |>.withConstraints .relational
  features :=
    (Baseline.relational.full [.materializedView, .customType, .partition]).withStates
      [(.trigger, .unsupported [] "triggers are limited to recent versions"),
        (.stream, .unsupported [] "changefeeds are configured outside the schema")]
    |>.withPreferences
      { preferredSources := ["postgresql"],
        specialRequirements := ["primary keys should avoid sequential values"] }

/-- TimescaleDB. -/
def timescaledb : DatabaseDefinition where
  id := "timescaledb"
  displayName := "TimescaleDB"
  paradigms := [.relational, .timeSeries]
  aliases := ["timescale"]
  types :=
    postgresTypes "timescaledb"
  features :=
    Baseline.relational.full
      [.measurement, .retentionPolicy, .materializedView, .partition, .customType, .extension]
    |>.withStates
      [(.vectorIndex, .limited [.index] "requires the pgvector extension"),
        (.embedding, .limited [.table] "vector columns through pgvector")]
    |>.withPreferences
      { preferredSources := ["postgresql", "influxdb"],
        specialRequirements := ["hypertables need a time partitioning column"] }

/-- The databases of this kind. -/
def relationalDatabases : List DatabaseDefinition :=
  [postgresql, mysql, mariadb, sqlserver, oracle, sqlite, cockroachdb, timescaledb]

end SchemaConversion.Databases
