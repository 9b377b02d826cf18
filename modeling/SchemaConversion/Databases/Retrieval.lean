import SchemaConversion.Databases.Definition
import SchemaConversion.Databases.Baseline

/-!
# Search engines and vector databases

Databases that are searched by text or by distance.
-/

namespace SchemaConversion.Databases

open NativeTemplate.Placeholder

/-- Elasticsearch. -/
def elasticsearch : DatabaseDefinition where
  id := "elasticsearch"
  displayName := "Elasticsearch"
  paradigms := [.searchIndex, .document]
  aliases := ["es", "elastic", "opensearch"]
  types :=
    TypeProfile.ofTable "elasticsearch"
      [.simple "boolean" .boolean,
        .simple "byte" .int8,
        .simple "short" .int16,
        .simple "integer" .int32,
        .simple "long" .int64,
        .simple "unsigned_long" .uint64,
        .simple "float" .float32 ["half_float"],
        .simple "double" .float64,
        .simple "scaled_float" .decimal,
        .simple "keyword" .varchar ["constant_keyword", "wildcard"],
        .simple "text" .text ["match_only_text"],
        .simple "binary" .binary,
        .simple "date" .timestamp ["date_nanos"],
        .simple "object" .object ["flattened"],
        .simple "nested" .list,
        .simple "geo_point" .point,
        .simple "geo_shape" .geometry ["shape"],
        .sized "dense_vector" .vector (some 4096) none,
        .simple "sparse_vector" .embedding ["rank_features"],
        .simple "integer_range" .range
          ["long_range", "float_range", "double_range", "date_range", "ip_range"]]
      [(.string, "keyword")]
    |>.withCustomTypes
        { composites :=
            some ⟨s!"object {name} ({fields})", ["object mappings flatten arrays of objects"]⟩,
          json := some ⟨"object", []⟩,
          spatial := some ⟨"geo_shape", []⟩,
          ranges := some ⟨s!"{base}_range", []⟩ }
  features :=
    Baseline.searchIndex.withStates
      [(.vectorIndex, .limited [.searchIndex] "dense_vector fields with HNSW"),
        (.embedding, .limited [.searchIndex] "dense_vector fields"),
        (.stream, .limited [] "data streams for append-only data")]
    |>.withPreferences
      { preferredSources := ["mongodb", "postgresql"],
        specialRequirements := ["text fields need an analyzer choice"],
        limitations := ["mappings cannot change a field's type in place"] }

/-- Pinecone. -/
def pinecone : DatabaseDefinition where
  id := "pinecone"
  displayName := "Pinecone"
  paradigms := [.vector]
  types :=
    TypeProfile.ofTable "pinecone"
      [.simple "string" .string,
        .simple "number" .float64,
        .simple "boolean" .boolean ["bool"],
        .simple "list" .list ["list of strings"],
        .sized "vector" .vector (some 20000) none ["dense"],
        .simple "sparse" .embedding ["sparse_values"]]
    |>.withCustomTypes
        { arrays := some ⟨"list", ["lists hold strings only"]⟩ }
    |>.withConstraints { primaryKey := true }
  features :=
    Baseline.vector.withStates
      [(.schema, .limited [.collection] "namespaces partition an index"),
        (.index, .unsupported [.vectorIndex] "metadata is filtered without indexes")]
    |>.withPreferences
      { specialRequirements := ["the embedding dimension is fixed per index"],
        limitations := ["metadata is limited to 40 KB per record"] }

/-- Milvus. -/
def milvus : DatabaseDefinition where
  id := "milvus"
  displayName := "Milvus"
  paradigms := [.vector]
  types :=
    TypeProfile.ofTable "milvus"
      [.simple "bool" .boolean ["boolean"],
        .simple "int8" .int8,
        .simple "int16" .int16,
        .simple "int32" .int32,
        .simple "int64" .int64,
        .simple "float" .float32,
        .simple "double" .float64,
        .sized "varchar" .varchar (some 65535) (some 255) ["string"],
        .simple "json" .json,
        .simple "array" .array,
        .sized "float_vector" .vector (some 32768) none ["float16_vector", "bfloat16_vector"],
        .sized "binary_vector" .embedding (some 32768) none ["sparse_float_vector"]]
    |>.withCustomTypes
        { arrays := some ⟨s!"ARRAY<{element}>", ["element types are scalars with a max capacity"]⟩,
          json := some ⟨"JSON", []⟩ }
    |>.withConstraints
        { primaryKey := true, notNull := true, defaultValue := true, autoIncrement := true }
  features :=
    (Baseline.vector.full [.schema, .user, .role, .partition])
    |>.withPreferences
      { preferredSources := ["postgresql", "pinecone"],
        specialRequirements := ["each collection needs exactly one primary key field"] }

/-- Qdrant. -/
def qdrant : DatabaseDefinition where
  id := "qdrant"
  displayName := "Qdrant"
  paradigms := [.vector]
  types :=
    TypeProfile.ofTable "qdrant"
      [.simple "keyword" .varchar,
        .simple "text" .text,
        .simple "integer" .int64,
        .simple "float" .float64,
        .simple "bool" .boolean,
        .simple "datetime" .timestampTz,
        .simple "uuid" .uuid,
        .simple "geo" .point,
        .simple "object" .json ["payload"],
        .sized "vector" .vector (some 65536) none ["dense"],
        .simple "sparse" .embedding]
    |>.withCustomTypes
        { json := some ⟨"payload", []⟩,
          arrays := some ⟨"array payload", []⟩,
          spatial := some ⟨"geo", ["points only"]⟩ }
    |>.withConstraints { primaryKey := true }
  features :=
    Baseline.vector
    |>.withPreferences
      { preferredSources := ["pinecone", "milvus"],
        specialRequirements := ["point ids must be unsigned integers or UUIDs"] }

/-- The databases of this kind. -/
def retrievalDatabases : List DatabaseDefinition :=
  [elasticsearch, pinecone, milvus, qdrant]

end SchemaConversion.Databases
