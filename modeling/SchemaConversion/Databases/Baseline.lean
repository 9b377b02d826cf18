import SchemaConversion.FeatureProfile

/-!
# What the databases of a paradigm have in common

For each paradigm the support for object types that its databases share; the profile of a database
starts from the one of its primary paradigm and says where the database differs. What is listed to
stand in for an unsupported object type is itself supported in the same profile.
-/

namespace SchemaConversion.Databases.Baseline

/-- SQL engines. -/
def relational : FeatureProfile :=
  { database := "relational" : FeatureProfile }.full
      [.table, .view, .index, .primaryKey, .foreignKey, .uniqueConstraint, .checkConstraint,
        .sequence, .function, .procedure, .trigger, .schema, .user, .role]
  |>.withStates
      [(.materializedView, .limited [.view, .table] "refresh is manual or emulated with tables"),
        (.customType, .limited [.checkConstraint] "limited user-defined types"),
        (.partition, .limited [] "partitioning syntax varies by engine"),
        (.collection, .unsupported [.table]
          "documents become rows; nested fields are flattened or stored as JSON"),
        (.node, .unsupported [.table] "each node label becomes a table"),
        (.relationship, .unsupported [.table, .foreignKey]
          "relationships become join tables with foreign keys"),
        (.graph, .unsupported [.schema] "a graph maps to a schema"),
        (.keyspace, .unsupported [.schema] "a keyspace maps to a schema"),
        (.columnFamily, .unsupported [.table] "column families become tables keyed by row key"),
        (.searchIndex, .unsupported [.index] "full-text search needs engine-specific indexes"),
        (.vectorIndex, .unsupported [] "requires a vector extension"),
        (.embedding, .unsupported [.table] "vectors stored as array or binary columns"),
        (.measurement, .unsupported [.table] "measurements become time-stamped tables"),
        (.retentionPolicy, .unsupported [] "retention must be scheduled as periodic deletes"),
        (.bucket, .unsupported [] "binary objects are stored outside the database"),
        (.stream, .unsupported [.trigger] "change capture through triggers")]

/-- Document stores. -/
def document : FeatureProfile :=
  { database := "document" : FeatureProfile }.full
      [.collection, .index, .schema, .user, .role]
  |>.withStates
      [(.view, .limited [] "read-only views over aggregation pipelines"),
        (.primaryKey, .limited [] "the _id field is the only primary key"),
        (.uniqueConstraint, .limited [.index] "enforced through unique indexes"),
        (.checkConstraint, .limited [] "document validation rules"),
        (.searchIndex, .limited [.index] "text indexes"),
        (.table, .unsupported [.collection] "rows become documents"),
        (.materializedView, .unsupported [.collection]
          "materialized as collections refreshed on demand"),
        (.foreignKey, .unsupported [] "references are stored but not enforced"),
        (.sequence, .unsupported [] "generated identifiers replace sequences"),
        (.function, .unsupported [] "no stored functions"),
        (.procedure, .unsupported [] "no stored procedures"),
        (.trigger, .unsupported [] "application-side change handling"),
        (.customType, .unsupported [] "embedded documents replace user-defined types"),
        (.node, .unsupported [.collection] "nodes become documents"),
        (.relationship, .unsupported [.collection] "relationships become reference documents"),
        (.graph, .unsupported [.schema] "a graph maps to a database"),
        (.keyspace, .unsupported [.schema] "a keyspace maps to a database"),
        (.columnFamily, .unsupported [.collection] "column families become collections"),
        (.measurement, .unsupported [.collection] "points become documents"),
        (.embedding, .unsupported [.collection] "vectors stored as array fields"),
        (.partition, .unsupported [] "sharding replaces partitions")]

/-- Key-value stores. -/
def keyValue : FeatureProfile :=
  { database := "keyvalue" : FeatureProfile }.full
      [.keyspace]
  |>.withStates
      [(.primaryKey, .limited [] "the key is the only access path"),
        (.table, .unsupported [.keyspace] "rows become values keyed by primary key"),
        (.collection, .unsupported [.keyspace] "documents become serialized values"),
        (.node, .unsupported [.keyspace] "nodes become values keyed by id"),
        (.relationship, .unsupported [] "relationships must be denormalized into values"),
        (.view, .unsupported [] "no query layer"),
        (.materializedView, .unsupported [] "no query layer"),
        (.index, .unsupported [] "secondary indexes must be maintained by the application"),
        (.foreignKey, .unsupported [] "no referential integrity"),
        (.uniqueConstraint, .unsupported [] "only keys are unique"),
        (.checkConstraint, .unsupported [] "no value validation"),
        (.sequence, .unsupported [] "counters replace sequences"),
        (.function, .unsupported [] "no stored functions"),
        (.procedure, .unsupported [] "no stored procedures"),
        (.trigger, .unsupported [] "no triggers"),
        (.customType, .unsupported [] "values are opaque"),
        (.schema, .unsupported [.keyspace] "a schema maps to a key prefix"),
        (.measurement, .unsupported [.keyspace] "points become values keyed by series and time"),
        (.columnFamily, .unsupported [.keyspace] "column families become key prefixes")]

/-- Property-graph databases. -/
def graph : FeatureProfile :=
  { database := "graph" : FeatureProfile }.full
      [.node, .relationship, .graph, .index, .uniqueConstraint, .schema, .user, .role]
  |>.withStates
      [(.primaryKey, .limited [.uniqueConstraint] "node key constraints"),
        (.checkConstraint, .limited [] "property existence and type constraints only"),
        (.searchIndex, .limited [.index] "full-text indexes"),
        (.function, .limited [] "user-defined functions ship as plugins"),
        (.procedure, .limited [] "procedures ship as plugins"),
        (.table, .unsupported [.node] "rows become nodes"),
        (.collection, .unsupported [.node] "documents become nodes"),
        (.foreignKey, .unsupported [.relationship] "foreign keys become relationships"),
        (.view, .unsupported [] "no stored views"),
        (.materializedView, .unsupported [] "no stored views"),
        (.sequence, .unsupported [] "no sequences"),
        (.trigger, .unsupported [] "no triggers"),
        (.customType, .unsupported [] "properties hold primitives, lists and maps only"),
        (.columnFamily, .unsupported [.node] "rows become nodes"),
        (.measurement, .unsupported [.node] "points become nodes"),
        (.embedding, .unsupported [.node] "vectors stored as list properties"),
        (.keyspace, .unsupported [.graph] "a keyspace maps to a graph")]

/-- Column-oriented analytical engines. -/
def columnar : FeatureProfile :=
  { database := "columnar" : FeatureProfile }.full
      [.table, .view, .materializedView, .schema, .user, .role, .partition]
  |>.withStates
      [(.index, .limited [] "data-skipping indexes only"),
        (.primaryKey, .limited [] "sorting key, not enforced"),
        (.function, .limited [] "SQL user-defined functions"),
        (.foreignKey, .unsupported [] "not enforced"),
        (.uniqueConstraint, .unsupported [] "not enforced"),
        (.checkConstraint, .unsupported [] "not enforced"),
        (.sequence, .unsupported [] "no sequences"),
        (.procedure, .unsupported [] "no stored procedures"),
        (.trigger, .unsupported [.materializedView]
          "insert-time materialized views replace triggers"),
        (.customType, .unsupported [] "nested and tuple columns replace user-defined types"),
        (.collection, .unsupported [.table] "documents become rows with nested columns"),
        (.node, .unsupported [.table] "nodes become rows"),
        (.relationship, .unsupported [.table] "relationships become edge tables"),
        (.columnFamily, .unsupported [.table] "column families become tables"),
        (.measurement, .unsupported [.table] "measurements become time-ordered tables"),
        (.embedding, .unsupported [.table] "vectors stored as array columns"),
        (.searchIndex, .unsupported [.index] "token and n-gram skipping indexes"),
        (.keyspace, .unsupported [.schema] "a keyspace maps to a database")]

/-- Wide-column stores. -/
def wideColumn : FeatureProfile :=
  { database := "widecolumn" : FeatureProfile }.full
      [.keyspace, .columnFamily, .primaryKey, .user, .role]
  |>.withStates
      [(.index, .limited [] "secondary indexes on single columns"),
        (.table, .unsupported [.columnFamily] "rows are grouped by partition key"),
        (.collection, .unsupported [.columnFamily] "documents become rows"),
        (.node, .unsupported [.columnFamily] "nodes become rows"),
        (.relationship, .unsupported [.columnFamily] "relationships become lookup tables"),
        (.measurement, .unsupported [.columnFamily] "points become clustered rows"),
        (.embedding, .unsupported [.columnFamily] "vectors stored as list columns"),
        (.view, .unsupported [] "no views"),
        (.materializedView, .unsupported [] "no materialized views"),
        (.foreignKey, .unsupported [] "no referential integrity"),
        (.uniqueConstraint, .unsupported [] "only the primary key is unique"),
        (.checkConstraint, .unsupported [] "no value validation"),
        (.sequence, .unsupported [] "no sequences"),
        (.function, .unsupported [] "no stored functions"),
        (.procedure, .unsupported [] "no stored procedures"),
        (.trigger, .unsupported [] "no triggers"),
        (.customType, .unsupported [] "no user-defined types"),
        (.schema, .unsupported [.keyspace] "a schema maps to a keyspace")]

/-- Search engines. -/
def searchIndex : FeatureProfile :=
  { database := "search" : FeatureProfile }.full
      [.searchIndex, .user, .role]
  |>.withStates
      [(.collection, .limited [.searchIndex] "each index holds one document shape"),
        (.primaryKey, .limited [] "the _id field is the only key"),
        (.view, .limited [.searchIndex] "filtered aliases"),
        (.table, .unsupported [.searchIndex] "rows become documents"),
        (.node, .unsupported [.searchIndex] "nodes become documents"),
        (.relationship, .unsupported [] "joins are limited to parent-child documents"),
        (.measurement, .unsupported [.searchIndex] "points become documents in data streams"),
        (.embedding, .unsupported [.searchIndex] "vectors become dense_vector fields"),
        (.columnFamily, .unsupported [.searchIndex] "rows become documents"),
        (.index, .unsupported [.searchIndex] "every field is indexed by its mapping"),
        (.materializedView, .unsupported [] "no materialized views"),
        (.foreignKey, .unsupported [] "no referential integrity"),
        (.uniqueConstraint, .unsupported [] "only _id is unique"),
        (.checkConstraint, .unsupported [] "mappings validate types only"),
        (.sequence, .unsupported [] "no sequences"),
        (.function, .unsupported [] "no stored functions"),
        (.procedure, .unsupported [] "no stored procedures"),
        (.trigger, .unsupported [] "ingest pipelines run before indexing only"),
        (.customType, .unsupported [] "object mappings replace user-defined types"),
        (.schema, .unsupported [] "no schema namespace")]

/-- Vector databases. -/
def vector : FeatureProfile :=
  { database := "vector" : FeatureProfile }.full
      [.collection, .vectorIndex, .embedding]
  |>.withStates
      [(.primaryKey, .limited [] "point ids only"),
        (.index, .limited [] "payload indexes for filtering"),
        (.searchIndex, .limited [.vectorIndex] "hybrid search over sparse vectors"),
        (.table, .unsupported [.collection] "rows become points with payload"),
        (.node, .unsupported [.collection] "nodes become points"),
        (.measurement, .unsupported [.collection] "points become payload records"),
        (.columnFamily, .unsupported [.collection] "rows become points"),
        (.relationship, .unsupported [] "no relationships"),
        (.view, .unsupported [] "no views"),
        (.materializedView, .unsupported [] "no materialized views"),
        (.foreignKey, .unsupported [] "no referential integrity"),
        (.uniqueConstraint, .unsupported [] "only ids are unique"),
        (.checkConstraint, .unsupported [] "no value validation"),
        (.sequence, .unsupported [] "no sequences"),
        (.function, .unsupported [] "no stored functions"),
        (.procedure, .unsupported [] "no stored procedures"),
        (.trigger, .unsupported [] "no triggers"),
        (.customType, .unsupported [] "payloads hold JSON values only")]

/-- Time-series databases. -/
def timeSeries : FeatureProfile :=
  { database := "timeseries" : FeatureProfile }.full
      [.measurement, .bucket, .retentionPolicy, .user]
  |>.withStates
      [(.index, .limited [] "tags are indexed automatically"),
        (.primaryKey, .limited [] "series key of tags and timestamp"),
        (.function, .limited [] "query-language functions"),
        (.stream, .limited [] "scheduled tasks"),
        (.table, .unsupported [.measurement] "rows become points; tag columns must be chosen"),
        (.collection, .unsupported [.measurement] "documents become points"),
        (.columnFamily, .unsupported [.measurement] "rows become points"),
        (.materializedView, .unsupported [.measurement]
          "downsampling tasks write new measurements"),
        (.schema, .unsupported [.bucket] "a schema maps to a bucket"),
        (.node, .unsupported [] "no graph model"),
        (.relationship, .unsupported [] "no relationships"),
        (.view, .unsupported [] "no views"),
        (.foreignKey, .unsupported [] "no referential integrity"),
        (.uniqueConstraint, .unsupported [] "no unique constraints"),
        (.checkConstraint, .unsupported [] "no value validation"),
        (.sequence, .unsupported [] "no sequences"),
        (.procedure, .unsupported [] "no stored procedures"),
        (.trigger, .unsupported [.stream] "tasks replace triggers"),
        (.customType, .unsupported [] "field values are primitives")]

/-- Object stores. -/
def objectStore : FeatureProfile :=
  { database := "objectstore" : FeatureProfile }.full
      [.bucket, .user, .role]
  |>.withStates
      [(.partition, .limited [] "key prefixes act as partitions"),
        (.table, .unsupported [.bucket] "rows are exported as CSV, JSON or Parquet objects"),
        (.collection, .unsupported [.bucket] "documents are exported as JSON objects"),
        (.node, .unsupported [.bucket] "nodes are exported as objects"),
        (.relationship, .unsupported [.bucket] "relationships are exported as objects"),
        (.measurement, .unsupported [.bucket] "points are exported as objects"),
        (.columnFamily, .unsupported [.bucket] "rows are exported as objects"),
        (.embedding, .unsupported [.bucket] "vectors are exported as objects"),
        (.view, .unsupported [] "no query layer"),
        (.index, .unsupported [] "no indexes"),
        (.foreignKey, .unsupported [] "no referential integrity"),
        (.function, .unsupported [] "no stored functions"),
        (.trigger, .unsupported [] "event notifications are configured outside the schema"),
        (.schema, .unsupported [.bucket] "a schema maps to a bucket")]

end SchemaConversion.Databases.Baseline
