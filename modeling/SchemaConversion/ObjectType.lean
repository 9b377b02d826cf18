import SchemaConversion.Text.Spelling
import SchemaConversion.Error

/-!
# Object types

The kinds of thing a database schema is made of, of all data models together. Seventeen of them
are the containers of a schema, in which objects stand; `ContainerKind` is that part of the
vocabulary, in the order in which a conversion goes through it.
-/

namespace SchemaConversion

/-- A kind of schema object. -/
inductive ObjectType where
  | table | view | materializedView | index | primaryKey | foreignKey | uniqueConstraint
  | checkConstraint | sequence | function | procedure | trigger | customType | schema
  | extension | user | role | collection | node | relationship | graph | keyspace | columnFamily
  | searchIndex | vectorIndex | embedding | measurement | retentionPolicy | bucket | stream
  | partition
  deriving DecidableEq, Inhabited

namespace ObjectType

/-- Every object type, in declaration order. -/
def all : List ObjectType :=
  [.table, .view, .materializedView, .index, .primaryKey, .foreignKey, .uniqueConstraint,
    .checkConstraint, .sequence, .function, .procedure, .trigger, .customType, .schema,
    .extension, .user, .role, .collection, .node, .relationship, .graph, .keyspace,
    .columnFamily, .searchIndex, .vectorIndex, .embedding, .measurement, .retentionPolicy,
    .bucket, .stream, .partition]

theorem mem_all (t : ObjectType) : t ∈ all := by cases t <;> decide

/-- The name by which documents and messages call the type. -/
def name : ObjectType → String
  | .table => "table"
  | .view => "view"
  | .materializedView => "materialized_view"
  | .index => "index"
  | .primaryKey => "primary_key"
  | .foreignKey => "foreign_key"
  | .uniqueConstraint => "unique_constraint"
  | .checkConstraint => "check_constraint"
  | .sequence => "sequence"
  | .function => "function"
  | .procedure => "procedure"
  | .trigger => "trigger"
  | .customType => "custom_type"
  | .schema => "schema"
  | .extension => "extension"
  | .user => "user"
  | .role => "role"
  | .collection => "collection"
  | .node => "node"
  | .relationship => "relationship"
  | .graph => "graph"
  | .keyspace => "keyspace"
  | .columnFamily => "column_family"
  | .searchIndex => "search_index"
  | .vectorIndex => "vector_index"
  | .embedding => "embedding"
  | .measurement => "measurement"
  | .retentionPolicy => "retention_policy"
  | .bucket => "bucket"
  | .stream => "stream"
  | .partition => "partition"

/-- The object type with this name. -/
def ofName? (name : String) : Option ObjectType := all.find? (·.name == name)

/-- Reads a freely written name. -/
def parse (text : String) : Except ConversionError ObjectType :=
  match ofName? (Text.spelling text) with
  | some t => .ok t
  | none => .error (.config ("Unknown object type: '" ++ text ++ "'"))

/-- The type's objects have named, typed fields, so that they can take in the objects of another
such type. -/
def isFieldContainer : ObjectType → Bool
  | .table | .collection | .node | .relationship | .columnFamily | .measurement | .embedding
  | .view | .materializedView => true
  | _ => false

end ObjectType

/-- The object types that have a container in a schema. -/
inductive ContainerKind where
  | table | collection | node | relationship | columnFamily | keyspace | measurement
  | searchIndex | vectorIndex | bucket | view | materializedView | index | sequence | function
  | procedure | trigger
  deriving DecidableEq, Inhabited

namespace ContainerKind

/-- Every container kind, in the order of processing. -/
def all : List ContainerKind :=
  [.table, .collection, .node, .relationship, .columnFamily, .keyspace, .measurement,
    .searchIndex, .vectorIndex, .bucket, .view, .materializedView, .index, .sequence, .function,
    .procedure, .trigger]

/-- The object type whose objects the container holds. -/
def objectType : ContainerKind → ObjectType
  | .table => .table
  | .collection => .collection
  | .node => .node
  | .relationship => .relationship
  | .columnFamily => .columnFamily
  | .keyspace => .keyspace
  | .measurement => .measurement
  | .searchIndex => .searchIndex
  | .vectorIndex => .vectorIndex
  | .bucket => .bucket
  | .view => .view
  | .materializedView => .materializedView
  | .index => .index
  | .sequence => .sequence
  | .function => .function
  | .procedure => .procedure
  | .trigger => .trigger

/-- The key of the container in a schema document. -/
def key : ContainerKind → String
  | .table => "tables"
  | .collection => "collections"
  | .node => "nodes"
  | .relationship => "relationships"
  | .columnFamily => "column_families"
  | .keyspace => "keyspaces"
  | .measurement => "measurements"
  | .searchIndex => "search_indexes"
  | .vectorIndex => "vector_indexes"
  | .bucket => "buckets"
  | .view => "views"
  | .materializedView => "materialized_views"
  | .index => "indexes"
  | .sequence => "sequences"
  | .function => "functions"
  | .procedure => "procedures"
  | .trigger => "triggers"

/-- The name of the container's object type. -/
def name (k : ContainerKind) : String := k.objectType.name

theorem mem_all (k : ContainerKind) : k ∈ all := by cases k <;> decide

theorem objectType_ne_customType (k : ContainerKind) : k.objectType ≠ .customType := by
  cases k <;> decide

end ContainerKind

/-- The container of an object type, if it has one. -/
def ObjectType.container? (t : ObjectType) : Option ContainerKind :=
  ContainerKind.all.find? (·.objectType == t)

namespace ContainerKind

@[simp] theorem container?_objectType (k : ContainerKind) : k.objectType.container? = some k := by
  cases k <;> rfl

/-- A container holds the objects of the type whose container it is. -/
theorem objectType_eq_iff {t : ObjectType} {k : ContainerKind} :
    k.objectType = t ↔ t.container? = some k := by
  constructor
  · rintro rfl
    exact k.container?_objectType
  · intro h
    have hk : (k.objectType == t) = true :=
      List.find?_some (p := fun k : ContainerKind => k.objectType == t) h
    exact eq_of_beq hk

theorem objectType_injective {k k' : ContainerKind} (h : k.objectType = k'.objectType) :
    k = k' := by
  have hcontainer := congrArg ObjectType.container? h
  rw [container?_objectType, container?_objectType] at hcontainer
  exact Option.some.inj hcontainer

/-- A container can be found by its name. -/
theorem find?_name (k : ContainerKind) : all.find? (·.name == k.name) = some k := by
  cases k <;> rfl

theorem name_injective {k k' : ContainerKind} (h : k.name = k'.name) : k = k' := by
  have hfind := find?_name k
  rw [h, find?_name] at hfind
  exact (Option.some.inj hfind).symm

end ContainerKind

end SchemaConversion
