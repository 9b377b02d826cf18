import SchemaConversion.Schema
import SchemaConversion.CustomType.Codec
import SchemaConversion.Json.Reader
import SchemaConversion.Json.Printer
import SchemaConversion.Yaml.Reader
import SchemaConversion.Yaml.Printer

/-!
# Schemas in documents

A schema is a record of its name, its containers under their keys and its custom types. What is
empty is left out. `Schema.decode?` reads what `Schema.toDocument` writes; texts of schemas are
validated after they are read.
-/

namespace SchemaConversion

open Document

namespace Field

/-- The field as a document. -/
def toDocument (f : Field) : Document :=
  .record [("name", .text f.name), ("data_type", .text f.dataType), ("nullable", .bool f.nullable)]

/-- Reads a field. -/
def decode? {δ : Type} [Readable δ] (d : δ) : Option Field := do
  let members ← members? ["name", "data_type", "nullable"] d
  let name ← members.required? text? "name"
  let dataType ← members.required? text? "data_type"
  let nullable ← members.withDefault? bool? true "nullable"
  some { name, dataType, nullable }

end Field

/-- The dictionary of texts as a document. -/
def Dictionary.toDocument (d : Dictionary String) : Document :=
  .record (d.entries.map fun entry => (entry.1, .text entry.2))

/-- Reads a dictionary of texts. -/
def Dictionary.decode? {δ : Type} [Readable δ] (d : δ) : Option (Dictionary String) := do
  let entries ← Readable.entries? d
  let texts ← entries.mapM fun entry => (text? entry.2).map fun value => (entry.1, value)
  some (.ofList texts)

namespace SchemaObject

/-- The object as a document. -/
def toDocument (o : SchemaObject) : Document :=
  .record ([("name", .text o.name), ("fields", listOf Field.toDocument o.fields)]
    ++ optionalMember "definition" .text o.definition
    ++ listMember "constraints" .text o.constraints
    ++ if o.properties.isEmpty then [] else [("properties", o.properties.toDocument)])

/-- Reads an object. -/
def decode? {δ : Type} [Readable δ] (d : δ) : Option SchemaObject := do
  let members ← members? ["name", "fields", "definition", "constraints", "properties"] d
  let name ← members.required? text? "name"
  let fields ← members.withDefault? (listOf? Field.decode?) [] "fields"
  let definition ← members.withDefault? (optional? text?) none "definition"
  let constraints ← members.withDefault? (listOf? text?) [] "constraints"
  let properties ← members.withDefault? Dictionary.decode? .empty "properties"
  some { name, fields, definition, constraints, properties }

end SchemaObject

namespace Schema

/-- The schema as a document. -/
def toDocument (s : Schema) : Document :=
  .record (("name", .text s.name) ::
    ContainerKind.all.flatMap (fun k => listMember k.key SchemaObject.toDocument (s.objects k))
    ++ listMember "types" CustomType.toDocument s.types)

/-- The keys of a schema document in order. -/
def documentKeys : List String := "name" :: ContainerKind.all.map ContainerKind.key ++ ["types"]

/-- Reads a schema, which need not be valid. -/
def decode? {δ : Type} [Readable δ] (d : δ) : Option Schema := do
  let members ← members? documentKeys d
  let name ← members.required? text? "name"
  let containers ← ContainerKind.all.mapM fun k =>
    (members.withDefault? (listOf? SchemaObject.decode?) [] k.key).map fun objects =>
      (k, objects)
  let types ← members.withDefault? (listOf? CustomType.decode?) [] "types"
  some { name, objects := fun k => (containers.lookup k).getD [], types }

/-- Validates a schema that was read; `failure` is the error if it was not. -/
def accept (failure : ConversionError) (s? : Option Schema) : Except ConversionError Schema := do
  match s? with
  | none => throw failure
  | some s =>
    s.validate
    return s

/-- Reads and validates a schema in JSON. -/
def fromJson (text : String) : Except ConversionError Schema :=
  accept .json ((Json.read? text).bind decode?)

/-- Reads and validates a schema in YAML. -/
def fromYaml (text : String) : Except ConversionError Schema :=
  accept .yaml ((Yaml.read? text).bind decode?)

end Schema

end SchemaConversion
