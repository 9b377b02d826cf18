import SchemaConversion.CustomType
import SchemaConversion.Document.Decode
import SchemaConversion.Document.Encode

/-!
# Custom types in documents

A custom type is a record of its name, its category and the payload of the category. The payload is
settled before it is read, so an unquoted number is no text there. The category may also be given
by its place in the declaration order.
-/

namespace SchemaConversion

open Document

namespace CompositeField

/-- The field as a document. -/
def toDocument (f : CompositeField) : Document :=
  .record [("name", .text f.name), ("data_type", .text f.dataType)]

/-- Reads a field. -/
def decode? {δ : Type} [Readable δ] (d : δ) : Option CompositeField := do
  let members ← members? ["name", "data_type"] d
  let name ← members.required? text? "name"
  let dataType ← members.required? text? "data_type"
  some { name, dataType }

end CompositeField

/-- Reads a category, by its name or by its place. -/
def CustomCategory.decode? {δ : Type} [Readable δ] (d : δ) : Option CustomCategory := do
  match ← Readable.label? d with
  | .name name => ofName? name
  | .index place => all[place]?

namespace CustomDefinition

/-- The entries of a definition behind its category. -/
def payload : CustomDefinition → Entries
  | .enum values => [("values", texts values)]
  | .composite fields => [("fields", listOf CompositeField.toDocument fields)]
  | .domain baseType constraints =>
    [("base_type", .text baseType), ("constraints", texts constraints)]
  | .array elementType => [("element_type", .text elementType)]
  | .range subtype => [("subtype", .text subtype)]
  | .spatial geometry srid =>
    ("geometry", .text geometry) :: optionalMember "srid" (fun n => .natural n.toNat) srid
  | .temporal baseType => [("base_type", .text baseType)]
  | .binary maxLength => optionalMember "max_length" (fun n => .natural n.toNat) maxLength
  | .other definition => [("definition", .text definition)]

/-- The entries of a definition. -/
def entries (definition : CustomDefinition) : Entries :=
  ("category", .text definition.category.name) :: definition.payload

/-- Reads the payload of a category among the entries of a type. -/
def ofEntries? {δ : Type} [Readable δ] (entries : List (String × δ)) :
    CustomCategory → Option CustomDefinition
  | .enum => do
    let members ← known? ["values"] entries
    (members.required? (listOf? text?) "values").map .enum
  | .composite => do
    let members ← known? ["fields"] entries
    (members.required? (listOf? CompositeField.decode?) "fields").map .composite
  | .domain => do
    let members ← known? ["base_type", "constraints"] entries
    let baseType ← members.required? text? "base_type"
    let constraints ← members.withDefault? (listOf? text?) [] "constraints"
    some (.domain baseType constraints)
  | .array => do
    let members ← known? ["element_type"] entries
    (members.required? text? "element_type").map .array
  | .range => do
    let members ← known? ["subtype"] entries
    (members.required? text? "subtype").map .range
  | .spatial => do
    let members ← known? ["geometry", "srid"] entries
    let geometry ← members.required? text? "geometry"
    let srid ← members.withDefault? (optional? unsigned32?) none "srid"
    some (.spatial geometry srid)
  | .temporal => do
    let members ← known? ["base_type"] entries
    (members.required? text? "base_type").map .temporal
  | .binary => do
    let members ← known? ["max_length"] entries
    (members.withDefault? (optional? unsigned64?) none "max_length").map .binary
  | .other => do
    let members ← known? ["definition"] entries
    (members.withDefault? text? "" "definition").map .other

end CustomDefinition

namespace CustomType

/-- The type as a document. -/
def toDocument (t : CustomType) : Document :=
  .record (("name", .text t.name) :: t.definition.entries)

/-- Reads a type. What stands beside the name is settled first. -/
def decode? {δ : Type} [Readable δ] (d : δ) : Option CustomType := do
  let entries ← Readable.entries? d
  let own ← known? ["name"] entries
  let name ← own.required? text? "name"
  let rest ← (entries.filter (·.1 ≠ "name")).mapM fun (key, value) =>
    (Readable.settled? value).map fun value => (key, value)
  let tag ← known? ["category"] rest
  let category ← tag.required? CustomCategory.decode? "category"
  let definition ← CustomDefinition.ofEntries? rest category
  some { name, definition }

end CustomType

end SchemaConversion
