import SchemaConversion.Identifier
import SchemaConversion.Text.LowerCase
import SchemaConversion.Error

/-!
# Custom types

The types that users of a database define, in nine categories. Other types refer to a custom type
by its name: `CustomType.find?` looks a name up without regard to blanks around it and to the case
of ASCII letters. A custom type is well formed if its name is usable and its payload says
something: values and fields are there and do not repeat, and base types are not blank.
-/

namespace SchemaConversion

/-- What kind of type a custom type is. -/
inductive CustomCategory where
  | enum | composite | domain | array | range | spatial | temporal | binary | other
  deriving DecidableEq, Inhabited

namespace CustomCategory

/-- Every category, in declaration order. -/
def all : List CustomCategory :=
  [.enum, .composite, .domain, .array, .range, .spatial, .temporal, .binary, .other]

/-- The name by which documents and messages call the category. -/
def name : CustomCategory → String
  | .enum => "enum"
  | .composite => "composite"
  | .domain => "domain"
  | .array => "array"
  | .range => "range"
  | .spatial => "spatial"
  | .temporal => "temporal"
  | .binary => "binary"
  | .other => "other"

/-- The category with this name. -/
def ofName? (name : String) : Option CustomCategory := all.find? (·.name == name)

end CustomCategory

/-- A field of a composite type. -/
structure CompositeField where
  name : String
  dataType : String
  deriving DecidableEq, Inhabited

/-- What a custom type is made of. -/
inductive CustomDefinition where
  | enum (values : List String)
  | composite (fields : List CompositeField)
  | domain (baseType : String) (constraints : List String)
  | array (elementType : String)
  | range (subtype : String)
  | spatial (geometry : String) (srid : Option UInt32)
  | temporal (baseType : String)
  | binary (maxLength : Option UInt64)
  | other (definition : String)
  deriving DecidableEq, Inhabited

/-- The category of a definition. -/
def CustomDefinition.category : CustomDefinition → CustomCategory
  | .enum _ => .enum
  | .composite _ => .composite
  | .domain .. => .domain
  | .array _ => .array
  | .range _ => .range
  | .spatial .. => .spatial
  | .temporal _ => .temporal
  | .binary _ => .binary
  | .other _ => .other

/-- A type with the name by which others refer to it. -/
structure CustomType where
  name : String
  definition : CustomDefinition
  deriving DecidableEq, Inhabited

/-- The first item of a list with a key that an earlier one has too. -/
def firstRepeated? {α : Type} (key : α → String) : List String → List α → Option α
  | _, [] => none
  | seen, item :: rest =>
    if seen.contains (key item) then some item else firstRepeated? key (key item :: seen) rest

namespace CustomType

/-- The category of a type. -/
def category (t : CustomType) : CustomCategory := t.definition.category

/-- The type that a reference names, the first of several. -/
def find? (catalog : List CustomType) (reference : String) : Option CustomType :=
  catalog.find? fun t => Text.equalIgnoringCase t.name (Text.trim reference)

/-- Why a type is not well formed. -/
inductive Fault where
  | unusableName (fault : Identifier.Fault)
  | noValues
  | repeatedValue (value : String)
  | noFields
  | blankField
  | repeatedField (name : String)
  | noBaseType
  | noElementType
  | noSubtype
  /-- An earlier type of the catalog has the same name. -/
  | repeatedType

/-- The sentence about a fault. -/
def Fault.message : Fault → String
  | .unusableName fault => (ConversionError.config fault.message).message
  | .noValues => "enum has no values"
  | .repeatedValue value => "duplicate enum value '" ++ value ++ "'"
  | .noFields => "composite has no fields"
  | .blankField => "composite field with empty name or type"
  | .repeatedField name => "duplicate composite field '" ++ name ++ "'"
  | .noBaseType => "domain has no base type"
  | .noElementType => "array has no element type"
  | .noSubtype => "range has no subtype"
  | .repeatedType => "defined more than once"

/-- The first fault among the fields of a composite, after fields with the names `seen`. -/
def fieldFault? : List String → List CompositeField → Option Fault
  | _, [] => none
  | seen, field :: rest =>
    let key := Text.lowerCase field.name
    if Text.isBlankText field.name || Text.isBlankText field.dataType then some .blankField
    else if seen.contains key then some (.repeatedField field.name)
    else fieldFault? (key :: seen) rest

/-- The first fault of a definition. -/
def definitionFault? : CustomDefinition → Option Fault
  | .enum values =>
    if values.isEmpty then some .noValues
    else (firstRepeated? id [] values).map .repeatedValue
  | .composite fields => if fields.isEmpty then some .noFields else fieldFault? [] fields
  | .domain baseType _ => if Text.isBlankText baseType then some .noBaseType else none
  | .array elementType => if Text.isBlankText elementType then some .noElementType else none
  | .range subtype => if Text.isBlankText subtype then some .noSubtype else none
  | _ => none

/-- The first fault of a type, if it has one. -/
def fault? (t : CustomType) : Option Fault :=
  ((Identifier.fault? t.name).map .unusableName).or (definitionFault? t.definition)

/-- The error that a fault of this type is. -/
def invalid (t : CustomType) (fault : Fault) : ConversionError :=
  .invalidCustomType t.name fault.message

/-- Accepts a type that is well formed. -/
def validate (t : CustomType) : Except ConversionError Unit :=
  match t.fault? with
  | none => .ok ()
  | some fault => .error (t.invalid fault)

end CustomType

end SchemaConversion
