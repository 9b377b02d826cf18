import SchemaConversion.CustomType
import SchemaConversion.ObjectType
import SchemaConversion.Dictionary

/-!
# Schemas

A schema holds objects in containers, one for each container kind, and a catalog of custom types.
Objects have typed fields and carry their definition, constraints and properties as text. A schema
is valid if all names in it are usable and its custom types are well formed and differ in their
names without regard to case; the first violation in the order of the containers is reported.
-/

namespace SchemaConversion

/-- A typed field of an object. -/
structure Field where
  name : String
  /-- A native spelling or the name of a custom type. -/
  dataType : String
  nullable : Bool := true
  deriving DecidableEq, Inhabited

/-- An object of a schema. -/
structure SchemaObject where
  name : String
  fields : List Field := []
  /-- The body of a view, function or trigger. -/
  definition : Option String := none
  constraints : List String := []
  properties : Dictionary String := .empty
  deriving DecidableEq, Inhabited

/-- The first field with a name, without regard to the case of ASCII letters. -/
def SchemaObject.field? (o : SchemaObject) (name : String) : Option Field :=
  o.fields.find? fun f => Text.equalIgnoringCase f.name name

/-- A database schema. -/
structure Schema where
  name : String
  /-- The objects of each container. -/
  objects : ContainerKind → List SchemaObject := fun _ => []
  /-- The catalog of custom types. -/
  types : List CustomType := []

namespace Schema

/-- The objects of a type; none if the type has no container. -/
def objectsOf (s : Schema) (t : ObjectType) : List SchemaObject :=
  (t.container?.map s.objects).getD []

/-- How many objects of a type there are, where the custom types count as one type. -/
def count (s : Schema) (t : ObjectType) : Nat :=
  if t = .customType then s.types.length else (s.objectsOf t).length

/-- The object types with objects and how many there are, in declaration order. -/
def counts (s : Schema) : List (ObjectType × Nat) :=
  (ObjectType.all.map fun t => (t, s.count t)).filter fun entry => entry.2 ≠ 0

/-- The number of all objects, custom types included. -/
def total (s : Schema) : Nat := (s.counts.map Prod.snd).foldr (· + ·) 0

/-- The custom type that a reference names. -/
def customType? (s : Schema) (reference : String) : Option CustomType :=
  CustomType.find? s.types reference

/-- The first fault in the names of an object and its fields. -/
def nameFault? (o : SchemaObject) : Option Identifier.Fault :=
  (Identifier.fault? o.name).or (o.fields.findSome? fun f => Identifier.fault? f.name)

/-- The first violation in a catalog, after types with the names `seen` in lower case. -/
def catalogError? : List String → List CustomType → Option ConversionError
  | _, [] => none
  | seen, t :: rest =>
    let key := Text.lowerCase t.name
    match t.fault? with
    | some fault => some (t.invalid fault)
    | none =>
      if seen.contains key then some (t.invalid .repeatedType)
      else catalogError? (key :: seen) rest

/-- The first violation, if there is one. -/
def error? (s : Schema) : Option ConversionError :=
  match (ContainerKind.all.flatMap s.objects).findSome? nameFault? with
  | some fault => some (.config fault.message)
  | none => catalogError? [] s.types

/-- Accepts a schema without a violation. -/
def validate (s : Schema) : Except ConversionError Unit :=
  match s.error? with
  | none => .ok ()
  | some e => .error e

end Schema

end SchemaConversion
