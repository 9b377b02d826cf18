import SchemaConversion.Schema
import SchemaConversion.ExecutionMode

/-!
# Conversion requests

What a user asks for: a schema to be converted from one database to another, with preferences on
what to leave out, what to put in the place of types, and how to decide open questions.
-/

namespace SchemaConversion

/-- What a user wants of one conversion. -/
structure Preferences where
  /-- Object types that are left out. -/
  excludedTypes : List ObjectType := []
  /-- Names of objects and custom types that are left out. -/
  excludedNames : List String := []
  /-- Target spellings that replace source spellings. -/
  typeOverrides : Dictionary String := .empty
  /-- Answers to decisions by their identifiers. -/
  decisions : Dictionary String := .empty
  enrichmentAvailable : Bool := false
  sampleDataAvailable : Bool := false
  /-- Loss is a warning; otherwise it counts as an error. -/
  allowLossy : Bool := true

namespace Preferences

/-- All objects of a type are left out. -/
def excludesType (p : Preferences) (t : ObjectType) : Bool := p.excludedTypes.contains t

/-- An object or custom type is left out by its name, without regard to the case of ASCII
letters. -/
def excludesName (p : Preferences) (name : String) : Bool :=
  p.excludedNames.any fun excluded => Text.equalIgnoringCase excluded name

end Preferences

/-- A request for a conversion. -/
structure ConversionRequest where
  schema : Option Schema
  source : String
  target : String
  preferences : Preferences := {}
  /-- How the request is carried out, if it says so itself. -/
  mode : Option ExecutionMode := none

end SchemaConversion
