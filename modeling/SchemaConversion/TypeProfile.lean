import SchemaConversion.Dictionary
import SchemaConversion.TypeName
import SchemaConversion.CanonicalType

/-!
# Type profiles

What one database calls the canonical types, and what its own system of custom types can express.
A profile finds the entry of a native spelling, under its name, under another spelling of it or
behind an `unsigned` modifier, and the native entry of a canonical type. Profiles are built entry
by entry; a later entry of the same name replaces an earlier one.
-/

namespace SchemaConversion

/-- A native type. -/
structure TypeInfo where
  name : String
  canonical : CanonicalType
  nullable : Bool := true
  /-- The maximum length of character and binary types; none if unbounded. -/
  maxLength : Option Nat := none
  /-- The length that is used where none is declared. -/
  defaultLength : Option Nat := none
  maxPrecision : Option Nat := none
  maxScale : Option Nat := none
  /-- The precision and scale that are used where none are declared. -/
  defaultPrecision : Option (Nat × Nat) := none
  acceptsLength : Bool := false
  acceptsPrecision : Bool := false
  /-- An `unsigned` modifier changes the type. -/
  supportsUnsigned : Bool := false
  /-- Other spellings of the type. -/
  aliases : List String := []
  deriving DecidableEq

namespace TypeInfo

/-- A type without parameters, its name in normal form. -/
def simple (name : String) (canonical : CanonicalType) (aliases : List String := []) : TypeInfo :=
  { name := TypeName.normalize name, canonical, aliases }

/-- An integer type that has an unsigned form. -/
def integer (name : String) (canonical : CanonicalType) (aliases : List String := []) : TypeInfo :=
  { simple name canonical aliases with supportsUnsigned := true }

/-- A type with a length. -/
def sized (name : String) (canonical : CanonicalType) (maxLength defaultLength : Option Nat)
    (aliases : List String := []) : TypeInfo :=
  { simple name canonical aliases with acceptsLength := true, maxLength, defaultLength }

/-- A type without parameters but with an upper bound. -/
def bounded (name : String) (canonical : CanonicalType) (maxLength : Nat) : TypeInfo :=
  { simple name canonical with maxLength := some maxLength }

/-- A type with a precision and a scale. -/
def numeric (name : String) (canonical : CanonicalType) (maxPrecision maxScale : Option Nat)
    (aliases : List String := []) : TypeInfo :=
  { simple name canonical aliases with acceptsPrecision := true, maxPrecision, maxScale }

/-- The type with a precision and scale for where none are declared. -/
def withPrecision (t : TypeInfo) (precision scale : Nat) : TypeInfo :=
  { t with defaultPrecision := some (precision, scale) }

/-- The type takes parameters. -/
def acceptsParameters (t : TypeInfo) : Bool := t.acceptsLength || t.acceptsPrecision

/-- The upper bound on what is declared in parameters. -/
def bound? (t : TypeInfo) : Option Nat := t.maxLength.or t.maxPrecision

end TypeInfo

/-- How a database natively expresses a category of custom types. -/
structure NativeTemplate where
  /-- The text with its placeholders, names in braces. -/
  pattern : String
  limitations : List String := []
  deriving DecidableEq

namespace NativeTemplate

/-- A name as it stands in a pattern. -/
def placeholder (key : String) : String := "\x7b" ++ key ++ "\x7d"

namespace Placeholder

/-- The name of the type. -/
def name : String := placeholder "name"

/-- The values of an enumeration as a list of literals. -/
def values : String := placeholder "values"

/-- The fields of a composite, each with its type. -/
def fields : String := placeholder "fields"

/-- The type of an array's elements. -/
def element : String := placeholder "element"

/-- The base type of a domain or range. -/
def base : String := placeholder "base"

/-- The conditions of a domain. -/
def checks : String := placeholder "checks"

end Placeholder

/-- The template is a statement that creates the type, not an expression that stands for it. -/
def isStatement (t : NativeTemplate) : Bool :=
  ((Text.dropBlanks t.pattern.toList).take 7).map Char.toLower = "create ".toList

/-- The template has a place for this name. -/
def hasPlaceholder (t : NativeTemplate) (key : String) : Bool :=
  Text.containsText (placeholder key) t.pattern

/-- The pattern with the values in their places, one name after the other. -/
def render (t : NativeTemplate) (values : List (String × String)) : String :=
  values.foldl (fun s entry => Text.replaceText (placeholder entry.1) entry.2 s) t.pattern

end NativeTemplate

/-- The categories of custom types that a database expresses natively. -/
structure CustomTypeSupport where
  enums : Option NativeTemplate := none
  composites : Option NativeTemplate := none
  domains : Option NativeTemplate := none
  arrays : Option NativeTemplate := none
  ranges : Option NativeTemplate := none
  json : Option NativeTemplate := none
  xml : Option NativeTemplate := none
  spatial : Option NativeTemplate := none

/-- The constraints that a database enforces. -/
structure ConstraintSupport where
  primaryKey : Bool := false
  foreignKey : Bool := false
  unique : Bool := false
  check : Bool := false
  notNull : Bool := false
  defaultValue : Bool := false
  autoIncrement : Bool := false
  deriving DecidableEq

/-- Everything that a relational database enforces. -/
def ConstraintSupport.relational : ConstraintSupport :=
  ⟨true, true, true, true, true, true, true⟩

/-- The native types of one database. -/
structure TypeProfile where
  database : String
  /-- The entries by name. -/
  types : Dictionary TypeInfo := .empty
  /-- The names that other spellings stand for. -/
  aliases : Dictionary String := .empty
  /-- The preferred native name of a canonical type. -/
  preferred : CanonicalType → Option String := fun _ => none
  customTypes : CustomTypeSupport := {}
  constraints : ConstraintSupport := {}

namespace TypeProfile

/-- The entry under a name or another spelling of it. -/
def lookup? (p : TypeProfile) (normal : String) : Option TypeInfo :=
  (p.types.find? normal).or ((p.aliases.find? normal).bind p.types.find?)

/-- A spelling in normal form without its `unsigned` modifier, if it has one. -/
def withoutUnsigned? (normal : String) : Option String :=
  let rest? := (" unsigned".toList.isSuffixOf? normal.toList).or
    ("unsigned ".toList.isPrefixOf? normal.toList)
  rest?.map fun rest => String.ofList (Text.trimChars rest)

/-- The entry with the unsigned canonical type, if the modifier changes it. -/
def asUnsigned (info : TypeInfo) : TypeInfo :=
  if info.supportsUnsigned then
    { info with canonical := info.canonical.unsignedVariant?.getD info.canonical }
  else info

/-- The entry of a native spelling. -/
def typeInfo? (p : TypeProfile) (spelling : String) : Option TypeInfo :=
  let normal := TypeName.normalize spelling
  (p.lookup? normal).or (((withoutUnsigned? normal).bind p.lookup?).map asUnsigned)

/-- The native entry of a canonical type: the preferred one, else the first by name. -/
def nativeFor? (p : TypeProfile) (c : CanonicalType) : Option TypeInfo :=
  ((p.preferred c).bind p.types.find?).or (p.types.values.find? (·.canonical == c))

/-- Adds an entry and its other spellings. -/
def entry (p : TypeProfile) (info : TypeInfo) : TypeProfile :=
  { p with
    aliases := info.aliases.foldl (fun d a => d.insert (TypeName.normalize a) info.name) p.aliases
    types := p.types.insert info.name info }

/-- Prefers a native name for a canonical type. -/
def prefer (p : TypeProfile) (c : CanonicalType) (name : String) : TypeProfile :=
  { p with preferred := fun d => if d = c then some (TypeName.normalize name) else p.preferred d }

/-- Sets the precision and scale that an entry uses where none are declared. -/
def withDefaultPrecision (p : TypeProfile) (name : String) (precision scale : Nat) : TypeProfile :=
  let name := TypeName.normalize name
  { p with types := p.types.map fun key info =>
      if key = name then info.withPrecision precision scale else info }

/-- Sets what custom types the database expresses. -/
def withCustomTypes (p : TypeProfile) (support : CustomTypeSupport) : TypeProfile :=
  { p with customTypes := support }

/-- Sets what constraints the database enforces. -/
def withConstraints (p : TypeProfile) (support : ConstraintSupport) : TypeProfile :=
  { p with constraints := support }

/-- The profile with these entries and preferences, each later one over the earlier ones. -/
def ofTable (database : String) (entries : List TypeInfo)
    (preferred : List (CanonicalType × String) := []) : TypeProfile :=
  preferred.foldl (fun p choice => p.prefer choice.1 choice.2)
    (entries.foldl entry { database })

end TypeProfile

end SchemaConversion
