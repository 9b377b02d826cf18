import SchemaConversion.CustomType
import SchemaConversion.TypeProfile

/-!
# Strategies for custom types

How a custom type can be carried into a target. Which strategy comes first and which one is left to
fall back on depends on the category of the type and on what the target can express.
-/

namespace SchemaConversion

/-- A way of carrying a custom type into a target. -/
inductive CustomStrategy where
  /-- A native type of the same category. -/
  | direct
  /-- A string column with a constraint that lists the values. -/
  | emulateWithConstraint
  | asString
  /-- A column that holds JSON or a document. -/
  | asJson
  /-- A table of the values to which columns refer. -/
  | lookupTable
  /-- A column for each field of a composite. -/
  | flatten
  /-- The base type of a domain with the conditions as constraints. -/
  | checkConstraint
  | unsupported
  deriving DecidableEq, Inhabited

namespace CustomStrategy

/-- Every strategy, in declaration order. -/
def all : List CustomStrategy :=
  [.direct, .emulateWithConstraint, .asString, .asJson, .lookupTable, .flatten, .checkConstraint,
    .unsupported]

/-- The name by which documents and messages call the strategy. -/
def name : CustomStrategy → String
  | .direct => "direct"
  | .emulateWithConstraint => "emulate_with_constraint"
  | .asString => "as_string"
  | .asJson => "as_json"
  | .lookupTable => "lookup_table"
  | .flatten => "flatten"
  | .checkConstraint => "check_constraint"
  | .unsupported => "unsupported"

/-- The strategy with this name. -/
def ofName? (name : String) : Option CustomStrategy := all.find? (·.name == name)

end CustomStrategy

/-- An enumeration with more values than this becomes a lookup table. -/
def maxListedValues : Nat := 64

/-- The strategy to try and the one to fall back on. -/
structure StrategyChoice where
  primary : CustomStrategy
  fallback : CustomStrategy
  deriving DecidableEq

namespace StrategyChoice

/-- JSON where the target has it, else a string. -/
def structuredOrString (target : TypeProfile) : CustomStrategy :=
  if target.customTypes.json.isSome then .asJson else .asString

/-- The primary strategy where the target does not express a definition natively. -/
def withoutNative (target : TypeProfile) : CustomDefinition → CustomStrategy
  | .enum values =>
    if maxListedValues < values.length then .lookupTable
    else if target.constraints.check then .emulateWithConstraint
    else .asString
  | .composite _ => if target.customTypes.json.isSome then .asJson else .flatten
  | .domain .. => if target.constraints.check then .checkConstraint else .asString
  | _ => structuredOrString target

/-- The template by which a target expresses a category natively, if it does. -/
def native? (target : TypeProfile) : CustomCategory → Option NativeTemplate
  | .enum => target.customTypes.enums
  | .composite => target.customTypes.composites
  | .domain => target.customTypes.domains
  | .array => target.customTypes.arrays
  | .range => target.customTypes.ranges
  | .spatial => target.customTypes.spatial
  | .temporal | .binary | .other => none

/-- The strategy to fall back on. -/
def fallbackFor : CustomCategory → CustomStrategy
  | .composite => .flatten
  | .array => .asJson
  | _ => .asString

/-- The strategies for a definition in a target. -/
def of (definition : CustomDefinition) (target : TypeProfile) : StrategyChoice where
  primary :=
    if (native? target definition.category).isSome then .direct
    else withoutNative target definition
  fallback := fallbackFor definition.category

end StrategyChoice

end SchemaConversion
