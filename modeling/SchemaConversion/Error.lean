/-!
# What can go wrong

Every failure of a conversion is a `ConversionError`, a cause with the names that belong to it.
Its wording, its family's exit code and whether it ends a whole request or only concerns one item
are functions of the cause.
-/

namespace SchemaConversion

/-- The cause of a failure. -/
inductive ConversionError where
  /-- A setting, a name or an expression is not acceptable. -/
  | config (reason : String)
  | missingSchema
  | unknownDatabase (id : String)
  | sameDatabase (id : String)
  /-- A database has no profile of the kind that is needed. -/
  | matrixUnavailable (database reason : String)
  | unknownType (database typeName : String)
  | noEquivalent (database canonical : String)
  /-- A descriptor of a custom type is malformed. -/
  | invalidCustomType (name reason : String)
  | strategyFailed (typeName strategy reason : String)
  /-- Neither the primary nor the fallback strategy works for a custom type. -/
  | customTypeConversion (typeName reason : String)
  | noPathFound (source target : String)
  | impossibleConversion (source target sourceParadigms targetParadigms suggestion : String)
  | cancelled
  | io (reason : String)
  | yaml
  | json
  deriving DecidableEq

namespace ConversionError

/-- The sentence about a failure. -/
def message : ConversionError → String
  | .config reason => "Configuration error: " ++ reason
  | .missingSchema => "Conversion request has no source schema"
  | .unknownDatabase id => "Unknown database: '" ++ id ++ "'"
  | .sameDatabase id =>
    "Source and target database are both '" ++ id ++ "' - nothing to convert"
  | .matrixUnavailable database reason =>
    "Conversion matrix unavailable for " ++ database ++ ": " ++ reason
  | .unknownType database typeName =>
    "Unknown type '" ++ typeName ++ "' for database " ++ database
  | .noEquivalent database canonical =>
    "No equivalent of canonical type " ++ canonical ++ " in database " ++ database
  | .invalidCustomType name reason => "Invalid custom type '" ++ name ++ "': " ++ reason
  | .strategyFailed typeName strategy reason =>
    "Strategy " ++ strategy ++ " failed for type '" ++ typeName ++ "': " ++ reason
  | .customTypeConversion typeName reason =>
    "Custom type '" ++ typeName ++ "' could not be converted: " ++ reason
  | .noPathFound source target =>
    "No conversion path found from " ++ source ++ " to " ++ target
  | .impossibleConversion source target sourceParadigms targetParadigms suggestion =>
    "Conversion from " ++ source ++ " " ++ sourceParadigms ++ " to " ++ target ++ " "
      ++ targetParadigms ++ " is impossible" ++ suggestion
  | .cancelled => "Conversion cancelled"
  | .io reason => "IO error: " ++ reason
  | .yaml => "YAML error"
  | .json => "JSON error"

/-- The failure ends a whole request; the others concern one type or one custom type. -/
def isFatal : ConversionError → Bool
  | .unknownType .. | .noEquivalent .. | .strategyFailed .. | .customTypeConversion .. => false
  | _ => true

/-- The exit code of the family a failure belongs to. -/
def exitCode : ConversionError → Nat
  | .config _ | .yaml | .json => 2
  | .missingSchema | .unknownDatabase _ | .sameDatabase _ | .invalidCustomType .. => 3
  | .matrixUnavailable .. | .noPathFound .. | .impossibleConversion .. => 4
  | .unknownType .. | .noEquivalent .. | .strategyFailed .. | .customTypeConversion .. => 5
  | .cancelled => 130
  | .io _ => 1

/-- The underlying failures, outermost first. -/
def causes : ConversionError → List String
  | .io reason => [reason]
  | _ => []

/-- The failure and its causes, numbered from one. -/
def detailed (e : ConversionError) : String :=
  let cause (entry : String × Nat) : String :=
    "\nCaused by:\n  " ++ toString (entry.2 + 1) ++ ": " ++ entry.1
  "Error: " ++ e.message ++ "\n" ++ String.join (e.causes.zipIdx.map cause)

end ConversionError

end SchemaConversion
