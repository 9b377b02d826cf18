import SchemaConversion.CustomType.Strategy
import SchemaConversion.TypeConversion
import SchemaConversion.Expression

/-!
# Converting custom types

A custom type is converted by the primary strategy for it or, if that fails, by the fallback, with
a warning that says why. The result names the type that fields get instead, or the columns that
stand for it, and what has to be made along with it: a definition, constraints or a lookup table.

Fields and elements may refer to other custom types of a catalog, which are converted in their
turn one level further down. The number of levels is limited, so that a catalog whose types refer
to each other in a circle comes to an end: `CustomConverter.resolveAt` and
`CustomConverter.columnsAt` recurse on the levels that are left.
-/

namespace SchemaConversion

/-- A column that stands for a field of a flattened composite, its name ending in the suffix. -/
structure ColumnSpec where
  suffix : String
  dataType : String
  deriving DecidableEq

/-- Something that is made along with a converted type. -/
inductive Supplement where
  | column (spec : ColumnSpec)
  /-- A condition with a placeholder for the column. -/
  | constraint (name expression : String)
  | lookupTable (name keyType : String) (values : List String)
  deriving DecidableEq

/-- What a strategy makes of a type. -/
structure Rendition where
  /-- The type that fields get instead; none if columns stand for it. -/
  convertedType : Option String := none
  /-- The statement that creates the type. -/
  definition : Option String := none
  supplements : List Supplement := []
  requiresUserInput : Bool := false
  warnings : List String := []
  notes : List String := []

/-- The conversion of a custom type. -/
structure CustomConversion where
  typeName : String
  category : CustomCategory
  /-- The strategy that was carried out. -/
  strategy : CustomStrategy
  primaryStrategy : CustomStrategy
  /-- The primary strategy was tried and failed. -/
  usedFallback : Bool
  rendition : Rendition

/-- The conversion of custom types between two databases. -/
structure CustomConverter where
  types : TypeConverter
  /-- The custom types that others may refer to. -/
  catalog : List CustomType := []
  /-- How many levels types may nest, at least one. -/
  levels : Nat

namespace CustomConverter

/-- The conversion with a limit on nesting, which is never less than one level. -/
def withDepth (types : TypeConverter) (catalog : List CustomType) (depth : Nat) :
    CustomConverter := { types, catalog, levels := max 1 depth }

/-- The database into which types are converted. -/
def target (c : CustomConverter) : TypeProfile := c.types.target

/-- How types at a deeper level are converted. -/
structure Nested where
  resolve : CustomType → Except ConversionError CustomConversion
  columns : List CompositeField → Except String (List ColumnSpec)

/-- The number of characters of the longest value. -/
def longest? (values : List String) : Option Nat := (values.map String.length).max?

/-- The name of the first canonical type for which the target has a native one. -/
def firstNative? (c : CustomConverter) (canonicals : List CanonicalType) : Option String :=
  canonicals.findSome? fun canonical => (c.target.nativeFor? canonical).map TypeInfo.name

/-- A string column for values of at most this many characters. -/
def stringColumn (c : CustomConverter) (length? : Option Nat) : Except String String :=
  match c.target.nativeFor? .varchar with
  | some info =>
    let length := ((length?.map (max 1)).or info.defaultLength).getD 255
    .ok (if info.acceptsLength then
        TypeConverter.parameterized info.name
          (toString (TypeConverter.cappedBy info.maxLength length))
      else info.name)
  | none =>
    match c.firstNative? [.string, .text, .clob] with
    | some name => .ok name
    | none => .error (c.target.database ++ " has no string type")

/-- A column that holds JSON. Databases that keep JSON in texts have it in their text type. -/
def jsonColumn (c : CustomConverter) : Except String String :=
  let inText? :=
    if c.target.customTypes.json.isSome then c.firstNative? [.text] else none
  match (c.firstNative? [.json, .document, .object, .map]).or inText? with
  | some name => .ok name
  | none => .error (c.target.database ++ " has no JSON type")

/-- The constraints for the conditions of a domain, numbered if there are several. -/
def domainConstraints (domain : String) (conditions : List String) : List Supplement :=
  conditions.zipIdx.map fun (condition, i) =>
    let suffix := if conditions.length = 1 then "check" else "check" ++ toString (i + 1)
    .constraint (Identifier.derived domain suffix) (Expression.forColumn condition)

/-- A setting of the target is missing or a payload is not usable. -/
def refuse {α : Type} (reason : String) : Except ConversionError α := .error (.config reason)

/-- The message of a failure instead of the failure. -/
def explained {α : Type} (result : Except ConversionError α) : Except String α :=
  result.mapError ConversionError.message

/-- The failure with a text before its message. -/
def about {α : Type} (subject : String) (result : Except ConversionError α) : Except String α :=
  result.mapError fun e => subject ++ ": " ++ e.message

/-- Accepts conditions that may be attached to a target. -/
def screen (conditions : List String) : Except ConversionError Unit :=
  match conditions.findSome? Expression.fault? with
  | none => .ok ()
  | some fault => .error (.config fault.message)

/-- The spelling in the target of a type to which a field or element refers. -/
def spelling (c : CustomConverter) (resolve : CustomType → Except ConversionError CustomConversion)
    (reference : String) : Except ConversionError String :=
  match CustomType.find? c.catalog reference with
  | some inner => do
    let conversion ← resolve inner
    match conversion.rendition.convertedType with
    | some name => .ok name
    | none => refuse (inner.name ++ " has no single-column representation")
  | none => (c.types.resolve reference).map TypeConversion.converted

/-- The columns for one field of a composite. -/
def fieldColumns (c : CustomConverter) (inner : Nested) (field : CompositeField) :
    Except String (List ColumnSpec) :=
  if Text.isBlankText field.name then .error "composite field with empty name"
  else
    match CustomType.find? c.catalog field.dataType with
    | some ⟨_, .composite fields⟩ =>
      (inner.columns fields).map fun columns => columns.map fun column =>
        { column with suffix := Identifier.derived field.name column.suffix }
    | _ =>
      (about ("field " ++ field.name) (c.spelling inner.resolve field.dataType)).map fun dataType =>
        [⟨field.name, dataType⟩]

/-- The columns for the fields of a composite, in order. -/
def columns (c : CustomConverter) (inner : Nested) (fields : List CompositeField) :
    Except String (List ColumnSpec) :=
  if fields.isEmpty then .error "composite has no fields"
  else (fields.mapM (c.fieldColumns inner)).map List.flatten

/-- The target has no template for the category. -/
def noTemplate (c : CustomConverter) (category : CustomCategory) : ConversionError :=
  .config (c.target.database ++ " has no native " ++ category.name ++ " implementation")

/-- The template by which the target expresses the category. -/
def template (c : CustomConverter) (category : CustomCategory) :
    Except ConversionError NativeTemplate :=
  match StrategyChoice.native? c.target category with
  | some template => .ok template
  | none => .error (c.noTemplate category)

/-- What fills a template, and what it leaves to be made along with it. -/
structure Filling where
  template : NativeTemplate
  values : List (String × String)
  supplements : List Supplement := []
  warnings : List String := []
  notes : List String := []

/-- The filling for a domain: its conditions go into the template, else into constraints of the
columns, else they are given up with a warning. -/
def domainFilling (c : CustomConverter) (name baseType : String) (conditions : List String) :
    Except ConversionError Filling := do
  let template ← c.template .domain
  let base ← (c.types.resolve baseType).map TypeConversion.converted
  screen conditions
  let values (checks : String) := [("base", base), ("checks", checks)]
  if template.hasPlaceholder "checks" then
    let checks := String.join (conditions.map fun condition => " CHECK (" ++ condition ++ ")")
    .ok { template, values := values checks }
  else if conditions.isEmpty then .ok { template, values := values "" }
  else if c.target.constraints.check then
    .ok
      { template, values := values "", supplements := domainConstraints name conditions
        notes := [toString conditions.length
          ++ " domain constraints moved to column check constraints"] }
  else
    .ok
      { template, values := values ""
        warnings := ["domain constraints not enforced: " ++ " AND ".intercalate conditions] }

/-- A field of a composite with its type in the target. -/
def typedField (c : CustomConverter)
    (resolve : CustomType → Except ConversionError CustomConversion) (field : CompositeField) :
    Except ConversionError String :=
  match about ("field " ++ field.name) (c.spelling resolve field.dataType) with
  | .ok dataType => .ok (field.name ++ " " ++ dataType)
  | .error reason => refuse reason

/-- The filling for a type in the template of its category. -/
def filling (c : CustomConverter) (resolve : CustomType → Except ConversionError CustomConversion)
    (t : CustomType) : Except ConversionError Filling :=
  match t.definition with
  | .enum values =>
    if values.isEmpty then refuse "enum has no values"
    else do
      let template ← c.template .enum
      .ok { template, values := [("values", Expression.literalList values)] }
  | .composite fields =>
    if fields.isEmpty then refuse "composite has no fields"
    else do
      let typed ← fields.mapM (c.typedField resolve)
      let template ← c.template .composite
      .ok { template, values := [("fields", ", ".intercalate typed)] }
  | .domain baseType conditions => c.domainFilling t.name baseType conditions
  | .array elementType => do
    let element ← c.spelling resolve elementType
    let template ← c.template .array
    .ok { template, values := [("element", element)] }
  | .range subtype =>
    match about ("range subtype " ++ subtype) (c.types.resolve subtype) with
    | .error reason => refuse reason
    | .ok base => do
      let template ← c.template .range
      .ok { template, values := [("base", base.converted)] }
  | .spatial geometry srid => do
    let template ← c.template .spatial
    .ok
      { template, values := [("base", geometry)]
        notes := srid.toList.map fun srid => "SRID " ++ toString srid }
  | _ => .error (c.noTemplate t.category)

/-- The type as a native one. A template that is a statement creates a type of the same name; any
other is itself the spelling. -/
def asNative (c : CustomConverter) (resolve : CustomType → Except ConversionError CustomConversion)
    (t : CustomType) : Except ConversionError Rendition := do
  let filling ← c.filling resolve t
  let rendered := filling.template.render (("name", t.name) :: filling.values)
  let statement := filling.template.isStatement
  .ok
    { convertedType := some (if statement then t.name else rendered)
      definition := if statement then some rendered else none
      supplements := filling.supplements
      warnings := filling.warnings ++ filling.template.limitations
      notes := filling.notes }

/-- The target does not enforce constraints. -/
def noChecks (c : CustomConverter) : String :=
  c.target.database ++ " does not enforce check constraints"

/-- An enumeration as strings with a constraint that lists the values. -/
def asConstrainedString (c : CustomConverter) (t : CustomType) : Except String Rendition :=
  match t.definition with
  | .enum values =>
    if values.isEmpty then .error "enum has no values"
    else if !c.target.constraints.check then .error c.noChecks
    else do
      let column ← c.stringColumn (longest? values)
      .ok
        { convertedType := some column
          supplements :=
            [.constraint (Identifier.derived t.name "check")
              (Expression.columnPlaceholder ++ " IN (" ++ Expression.literalList values ++ ")")]
          notes := [toString values.length ++ " values enforced by a check constraint"] }
  | _ => .error "only enums can be emulated with a value constraint"

/-- A domain as its base type with the conditions as constraints. -/
def asConstrainedBase (c : CustomConverter) (t : CustomType) : Except String Rendition :=
  match t.definition with
  | .domain baseType conditions =>
    if !c.target.constraints.check then .error c.noChecks
    else do
      let base ← about ("base type " ++ baseType) (c.types.resolve baseType)
      explained (screen conditions)
      .ok
        { convertedType := some base.converted
          supplements := domainConstraints t.name conditions
          warnings := base.warnings }
  | _ => .error "only domains carry check constraints"

/-- The type as plain strings. -/
def asPlainString (c : CustomConverter) (t : CustomType) : Except String Rendition := do
  let values? := match t.definition with
    | .enum values => some values
    | _ => none
  let column ← c.stringColumn (values?.bind longest?)
  .ok
    { convertedType := some column
      warnings := ["type safety reduced: " ++ t.category.name ++ " " ++ t.name
        ++ " stored as a plain string"]
      notes := values?.toList.map fun values => "allowed values: " ++ ", ".intercalate values }

/-- How a definition is laid out in JSON. -/
def jsonNotes : CustomDefinition → List String
  | .composite fields =>
    ["fields " ++ ", ".intercalate (fields.map CompositeField.name)
      ++ " stored as JSON object keys"]
  | .array elementType => [elementType ++ " elements stored as a JSON array"]
  | .spatial .. => ["stored as GeoJSON"]
  | _ => []

/-- The type as JSON. -/
def asJsonColumn (c : CustomConverter) (t : CustomType) : Except String Rendition := do
  let column ← c.jsonColumn
  .ok { convertedType := some column, notes := jsonNotes t.definition }

/-- An enumeration as references to a table of its values. -/
def asLookupTable (c : CustomConverter) (t : CustomType) : Except String Rendition :=
  match t.definition with
  | .enum values =>
    if values.isEmpty then .error "enum has no values"
    else do
      let keyType ← c.stringColumn (longest? values)
      let table := Identifier.derived t.name "values"
      .ok
        { convertedType := some keyType
          supplements := [.lookupTable table keyType values]
          requiresUserInput := true
          warnings := [toString values.length ++ " values moved to lookup table " ++ table
            ++ "; confirm the reference column"] }
  | _ => .error "only enums can become lookup tables"

/-- A composite as columns. -/
def asColumns (columns : List CompositeField → Except String (List ColumnSpec)) (t : CustomType) :
    Except String Rendition :=
  match t.definition with
  | .composite fields => do
    let specs ← columns fields
    .ok
      { supplements := specs.map .column
        notes := ["expanded into " ++ toString specs.length ++ " columns"] }
  | _ => .error "only composites can be flattened"

/-- What a strategy makes of a type, at a level with this one below it. -/
def rendition (c : CustomConverter) (inner : Nested) (strategy : CustomStrategy) (t : CustomType) :
    Except String Rendition :=
  match strategy with
  | .direct => explained (c.asNative inner.resolve t)
  | .emulateWithConstraint => c.asConstrainedString t
  | .asString => c.asPlainString t
  | .asJson => c.asJsonColumn t
  | .lookupTable => c.asLookupTable t
  | .flatten => asColumns (c.columns inner) t
  | .checkConstraint => c.asConstrainedBase t
  | .unsupported => .error "no conversion available"

/-- What a strategy makes of a type, or why it fails. -/
def apply (c : CustomConverter) (inner : Nested) (strategy : CustomStrategy) (t : CustomType) :
    Except ConversionError Rendition :=
  (c.rendition inner strategy t).mapError (.strategyFailed t.name strategy.name)

/-- The conversion of a type by the primary strategy or else by the fallback. -/
def resolveWith (c : CustomConverter) (inner : Nested) (t : CustomType) :
    Except ConversionError CustomConversion :=
  let choice := StrategyChoice.of t.definition c.target
  let conversion (strategy : CustomStrategy) (rendition : Rendition) : CustomConversion :=
    { typeName := t.name, category := t.category, strategy, primaryStrategy := choice.primary
      usedFallback := strategy != choice.primary, rendition }
  match c.apply inner choice.primary t with
  | .ok rendition => .ok (conversion choice.primary rendition)
  | .error failure =>
    if choice.primary = choice.fallback then .error (.customTypeConversion t.name failure.message)
    else
      match c.apply inner choice.fallback t with
      | .ok rendition =>
        let warning := choice.primary.name ++ " strategy failed: " ++ failure.message
        .ok (conversion choice.fallback
          { rendition with warnings := rendition.warnings ++ [warning] })
      | .error second =>
        .error (.customTypeConversion t.name (failure.message ++ "; fallback: " ++ second.message))

/-- Types nest more deeply than is allowed. -/
def tooDeep (c : CustomConverter) : String := "nesting exceeds " ++ toString c.levels ++ " levels"

mutual
/-- The conversion of a type with this many levels left, itself included. -/
def resolveAt (c : CustomConverter) : Nat → CustomType → Except ConversionError CustomConversion
  | 0, t => refuse (c.tooDeep ++ " at " ++ t.name)
  | left + 1, t => c.resolveWith ⟨resolveAt c left, columnsAt c left⟩ t

/-- The columns of a composite with this many levels left, its own included. -/
def columnsAt (c : CustomConverter) : Nat → List CompositeField → Except String (List ColumnSpec)
  | 0, fields => .error (if fields.isEmpty then "composite has no fields" else c.tooDeep)
  | left + 1, fields => c.columns ⟨resolveAt c left, columnsAt c left⟩ fields
end

/-- The conversion of a type. -/
def resolve (c : CustomConverter) (t : CustomType) : Except ConversionError CustomConversion :=
  c.resolveAt c.levels t

end CustomConverter

end SchemaConversion
