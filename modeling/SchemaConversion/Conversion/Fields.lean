import SchemaConversion.Conversion.Catalog

/-!
# Converting fields and objects

A field whose type is a custom type follows the fate of that type; any other field gets the
converted type. A type that cannot be converted stays as it is, with a warning, so no field is
lost. Custom types may add constraints to the object, and references to lookup tables.
-/

namespace SchemaConversion

/-- What one field contributes to its converted object. -/
structure FieldConversion where
  fields : List Field
  constraints : List String := []
  /-- Properties that name lookup tables. -/
  references : List (String × String) := []
  warnings : List ConversionWarning := []

/-- The fields that stand for a field whose custom type was converted: the field with the new type,
or one for each column. -/
def Field.renderedBy (f : Field) (r : Rendition) : List Field :=
  match r.convertedType with
  | some dataType => [{ f with dataType }]
  | none =>
    r.supplements.filterMap fun supplement =>
      match supplement with
      | .column spec =>
        some { f with name := Identifier.derived f.name spec.suffix, dataType := spec.dataType }
      | _ => none

/-- The constraint that a supplement puts on a field. -/
def Field.constraintOf? (f : Field) : Supplement → Option String
  | .constraint _ expression =>
    some (Text.replaceText Expression.columnPlaceholder f.name expression)
  | _ => none

/-- The reference that a supplement makes of a field. -/
def Field.referenceOf? (f : Field) : Supplement → Option (String × String)
  | .lookupTable name .. => some (f.name ++ ".references", name)
  | _ => none

/-- The conversion of a field whose custom type was converted. -/
def Field.follow (f : Field) (c : CustomConversion) : FieldConversion where
  fields := f.renderedBy c.rendition
  constraints := c.rendition.supplements.filterMap f.constraintOf?
  references := c.rendition.supplements.filterMap f.referenceOf?

namespace Plan

/-- A warning that a field keeps its type. -/
def keepsType (kind : WarningKind) (t : ObjectType) (objectName : String) (f : Field)
    (reason : String) : ConversionWarning :=
  let warning : ConversionWarning :=
    { kind, severity := .warning
      message := objectName ++ "." ++ f.name ++ " keeps type " ++ f.dataType ++ ": " ++ reason }
  warning.on t objectName

/-- A warning that values of a field may lose something. -/
def losesValues (p : Plan) (t : ObjectType) (objectName : String) (f : Field) (c : TypeConversion) :
    ConversionWarning :=
  let detail := if c.warnings.isEmpty then c.note else "; ".intercalate c.warnings
  let warning : ConversionWarning :=
    { kind := .lossyConversion
      severity := if p.preferences.allowLossy then .warning else .error
      message := objectName ++ "." ++ f.name ++ ": " ++ detail }
  warning.on t objectName

/-- The conversion of a field whose type is no custom type. -/
def convertPrimitive (p : Plan) (t : ObjectType) (objectName : String) (f : Field) :
    FieldConversion :=
  match p.types.resolve f.dataType with
  | .ok c =>
    { fields := [{ f with dataType := c.converted }]
      warnings := if c.lossy then [p.losesValues t objectName f c] else [] }
  | .error e =>
    let warning := keepsType .typeConversion t objectName f e.message
    { fields := [f], warnings := [warning.suggesting "add a type override for this type"] }

/-- The conversion of a field of an object. -/
def convertField (p : Plan) (fates : Fates) (t : ObjectType) (objectName : String) (f : Field) :
    FieldConversion :=
  match fates.of? f.dataType with
  | some (.converted c) => f.follow c
  | some (.skipped reason) | some (.dropped reason) =>
    { fields := [f], warnings := [keepsType .customType t objectName f reason] }
  | none => p.convertPrimitive t objectName f

/-- An object with the warnings about it. -/
structure ObjectConversion where
  object : SchemaObject
  warnings : List ConversionWarning

/-- The conversion of an object: its fields one after the other, all else as it is but for what the
fields add. -/
def convertObject (p : Plan) (fates : Fates) (t : ObjectType) (o : SchemaObject) :
    ObjectConversion :=
  let parts := o.fields.map (p.convertField fates t o.name)
  { object :=
      { o with
        fields := parts.flatMap FieldConversion.fields
        constraints := o.constraints ++ parts.flatMap FieldConversion.constraints
        properties := (parts.flatMap FieldConversion.references).foldl
          (fun d reference => d.insert reference.1 reference.2) o.properties }
    warnings := parts.flatMap FieldConversion.warnings }

end Plan

end SchemaConversion
