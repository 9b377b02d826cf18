import SchemaConversion.Conversion.Plan

/-!
# Converting the catalog of custom types

Each custom type of a schema is converted, left out or dropped. Types that a native definition
creates stay in the catalog; a lookup table becomes an object of the first container of the target
that can hold fields. Fields refer to the types by name, so the fates are kept under the names in
lower case.
-/

namespace SchemaConversion

/-- What became of a custom type. -/
inductive TypeFate where
  | converted (conversion : CustomConversion)
  /-- Left out by the user. -/
  | skipped (reason : String)
  /-- No strategy works. -/
  | dropped (reason : String)

/-- What one custom type contributes to a conversion. -/
structure TypeResult where
  type : CustomType
  fate : TypeFate
  requiresUserInput : Bool := false
  findings : Findings := .none

namespace TypeResult

/-- The conversion, if there is one. -/
def conversion? (r : TypeResult) : Option CustomConversion :=
  match r.fate with
  | .converted conversion => some conversion
  | _ => none

/-- The type has been left out. -/
def isSkipped (r : TypeResult) : Bool :=
  match r.fate with
  | .skipped _ => true
  | _ => false

/-- The type has been dropped. -/
def isDropped (r : TypeResult) : Bool :=
  match r.fate with
  | .dropped _ => true
  | _ => false

/-- The type stays in the catalog, because a definition creates it. -/
def isKept (r : TypeResult) : Bool :=
  match r.conversion? with
  | some c => c.strategy = .direct && c.rendition.definition.isSome
  | none => false

end TypeResult

/-- The lookup table of a supplement, if it is one: the values in a single column, and once more
listed in a property. -/
def Supplement.table? : Supplement → Option SchemaObject
  | .lookupTable name keyType values =>
    some
      { name, fields := [{ name := "value", dataType := keyType, nullable := false }]
        properties := .ofList [("values", ",".intercalate values)] }
  | _ => none

/-- The lookup tables that come with a conversion. -/
def CustomConversion.tables (c : CustomConversion) : List SchemaObject :=
  c.rendition.supplements.filterMap Supplement.table?

namespace Plan

/-- The container of the target for lookup tables. -/
def tableContainer? (p : Plan) : Option ContainerKind :=
  ContainerKind.all.find? fun k =>
    k.objectType.isFieldContainer && p.targetFeatures.supports k.objectType

/-- What a conversion has to tell about its type. -/
def conversionFindings (p : Plan) (t : CustomType) (c : CustomConversion) : Findings :=
  let severity := if c.usedFallback then .warning else .info
  let own : List ConversionWarning := c.rendition.warnings.map fun message =>
    ConversionWarning.on { kind := .customType, severity, message } .customType t.name
  let homeless : List ConversionWarning :=
    if p.tableContainer?.isSome then []
    else c.tables.map fun table =>
      { kind := .customType, severity := .warning
        message := p.targetName ++ " has no container for lookup table " ++ table.name }
  .ofWarnings (own ++ homeless)

/-- The type cannot be converted. -/
def dropType (t : CustomType) (e : ConversionError) : TypeResult :=
  let warning : ConversionWarning :=
    { kind := .customType, severity := .error, message := e.message }
  { type := t, fate := .dropped e.message
    findings :=
      { warnings := [warning.on .customType t.name]
        unsupported :=
          [{ featureType := t.category.name, objectType := .customType, objectName := some t.name
             description := e.message }] } }

/-- The question whether a conversion that needs a user's consent is carried out. -/
def consentDecision (p : Plan) (t : CustomType) (c : CustomConversion) : PendingDecision where
  id := "custom_type." ++ t.name
  objectType := .customType
  objectName := some t.name
  question := t.category.name ++ " " ++ t.name ++ " needs " ++ c.strategy.name ++ " on "
    ++ p.targetName ++ "; apply it or skip the type?"
  options := [c.strategy.name, skipAnswer]
  standard := c.strategy.name

/-- The custom type is left out by its name or together with all others. -/
def excludes (p : Plan) (t : CustomType) : Bool :=
  p.preferences.excludesType .customType || p.preferences.excludesName t.name

/-- Converts one custom type. -/
def convertType (p : Plan) (t : CustomType) : TypeResult :=
  if p.excludes t then { type := t, fate := .skipped "excluded by request" }
  else
    match p.custom.resolve t with
    | .error e => dropType t e
    | .ok c =>
      if c.rendition.requiresUserInput then
        let decision := p.decide (p.consentDecision t c)
        if decision.answer = skipAnswer then
          { type := t, fate := .skipped "skipped by decision", requiresUserInput := true
            findings := decision.findings }
        else
          { type := t, fate := .converted c, requiresUserInput := true
            findings := decision.findings ++ p.conversionFindings t c }
      else { type := t, fate := .converted c, findings := p.conversionFindings t c }

/-- Converts the custom types of a schema, each for itself. -/
def convertTypes (p : Plan) (types : List CustomType) : List TypeResult := types.map p.convertType

end Plan

/-- The fates of custom types by their names in lower case. -/
abbrev Fates := Dictionary TypeFate

/-- The fates of the types of a catalog. -/
def Fates.ofResults (results : List TypeResult) : Fates :=
  .ofList (results.map fun r => (Text.lowerCase r.type.name, r.fate))

/-- The fate of the type that a field refers to, if it refers to one. -/
def Fates.of? (fates : Fates) (dataType : String) : Option TypeFate :=
  fates.find? (Text.lowerCase (Text.trim dataType))

end SchemaConversion
