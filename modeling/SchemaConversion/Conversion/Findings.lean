import SchemaConversion.ObjectType

/-!
# Findings of a conversion

What a conversion has to tell besides its schema: warnings, source features that the target cannot
represent, and decisions that a user could make. Every step of a conversion returns its own
findings, and those of several steps are put behind each other.
-/

namespace SchemaConversion

/-- How serious a warning is. -/
inductive Severity where
  | info | warning | error
  deriving DecidableEq, Inhabited

namespace Severity

/-- Every severity, from the least on. -/
def all : List Severity := [.info, .warning, .error]

/-- The name by which documents and messages call the severity. -/
def name : Severity → String
  | .info => "info"
  | .warning => "warning"
  | .error => "error"

/-- The severity with this name. -/
def ofName? (name : String) : Option Severity := all.find? (·.name == name)

/-- The place of the severity among them. -/
def level : Severity → Nat
  | .info => 0
  | .warning => 1
  | .error => 2

end Severity

/-- What a warning is about. -/
inductive WarningKind where
  | typeConversion | lossyConversion | customType | emulation | unsupported | excluded
  | enrichment | limitation
  deriving DecidableEq, Inhabited

/-- The name by which documents call the kind. -/
def WarningKind.name : WarningKind → String
  | .typeConversion => "type_conversion"
  | .lossyConversion => "lossy_conversion"
  | .customType => "custom_type"
  | .emulation => "emulation"
  | .unsupported => "unsupported"
  | .excluded => "excluded"
  | .enrichment => "enrichment"
  | .limitation => "matrix"

/-- A caveat of a conversion. -/
structure ConversionWarning where
  kind : WarningKind
  severity : Severity
  message : String
  /-- The object type that the warning concerns. -/
  objectType : Option ObjectType := none
  /-- The object that the warning concerns. -/
  objectName : Option String := none
  suggestion : Option String := none
  deriving DecidableEq

namespace ConversionWarning

/-- The warning about one object. -/
def on (w : ConversionWarning) (t : ObjectType) (name : String) : ConversionWarning :=
  { w with objectType := some t, objectName := some name }

/-- The warning about all objects of a type. -/
def forType (w : ConversionWarning) (t : ObjectType) : ConversionWarning :=
  { w with objectType := some t }

/-- The warning with advice. -/
def suggesting (w : ConversionWarning) (suggestion : String) : ConversionWarning :=
  { w with suggestion := some suggestion }

end ConversionWarning

/-- A source feature that the target cannot represent. -/
structure UnsupportedFeature where
  featureType : String
  objectType : ObjectType
  objectName : Option String
  description : String
  /-- The object types of the target that come closest. -/
  alternatives : List ObjectType := []
  deriving DecidableEq

/-- A question that a user could answer, with the answer that is taken otherwise. -/
structure PendingDecision where
  id : String
  objectType : ObjectType
  objectName : Option String := none
  question : String
  options : List String
  standard : String
  deriving DecidableEq

/-- What steps of a conversion have to tell. -/
structure Findings where
  warnings : List ConversionWarning := []
  unsupported : List UnsupportedFeature := []
  pending : List PendingDecision := []
  deriving DecidableEq

namespace Findings

/-- Nothing to tell. -/
def none : Findings := {}

/-- The findings of two steps, one after the other. -/
def append (a b : Findings) : Findings :=
  ⟨a.warnings ++ b.warnings, a.unsupported ++ b.unsupported, a.pending ++ b.pending⟩

instance : Append Findings := ⟨append⟩

/-- The findings of several steps in order. -/
def join (steps : List Findings) : Findings :=
  ⟨steps.flatMap warnings, steps.flatMap unsupported, steps.flatMap pending⟩

/-- Findings that are warnings only. -/
def ofWarnings (warnings : List ConversionWarning) : Findings := { warnings }

end Findings

end SchemaConversion
