import SchemaConversion.TypeProfile
import SchemaConversion.FeatureProfile
import SchemaConversion.Paradigm
import SchemaConversion.Text.Quoted

/-!
# The registry of databases

Databases are known by identifiers, in lower case and without blanks around them, and by aliases of
these. Under its identifier a database has its capabilities, its type profile and its feature
profile, each registered on its own. Looking something up first normalizes the identifier.
-/

namespace SchemaConversion

/-- What a database is. -/
structure Capabilities where
  id : String
  displayName : String
  paradigms : ParadigmSet

/-- The spelling under which identifiers and aliases are registered. -/
def Registry.key (id : String) : String := Text.lowerCase (Text.trim id)

/-- Capabilities under a freely spelled identifier. -/
def Capabilities.of (id displayName : String) (paradigms : List Paradigm) : Capabilities :=
  ⟨Registry.key id, displayName, .ofList paradigms⟩

/-- The registered databases. -/
structure Registry where
  capabilities : Dictionary Capabilities := .empty
  typeProfiles : Dictionary TypeProfile := .empty
  featureProfiles : Dictionary FeatureProfile := .empty
  aliases : Dictionary String := .empty

namespace Registry

/-- The registry without databases. -/
def empty : Registry := {}

/-- Registers what a database is, in place of what was registered before. -/
def withCapabilities (r : Registry) (c : Capabilities) : Registry :=
  { r with capabilities := r.capabilities.insert c.id c }

/-- Registers a type profile under its database. -/
def withTypeProfile (r : Registry) (p : TypeProfile) : Registry :=
  { r with typeProfiles := r.typeProfiles.insert (key p.database) p }

/-- Registers a feature profile under its database. -/
def withFeatureProfile (r : Registry) (p : FeatureProfile) : Registry :=
  { r with featureProfiles := r.featureProfiles.insert (key p.database) p }

/-- Registers another spelling of an identifier. -/
def withAlias (r : Registry) (spelling id : String) : Registry :=
  { r with aliases := r.aliases.insert (key spelling) (key id) }

/-- The identifier that a spelling stands for. -/
def normalize (r : Registry) (id : String) : String := (r.aliases.find? (key id)).getD (key id)

/-- What a database is, if it is registered. -/
def capabilities? (r : Registry) (id : String) : Option Capabilities :=
  r.capabilities.find? (r.normalize id)

/-- What a database is. -/
def requireCapabilities (r : Registry) (id : String) : Except ConversionError Capabilities :=
  match r.capabilities? id with
  | some c => .ok c
  | none => .error (.unknownDatabase (Text.trim id))

/-- The identifiers of the registered databases, in order. -/
def databaseIds (r : Registry) : List String := r.capabilities.keys

/-- The type profile of a database, if it has one. -/
def typeProfile? (r : Registry) (id : String) : Option TypeProfile :=
  r.typeProfiles.find? (r.normalize id)

/-- The type profile of a database. -/
def requireTypeProfile (r : Registry) (id : String) : Except ConversionError TypeProfile :=
  match r.typeProfile? id with
  | some p => .ok p
  | none => .error (.matrixUnavailable (r.normalize id) "no type profile registered")

/-- The feature profile of a database, if it has one. -/
def featureProfile? (r : Registry) (id : String) : Option FeatureProfile :=
  r.featureProfiles.find? (r.normalize id)

/-- The feature profile of a database. -/
def requireFeatureProfile (r : Registry) (id : String) : Except ConversionError FeatureProfile :=
  match r.featureProfile? id with
  | some p => .ok p
  | none => .error (.matrixUnavailable (r.normalize id) "no feature-support profile registered")

/-- A database supports an object type. -/
def supportsObject (r : Registry) (id : String) (t : ObjectType) : Bool :=
  ((r.featureProfile? id).map (·.supports t)).getD false

/-- Quoted texts between square brackets. -/
def quotedList (texts : List String) : String :=
  "[" ++ ", ".intercalate (texts.map Text.quoted) ++ "]"

/-- A one-line overview of what is registered. -/
def overview (r : Registry) : String :=
  "Registry \x7b databases: " ++ quotedList r.databaseIds
    ++ ", type_profiles: " ++ quotedList r.typeProfiles.keys
    ++ ", feature_profiles: " ++ quotedList r.featureProfiles.keys
    ++ ", aliases: " ++ toString r.aliases.size ++ " \x7d"

end Registry

end SchemaConversion
