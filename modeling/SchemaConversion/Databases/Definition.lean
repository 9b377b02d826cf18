import SchemaConversion.Registry

/-!
# Definitions of databases

Everything the registry needs to know about one database, in one record.
-/

namespace SchemaConversion

/-- A database with its descriptions. -/
structure DatabaseDefinition where
  id : String
  displayName : String
  paradigms : List Paradigm
  /-- Other spellings of the identifier. -/
  aliases : List String := []
  types : TypeProfile
  features : FeatureProfile

/-- Registers a database with all that is known about it. -/
def Registry.withDatabase (r : Registry) (d : DatabaseDefinition) : Registry :=
  (d.aliases.foldl (fun r spelling => r.withAlias spelling d.id) r)
    |>.withCapabilities (.of d.id d.displayName d.paradigms)
    |>.withTypeProfile d.types
    |>.withFeatureProfile (d.features.forDatabase d.id)

end SchemaConversion
