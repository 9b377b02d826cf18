import SchemaConversion.Databases.Relational
import SchemaConversion.Databases.Columns
import SchemaConversion.Databases.Documents
import SchemaConversion.Databases.Graphs
import SchemaConversion.Databases.Retrieval

/-!
# The databases that come with the library

The registry that knows the 24 databases defined here.
-/

namespace SchemaConversion

/-- Every database that comes with the library. -/
def Databases.all : List DatabaseDefinition :=
  relationalDatabases ++ columnsDatabases ++ documentsDatabases ++ graphsDatabases
    ++ retrievalDatabases

/-- The registry of these databases. -/
def Registry.builtin : Registry := Databases.all.foldl Registry.withDatabase Registry.empty

end SchemaConversion
