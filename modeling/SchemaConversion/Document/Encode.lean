import SchemaConversion.Document

/-!
# Encoding into documents

The members that encoders put together: present ones, and those that are left out when there is
nothing to say.
-/

namespace SchemaConversion.Document

/-- Entries of a record. -/
abbrev Entries := List (String × Document)

/-- A list of texts. -/
def texts (values : List String) : Document := .list (values.map .text)

/-- A list of what an encoder makes of the values. -/
def listOf {α : Type} (encode : α → Document) (values : List α) : Document :=
  .list (values.map encode)

/-- A member that is left out when it is missing. -/
def optionalMember {α : Type} (key : String) (encode : α → Document) (value : Option α) : Entries :=
  value.toList.map fun v => (key, encode v)

/-- A list that is left out when it is empty. -/
def listMember {α : Type} (key : String) (encode : α → Document) (values : List α) : Entries :=
  if values.isEmpty then [] else [(key, listOf encode values)]

/-- A value that may be missing. -/
def nullable {α : Type} (encode : α → Document) : Option α → Document
  | none => .null
  | some v => encode v


end SchemaConversion.Document
