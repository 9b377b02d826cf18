import SchemaConversion.Text.Blank
import SchemaConversion.Text.Quoted

/-!
# Identifiers

Names of objects, fields and types. A name is usable if it shows something, holds no null
character and fits 128 bytes, the most that all databases take. Names that a conversion derives
from two others keep the second whole and cut the first to what fits, between characters.
-/

namespace SchemaConversion.Identifier

/-- The most bytes an identifier may have. -/
def maxBytes : Nat := 128

/-- Why a name is not usable. -/
inductive Fault where
  | empty
  | nullCharacter (name : String)
  | tooLong (name : String)

/-- The sentence about a fault. -/
def Fault.message : Fault → String
  | .empty => "Identifier cannot be empty"
  | .nullCharacter name => "Identifier contains null byte: " ++ Text.quoted name
  | .tooLong name =>
    "Identifier exceeds maximum length of " ++ toString maxBytes ++ " bytes (got "
      ++ toString name.utf8ByteSize ++ " bytes): " ++ Text.quoted name

/-- The first fault of a name, if it has one. -/
def fault? (name : String) : Option Fault :=
  if Text.isBlankText name then some .empty
  else if name.toList.contains '\x00' then some (.nullCharacter name)
  else if maxBytes < name.utf8ByteSize then some (.tooLong name)
  else none

/-- The longest prefix of whole characters that fits the bytes. -/
def takeBytes : Nat → List Char → List Char
  | _, [] => []
  | budget, c :: rest =>
    if c.utf8Size ≤ budget then c :: takeBytes (budget - c.utf8Size) rest else []

/-- The name `base_suffix`, its base cut so that the whole fits. -/
def derived (base suffix : String) : String :=
  String.ofList (takeBytes (maxBytes - (suffix.utf8ByteSize + 1)) base.toList) ++ "_" ++ suffix

end SchemaConversion.Identifier
