import SchemaConversion.Text.Blank
import SchemaConversion.Text.LowerCase

/-!
# Free spellings of names

Users write the names of the vocabulary in any case, with blanks around them and with hyphens or
spaces between their words; `spelling` is the name such a text stands for.
-/

namespace SchemaConversion.Text

/-- The text with the characters that satisfy the test replaced by underscores. -/
def underscored (p : Char → Bool) (s : String) : String :=
  String.ofList (s.toList.map fun c => if p c then '_' else c)

/-- The name that a freely written one stands for. -/
def spelling (s : String) : String :=
  underscored (fun c => c == '-' || c == ' ') (asciiLower (trim s))

end SchemaConversion.Text
