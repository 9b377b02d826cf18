import SchemaConversion.Yaml.Scalar
import SchemaConversion.Json.Printer

/-!
# Writing YAML

Block style with two spaces of indentation. A list under a key stands in the column of the key, and
the first entry of a record in a list stands behind the dash. Empty lists and records are written
with brackets. A key that does not fit on a line stands behind a question mark, and its value behind
a colon on a line of its own.
-/

namespace SchemaConversion.Yaml

/-- Numbers are written as in JSON, apart from the special values. -/
def documentNumber : Decimal.NumberStyle :=
  { Json.documentNumber with
    notANumber := ".nan", infinity := ".inf", negativeInfinity := "-.inf" }

/-- The line of a value without parts, whose block is indented this far. -/
def scalarLine (indent : Nat) : Document → List Char
  | .text s => textLine indent s
  | .number x => (documentNumber.render x).toList ++ ['\n']
  | d => Json.scalarText d ++ ['\n']

/-- A key behind a question mark in this column, with the colon of its value. -/
def markedKey (indent : Nat) (key : String) : List Char :=
  "? ".toList ++ textLine (indent + 2) key ++ blanks indent ++ ": ".toList

mutual
/-- What stands behind a key in this column. -/
def valueChars (indent : Nat) : Document → List Char
  | .list [] => " []\n".toList
  | .list items => '\n' :: itemLines indent items
  | .record [] => [' ', '\x7b', '\x7d', '\n']
  | .record entries => '\n' :: entryLines (indent + 2) entries
  | d => ' ' :: scalarLine (indent + 2) d

/-- What stands behind a dash or the colon of a marked key in this column. -/
def itemChars (indent : Nat) : Document → List Char
  | .list [] => "[]\n".toList
  | .list (first :: rest) =>
    "- ".toList ++ itemChars (indent + 2) first ++ itemLines (indent + 2) rest
  | .record [] => ['\x7b', '\x7d', '\n']
  | .record ((key, d) :: rest) =>
    (if isSimpleKey key then keyText key ++ ':' :: valueChars (indent + 2) d
      else markedKey (indent + 2) key ++ itemChars (indent + 2) d) ++ entryLines (indent + 2) rest
  | d => scalarLine (indent + 2) d

/-- The items of a list in this column. -/
def itemLines (indent : Nat) : List Document → List Char
  | [] => []
  | d :: rest => blanks indent ++ "- ".toList ++ itemChars indent d ++ itemLines indent rest

/-- The entries of a record in this column. -/
def entryLines (indent : Nat) : List (String × Document) → List Char
  | [] => []
  | (key, d) :: rest =>
    blanks indent ++ (if isSimpleKey key then keyText key ++ ':' :: valueChars indent d
      else markedKey indent key ++ itemChars indent d) ++ entryLines indent rest
end

/-- The tree as YAML. -/
def print : Document → String
  | .list (first :: rest) => String.ofList (itemLines 0 (first :: rest))
  | .record (first :: rest) => String.ofList (entryLines 0 (first :: rest))
  | d => String.ofList (itemChars 0 d)

end SchemaConversion.Yaml
