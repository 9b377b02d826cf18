import SchemaConversion.Document
import SchemaConversion.Decimal.Notation

/-!
# Writing JSON

Two layouts of one tree: `compact` without any space, and `pretty` with one entry to a line and two
spaces of indentation. Text escapes what JSON requires and nothing else. A number that JSON cannot
write is `null`.
-/

namespace SchemaConversion.Json

/-- Numbers in JSON documents keep a `.0` and turn to an exponent from 16 digits on. -/
def documentNumber : Decimal.NumberStyle where
  positional := some (-5, 15)
  pointZero := true
  tie := .even
  notANumber := "null"
  infinity := "null"
  negativeInfinity := "null"

/-- A hexadecimal digit pair. -/
def hexPair (n : Nat) : List Char := [Nat.digitChar (n / 16 % 16), Nat.digitChar (n % 16)]

/-- How one character is written inside a JSON string. -/
def escapedChar (c : Char) : List Char :=
  match c with
  | '"' => ['\\', '"']
  | '\\' => ['\\', '\\']
  | '\x08' => ['\\', 'b']
  | '\x0c' => ['\\', 'f']
  | '\n' => ['\\', 'n']
  | '\r' => ['\\', 'r']
  | '\t' => ['\\', 't']
  | c => if c.toNat < 0x20 then ['\\', 'u', '0', '0'] ++ hexPair c.toNat else [c]

/-- A JSON string. -/
def stringText (s : String) : List Char := '"' :: s.toList.flatMap escapedChar ++ ['"']

/-- The text of a value without parts. -/
def scalarText : Document → List Char
  | .null => "null".toList
  | .bool true => "true".toList
  | .bool false => "false".toList
  | .natural n => (toString n).toList
  | .negative n => '-' :: (toString n).toList
  | .number x => (documentNumber.render x).toList
  | .text s => stringText s
  | .list _ | .record _ => []
  | .unreadable => "null".toList

mutual
/-- The text of a tree on one line. -/
def compactChars : Document → List Char
  | .list items => '[' :: compactItems items ++ [']']
  | .record entries => '\x7b' :: compactEntries entries ++ ['\x7d']
  | d => scalarText d

/-- The items of a list, separated by commas. -/
def compactItems : List Document → List Char
  | [] => []
  | [d] => compactChars d
  | d :: rest => compactChars d ++ ',' :: compactItems rest

/-- The entries of a record, separated by commas. -/
def compactEntries : List (String × Document) → List Char
  | [] => []
  | [(key, d)] => stringText key ++ ':' :: compactChars d
  | (key, d) :: rest => stringText key ++ ':' :: compactChars d ++ ',' :: compactEntries rest
end

/-- A new line at a depth of indentation. -/
def newLine (depth : Nat) : List Char := '\n' :: List.replicate (2 * depth) ' '

mutual
/-- The text of a tree whose first line starts at this depth. -/
def prettyChars (depth : Nat) : Document → List Char
  | .list [] => ['[', ']']
  | .list items => '[' :: prettyItems (depth + 1) items ++ newLine depth ++ [']']
  | .record [] => ['\x7b', '\x7d']
  | .record entries => '\x7b' :: prettyEntries (depth + 1) entries ++ newLine depth ++ ['\x7d']
  | d => scalarText d

/-- The items of a list, each on lines of its own. -/
def prettyItems (depth : Nat) : List Document → List Char
  | [] => []
  | [d] => newLine depth ++ prettyChars depth d
  | d :: rest => newLine depth ++ prettyChars depth d ++ ',' :: prettyItems depth rest

/-- The entries of a record, each on lines of its own. -/
def prettyEntries (depth : Nat) : List (String × Document) → List Char
  | [] => []
  | [(key, d)] => newLine depth ++ stringText key ++ ':' :: ' ' :: prettyChars depth d
  | (key, d) :: rest =>
    newLine depth ++ stringText key ++ ':' :: ' ' :: prettyChars depth d
      ++ ',' :: prettyEntries depth rest
end

/-- The tree as JSON on one line. -/
def compact (d : Document) : String := String.ofList (compactChars d)

/-- The tree as JSON with one entry to a line. -/
def pretty (d : Document) : String := String.ofList (prettyChars 0 d)

end SchemaConversion.Json
