import SchemaConversion.Text.Blank
import SchemaConversion.Text.LowerCase
import SchemaConversion.Text.Substitution

/-!
# Spellings of native types

A native type is spelled by a base name with optional parameters in parentheses, such as
`varchar(255)` or `timestamp(3) with time zone`. Spellings are compared in a normal form that is
lower-case and holds blanks only between words; `splitParameters` separates a normal form into the
base and what stands in its parentheses.
-/

namespace SchemaConversion.TypeName

/-- What is dropped around parentheses and commas, in the order in which it is dropped. -/
def tightenings : List (String × String) :=
  [(" (", "("), ("( ", "("), (" )", ")"), (", ", ","), (" ,", ",")]

/-- The normal form of a spelling. -/
def normalize (name : String) : String :=
  let spaced := [' '].intercalate (Text.words name.toList)
  String.ofList (tightenings.foldl
    (fun s change => Text.replaceAll change.1.toList change.2.toList s) (Text.lowerChars spaced))

/-- A spelling taken apart. -/
structure Parts where
  /-- The normal form of what stands around the parentheses. -/
  base : String
  /-- What stands in them. -/
  parameters : String
  deriving DecidableEq

/-- Splits at the first character that is `c`, which is in neither part. -/
def splitAt? (c : Char) : List Char → Option (List Char × List Char)
  | [] => none
  | d :: rest =>
    if d = c then some ([], rest) else (splitAt? c rest).map fun (a, b) => (d :: a, b)

/-- Takes a spelling apart at its first parenthesis and the next closing one. -/
def splitParameters (spelling : String) : Option Parts := do
  let (before, rest) ← splitAt? '(' spelling.toList
  let (inside, after) ← splitAt? ')' rest
  some ⟨normalize (String.ofList (before ++ ' ' :: after)), String.ofList (Text.trimChars inside)⟩

/-- A natural number of 64 bits in decimal digits, with an optional plus sign. -/
def numeral64? (s : List Char) : Option Nat :=
  let digits := match s with
    | '+' :: rest => rest
    | _ => s
  if digits.isEmpty || !digits.all Char.isDigit then none
  else
    let n := digits.foldl (fun n c => n * 10 + (c.toNat - '0'.toNat)) 0
    if n < 1 <<< 64 then some n else none

/-- The length or precision that parameters declare: the first of them, if it is a number. -/
def declaredBound? (parameters : String) : Option Nat :=
  numeral64? (Text.trimChars (parameters.toList.takeWhile (· ≠ ',')))

end SchemaConversion.TypeName
