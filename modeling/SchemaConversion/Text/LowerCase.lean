import SchemaConversion.Text.Casing

/-!
# Lower case

Full lower-casing of a text: every character by its image, the dotted capital I by two characters,
and the capital sigma by its form at the end of a word when it stands there, which depends on the
characters around it. Comparison without regard to case comes in two strengths, on the whole of
Unicode through `lowerCase` and on ASCII letters alone through `equalIgnoringCase`.
-/

namespace SchemaConversion.Text

/-- The image of a code point in a list of runs, if it has one there. -/
def runImage? : List (Nat × Nat × Nat × Nat) → Nat → Option Nat
  | [], _ => none
  | (first, last, step, image) :: rest, n =>
    if n < first then none
    else if n ≤ last then
      if (n - first) % step = 0 then some (image + (n - first)) else none
    else runImage? rest n

/-- The lower-case form of one character outside any context. -/
def lowerChar (c : Char) : List Char :=
  if c.toNat < 0x80 then [c.toLower]
  else if c = '\u0130' then ['i', '\u0307']
  else [((runImage? lowerCaseRuns c.toNat).map Char.ofNat).getD c]

/-- The nearest character that is not passed over has a case. -/
def startsCased : List Char → Bool
  | [] => false
  | c :: rest =>
    if inRanges caseIgnorableRanges c.toNat then startsCased rest
    else inRanges casedRanges c.toNat

/-- A capital sigma between `before`, nearest character first, and `after` ends a word. -/
def endsWord (before after : List Char) : Bool := startsCased before && !startsCased after

/-- Lower-cases what follows the characters `before`, nearest character first. -/
def lowerAfter (before : List Char) : List Char → List Char
  | [] => []
  | c :: rest =>
    (if c = 'Σ' then [if endsWord before rest then 'ς' else 'σ'] else lowerChar c)
      ++ lowerAfter (c :: before) rest

/-- The text in lower case. -/
def lowerChars (s : List Char) : List Char := lowerAfter [] s

/-- The text in lower case. -/
def lowerCase (s : String) : String := String.ofList (lowerChars s.toList)

/-- The text with its ASCII letters in lower case and all else as it is. -/
def asciiLower (s : String) : String := String.ofList (s.toList.map Char.toLower)

/-- Equality up to the case of ASCII letters. -/
def equalIgnoringCase (a b : String) : Bool := asciiLower a == asciiLower b

end SchemaConversion.Text
