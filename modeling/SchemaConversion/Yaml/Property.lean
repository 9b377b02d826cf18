import SchemaConversion.Decimal.Numeral
import SchemaConversion.Yaml.Folding

/-!
# YAML tags, anchors and directives

The marks that stand before a node or a document: `&name` and `*name`, tags in their three forms
(`!name`, `!handle!name` and `!<...>`), and the directives of a version and of a tag handle. Each
reader takes a word or a line and gives what it means with the part that it leaves.
-/

namespace SchemaConversion.Yaml

/-- A character of a name. -/
def isNameChar (c : Char) : Bool := c.isAlphanum || c == '_' || c == '-'

/-- The text up to a blank or a line break. -/
def wordOf (text : List Char) : List Char := text.takeWhile fun c => !isSpace c && !isBreak c

/-- The text up to a line break. -/
def lineOf (text : List Char) : List Char := text.takeWhile fun c => !isBreak c

/-- The name of an anchor at the start of a word. -/
def anchorName? (word : List Char) : Option (List Char) :=
  let name := word.takeWhile isNameChar
  let ends := match word.dropWhile isNameChar with
    | [] => true
    | c :: _ => ['?', ':', ',', ']', '\x7d', '%', '@', '\x60'].contains c
  if !name.isEmpty && ends then some name else none

/-- The marks that may stand in any tag. -/
def tagMarks : List Char :=
  [';', '/', '?', ':', '@', '&', '=', '+', '$', '.', '%', '!', '~', '*', '\'', '(', ')']

/-- A character of a tag. Between angle brackets and in directives commas and square brackets may
stand as well. -/
def isTagChar (isWide : Bool) (c : Char) : Bool :=
  isNameChar c || tagMarks.contains c || (isWide && [',', '[', ']'].contains c)

/-- Two hexadecimal digits behind a percent sign. -/
def octet? : List Char → Option (Nat × List Char)
  | '%' :: a :: b :: rest => (Decimal.numeral? 16 [a, b]).map fun n => (n, rest)
  | _ => none

/-- The number of octets that follow the first one of a character, with its own bits. -/
def leadingOctet? (n : Nat) : Option (Nat × Nat) :=
  if n < 0x80 then some (0, n)
  else if 0xC0 ≤ n && n < 0xE0 then some (1, n - 0xC0)
  else if 0xE0 ≤ n && n < 0xF0 then some (2, n - 0xE0)
  else if 0xF0 ≤ n && n < 0xF8 then some (3, n - 0xF0)
  else none

/-- The further octets of a character. -/
def trailingOctets? : Nat → Nat → List Char → Option (Nat × List Char)
  | 0, value, rest => some (value, rest)
  | count + 1, value, text => do
    let (n, rest) ← octet? text
    if 0x80 ≤ n && n < 0xC0 then trailingOctets? count (value * 64 + (n - 0x80)) rest else none

/-- A character written as octets. -/
def octetChar? (text : List Char) : Option (Char × List Char) := do
  let (first, rest) ← octet? text
  let (count, bits) ← leadingOctet? first
  let (value, rest) ← trailingOctets? count bits rest
  if h : value.isValidChar then some (Char.ofNatAux value h, rest) else none

/-- The text of a tag, in which octets behind percent signs stand for characters; `fuel` is the
number of characters. -/
def tagText? : Nat → List Char → Option (List Char)
  | _, [] => some []
  | 0, _ => none
  | fuel + 1, c :: rest =>
    if c = '%' then do
      let (d, rest) ← octetChar? (c :: rest)
      (tagText? fuel rest).map (d :: ·)
    else (tagText? fuel rest).map (c :: ·)

/-- The characters of a tag at the start of a text, and what is left. -/
def tagPart? (isWide : Bool) (text : List Char) : Option (List Char × List Char) :=
  let part := text.takeWhile (isTagChar isWide)
  (tagText? part.length part).map fun s => (s, text.dropWhile (isTagChar isWide))

/-- A tag: a handle, which stands for the start of the tag, and the rest. -/
structure TagMark where
  handle : List Char
  suffix : List Char

/-- The tag whose exclamation mark stands before a word, and what is left of the word. -/
def tagMark? (word : List Char) : Option (TagMark × List Char) := do
  match word with
  | '<' :: text =>
    let (suffix, rest) ← tagPart? true text
    match suffix, rest with
    | _ :: _, '>' :: rest => some (⟨[], suffix⟩, rest)
    | _, _ => none
  | _ =>
    let name := word.takeWhile isNameChar
    match word.dropWhile isNameChar with
    | '!' :: text =>
      let (suffix, rest) ← tagPart? false text
      if suffix.isEmpty then none else some (⟨'!' :: name ++ ['!'], suffix⟩, rest)
    | text =>
      let (suffix, rest) ← tagPart? false text
      match name ++ suffix with
      | [] => some (⟨[], ['!']⟩, rest)
      | suffix => some (⟨['!'], suffix⟩, rest)

/-- Nothing or a comment is left of a line. -/
def endsLine (rest : List Char) : Bool :=
  match rest.dropWhile isSpace with
  | [] | '#' :: _ => true
  | _ => false

/-- A line of its own before a document. -/
inductive Directive where
  | version (major minor : Nat)
  /-- What a handle stands for. -/
  | handle (name expansion : List Char)

/-- The numeral at the start of a text, of at most nine digits, and what is left. -/
def versionPart? (text : List Char) : Option (Nat × List Char) :=
  let digits := text.takeWhile Char.isDigit
  if digits.length ≤ 9 then
    (Decimal.numeral? 10 digits).map fun n => (n, text.dropWhile Char.isDigit)
  else none

/-- The version in a directive. -/
def versionDirective? (text : List Char) : Option Directive := do
  match ← versionPart? text with
  | (major, '.' :: rest) =>
    let (minor, rest) ← versionPart? rest
    if endsLine rest then some (.version major minor) else none
  | _ => none

/-- The handle at the start of a text, and what is left. -/
def handle? : List Char → Option (List Char × List Char)
  | '!' :: text =>
    let name := text.takeWhile isNameChar
    match name, text.dropWhile isNameChar with
    | name, '!' :: rest => some ('!' :: name ++ ['!'], rest)
    | [], rest => some (['!'], rest)
    | _, _ => none
  | _ => none

/-- The handle in a directive, and what it stands for. -/
def handleDirective? (text : List Char) : Option Directive := do
  let (name, rest) ← handle? text
  match rest with
  | c :: _ =>
    let (expansion, rest) ← tagPart? true (rest.dropWhile isSpace)
    let isEnd := match rest with
      | [] => true
      | d :: _ => isSpace d
    if isSpace c && !expansion.isEmpty && isEnd && endsLine rest then
      some (.handle name expansion)
    else none
  | [] => none

/-- The directive in a line, whose percent sign is left out. -/
def directive? (line : List Char) : Option Directive :=
  let rest := line.dropWhile isNameChar
  let text := rest.dropWhile isSpace
  match String.ofList (line.takeWhile isNameChar), rest with
  | "YAML", c :: _ => if isSpace c then versionDirective? text else none
  | "TAG", c :: _ => if isSpace c then handleDirective? text else none
  | _, _ => none

end SchemaConversion.Yaml
