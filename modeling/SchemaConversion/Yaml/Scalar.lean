import SchemaConversion.Yaml.Plain

/-!
# Writing texts in YAML

A text is written without quotes where that cannot be taken for anything else. Texts that read as
another kind of value are put in single quotes, and so are those that start or end with a blank or
hold a mark of the format. Characters that cannot be shown need double quotes. A text of several
lines is a literal block where it may be.
-/

namespace SchemaConversion.Yaml

/-- Unquoted the text would be read as something else, or is a numeral that leading zeros make a
text. -/
def isAmbiguous (s : String) : Bool :=
  match readPlain s with
  | .text _ => isPadded s
  | _ => true

/-- The character is shown as it is. -/
def isPrintable (c : Char) : Bool :=
  let n := c.toNat
  n = 0x0A || (0x20 ≤ n && n ≤ 0x7E) || (0xA0 ≤ n && n ≤ 0xFFFD && n ≠ 0xFEFF) || 0x10000 ≤ n

/-- A character that ends a line, shown or not. -/
def endsLineOf (c : Char) : Bool := ['\n', '\r', '\u0085', '\u2028', '\u2029'].contains c

/-- A blank, the end of a line or the end of the text. -/
def isGap : Option Char → Bool
  | none => true
  | some c => c == ' ' || c == '\t' || c == '\x00' || endsLineOf c

/-- The characters that mean something at the start of a scalar. -/
def isLeadingMark (c : Char) : Bool :=
  ['#', ',', '[', ']', '\x7b', '\x7d', '&', '*', '!', '|', '>', '\'', '"', '%', '@',
    '\x60'].contains c

/-- A mark stands in a text behind the character `before`. -/
def hasInnerMark (before : Char) : List Char → Bool
  | [] => false
  | c :: rest =>
    (c == ':' && isGap rest.head?) || (c == '#' && isGap (some before)) || hasInnerMark c rest

/-- A text means something else when it stands without quotes. -/
def hasMark : List Char → Bool
  | [] => false
  | c :: rest =>
    ["---".toList, "...".toList].contains ((c :: rest).take 3)
      || isLeadingMark c
      || (['?', ':', '-'].contains c && isGap rest.head?)
      || hasInnerMark c rest

/-- Two neighbours in a text. -/
def hasPair (p : Char → Char → Bool) (s : List Char) : Bool :=
  (s.zip s.tail).any fun (a, b) => p a b

/-- The text can stand without quotes. -/
def allowsPlain (s : List Char) : Bool :=
  s.all isPrintable && !s.any endsLineOf && s.head? != some ' ' && s.getLast? != some ' '
    && !hasMark s

/-- The text can stand in single quotes: no line in it starts or ends with a blank. -/
def allowsSingle (s : List Char) : Bool :=
  s.all isPrintable && !hasPair (fun a b => a == ' ' && endsLineOf b) s
    && !hasPair (fun a b => endsLineOf a && b == ' ') s

/-- The text can be a literal block: no line in it ends with a blank. -/
def allowsLiteral (s : List Char) : Bool :=
  s.all isPrintable && !hasPair (fun a b => a == ' ' && endsLineOf b) s && s.getLast? != some ' '

/-- The style of a text. -/
def scalarStyle (s : String) : ScalarStyle :=
  let chars := s.toList
  if chars.contains '\n' then if allowsLiteral chars then .literal else .double
  else if !isAmbiguous s && allowsPlain chars then .plain
  else if allowsSingle chars then .single
  else .double

/-- The longest text that stands as a key before its colon, in bytes. -/
def maxSimpleKey : Nat := 128

/-- The text stands as a key before its colon, on one line. -/
def isSimpleKey (s : String) : Bool := s.utf8ByteSize ≤ maxSimpleKey && !s.toList.any endsLineOf

/-- The blanks of an indentation. -/
def blanks (indent : Nat) : List Char := List.replicate indent ' '

/-- An upper-case hexadecimal numeral of so many digits. -/
def hexDigits : Nat → Nat → List Char
  | 0, _ => []
  | count + 1, n => hexDigits count (n / 16) ++ [(Nat.digitChar (n % 16)).toUpper]

/-- How a character that is not shown is written. -/
def escapeOf (c : Char) : List Char :=
  match c with
  | '\x00' => ['\\', '0']
  | '\x07' => ['\\', 'a']
  | '\x08' => ['\\', 'b']
  | '\t' => ['\\', 't']
  | '\n' => ['\\', 'n']
  | '\x0b' => ['\\', 'v']
  | '\x0c' => ['\\', 'f']
  | '\r' => ['\\', 'r']
  | '\x1b' => ['\\', 'e']
  | '\u0085' => ['\\', 'N']
  | '\u2028' => ['\\', 'L']
  | '\u2029' => ['\\', 'P']
  | c =>
    let n := c.toNat
    if n ≤ 0xFF then ['\\', 'x'] ++ hexDigits 2 n
    else if n ≤ 0xFFFF then ['\\', 'u'] ++ hexDigits 4 n
    else ['\\', 'U'] ++ hexDigits 8 n

/-- How a character is written between double quotes. -/
def doubleQuotedChar (c : Char) : List Char :=
  if c = '"' || c = '\\' then ['\\', c]
  else if isPrintable c && !(['\n', '\u2028', '\u2029'].contains c) then [c]
  else escapeOf c

/-- The characters of a text in single quotes: a quote is written twice, and what follows the end of
a line is indented. `start` says that a line starts here. -/
def singleQuotedChars (indent : Nat) (start : Bool) : List Char → List Char
  | [] => if start then blanks indent else []
  | c :: rest =>
    if endsLineOf c then c :: singleQuotedChars indent true rest
    else
      (if start then blanks indent else []) ++ (if c = '\'' then ['\'', '\''] else [c])
        ++ singleQuotedChars indent false rest

/-- A text between single quotes. -/
def singleQuoted (indent : Nat) (s : List Char) : List Char :=
  '\'' :: singleQuotedChars indent false s ++ ['\'']

/-- A text between double quotes. -/
def doubleQuoted (s : List Char) : List Char := '"' :: s.flatMap doubleQuotedChar ++ ['"']

/-- What becomes of the line ends at the end of a literal block: one is kept, all are kept, or there
is none. -/
def chompingMark (s : List Char) : List Char :=
  match s.reverse with
  | [c] => if endsLineOf c then ['+'] else ['-']
  | c :: d :: _ => if !endsLineOf c then ['-'] else if endsLineOf d then ['+'] else []
  | [] => ['-']

/-- The header of a literal block: an indentation where the text starts with a blank, and what
becomes of the line ends at its end. -/
def literalHeader (s : List Char) : List Char :=
  let hint := match s with
    | c :: _ => if c = ' ' || endsLineOf c then ['2'] else []
    | [] => []
  '|' :: hint ++ chompingMark s

/-- The lines of a literal block behind its header, each indented unless it is empty. `start` says
that a line starts here. -/
def literalLines (indent : Nat) (start : Bool) : List Char → List Char
  | [] => if start then [] else ['\n']
  | c :: rest =>
    if endsLineOf c then c :: literalLines indent true rest
    else (if start then blanks indent else []) ++ c :: literalLines indent false rest

/-- A text with the line break behind it; its further lines are indented this far. -/
def textLine (indent : Nat) (s : String) : List Char :=
  let chars := s.toList
  match scalarStyle s with
  | .plain => chars ++ ['\n']
  | .single => singleQuoted indent chars ++ ['\n']
  | .double => doubleQuoted chars ++ ['\n']
  | .literal | .folded => literalHeader chars ++ '\n' :: literalLines indent true chars

/-- A text as a key on one line. -/
def keyText (s : String) : List Char :=
  match scalarStyle s with
  | .plain => s.toList
  | .single => singleQuoted 0 s.toList
  | .double | .literal | .folded => doubleQuoted s.toList

end SchemaConversion.Yaml
