import SchemaConversion.Json.Number

/-!
# JSON tokens

A JSON text falls into tokens: brackets, separators, names, numbers and strings. The scanner is a
state machine over the characters that `scan` runs over the text. Strings are decoded when they
end: a character beyond the basic plane may be written as two escapes, and a string in which half
of such a pair stands alone has no text.
-/

namespace SchemaConversion.Json

/-- A token, with its value where it has one. -/
inductive Token where
  | openList
  | closeList
  | openRecord
  | closeRecord
  | comma
  | colon
  | scalar (value : Document)
  /-- A string, with its text unless it is broken. -/
  | text (value : Option String)

/-- A part of a string: a character, or an escape by a unit of sixteen bits. -/
inductive StringPart where
  | char (c : Char)
  | unit (value : Nat)

/-- The first half of a pair that stands for one character. -/
def isHigh (unit : Nat) : Bool := 0xD800 ≤ unit && unit < 0xDC00

/-- The second half of a pair. -/
def isLow (unit : Nat) : Bool := 0xDC00 ≤ unit && unit < 0xE000

/-- One part of a string further: the first half that waits for its second, and the characters, the
latest first. -/
def decodePart (sofar : Option Nat × List Char) (part : StringPart) :
    Option (Option Nat × List Char) :=
  match sofar, part with
  | (none, read), .char c => some (none, c :: read)
  | (none, read), .unit u =>
    if isHigh u then some (some u, read)
    else if isLow u then none
    else some (none, Char.ofNat u :: read)
  | (some high, read), .unit low =>
    if isLow low then
      some (none, Char.ofNat (0x10000 + (high - 0xD800) * 0x400 + (low - 0xDC00)) :: read)
    else none
  | (some _, _), .char _ => none

/-- The text of a string, if no half of a pair stands alone in it. -/
def decode? (parts : List StringPart) : Option String := do
  match ← parts.foldlM decodePart (none, []) with
  | (none, read) => some (String.ofList read.reverse)
  | (some _, _) => none

/-- Where the scanner stands: between tokens, in a string with the parts read so far, or in a
name or number. What has been read is kept with the latest part first. -/
inductive ScanState where
  | between
  | inWord (word : List Char)
  | inString (read : List StringPart)
  /-- Behind a backslash. -/
  | escaped (read : List StringPart)
  /-- In the four digits of an escape. -/
  | inEscape (digits : List Char) (read : List StringPart)

/-- The value of a name or number. -/
def wordValue? (word : List Char) : Option Document :=
  if word = "null".toList then some .null
  else if word = "true".toList then some (.bool true)
  else if word = "false".toList then some (.bool false)
  else number? word

/-- JSON's own four blanks. -/
def isSpace (c : Char) : Bool := c == ' ' || c == '\n' || c == '\t' || c == '\r'

/-- The character of a one-letter escape. -/
def unescape? : Char → Option Char
  | '"' => some '"'
  | '\\' => some '\\'
  | '/' => some '/'
  | 'b' => some '\x08'
  | 'f' => some '\x0c'
  | 'n' => some '\n'
  | 'r' => some '\r'
  | 't' => some '\t'
  | _ => none

/-- The token that starts and ends with this character, or the state it leads to. -/
def startToken (c : Char) : Option (List Token × ScanState) :=
  match c with
  | '[' => some ([.openList], .between)
  | ']' => some ([.closeList], .between)
  | '\x7b' => some ([.openRecord], .between)
  | '\x7d' => some ([.closeRecord], .between)
  | ',' => some ([.comma], .between)
  | ':' => some ([.colon], .between)
  | '"' => some ([], .inString [])
  | c => if isSpace c then some ([], .between) else some ([], .inWord [c])

/-- A character that continues a name or number. -/
def continuesWord (c : Char) : Bool := c.isAlphanum || c == '+' || c == '-' || c == '.'

/-- One character further: the tokens that are complete with it, and the new state. -/
def ScanState.next (state : ScanState) (c : Char) : Option (List Token × ScanState) :=
  match state with
  | .between => startToken c
  | .inWord word =>
    if continuesWord c then some ([], .inWord (c :: word))
    else do
      let value ← wordValue? word.reverse
      let (tokens, state) ← startToken c
      some (.scalar value :: tokens, state)
  | .inString read =>
    if c = '"' then some ([.text (decode? read.reverse)], .between)
    else if c = '\\' then some ([], .escaped read)
    else if c.toNat < 0x20 then none
    else some ([], .inString (.char c :: read))
  | .escaped read =>
    if c = 'u' then some ([], .inEscape [] read)
    else (unescape? c).map fun d => ([], .inString (.char d :: read))
  | .inEscape digits read =>
    if digits.length < 3 then some ([], .inEscape (c :: digits) read)
    else (Decimal.numeral? 16 (c :: digits).reverse).map fun unit =>
      ([], .inString (.unit unit :: read))

/-- One character further, with the tokens so far, the latest first. -/
def scanNext (sofar : List Token × ScanState) (c : Char) : Option (List Token × ScanState) := do
  let (tokens, state) ← sofar.2.next c
  some (tokens.reverse ++ sofar.1, state)

/-- The tokens of a text; a string must be closed at its end. -/
def scan (s : List Char) : Option (List Token) := do
  let (tokens, state) ← s.foldlM scanNext ([], .between)
  match state with
  | .between => some tokens.reverse
  | .inWord word => (wordValue? word.reverse).map fun value => (.scalar value :: tokens).reverse
  | _ => none

end SchemaConversion.Json
