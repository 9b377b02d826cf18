import SchemaConversion.Yaml.BlockText
import SchemaConversion.Yaml.Node
import SchemaConversion.Yaml.Property

/-!
# YAML tokens

A YAML text falls into scalars, the marks before nodes, and the marks that open, close and separate
collections. Collections in block style are opened and closed by indentation: the scanner keeps the
columns of those that are open. What has been read may turn out to be a key when a colon follows,
so the scanner remembers where such a node began, in every open pair of brackets. It does so for
one line and `maxKeyLength` characters.
-/

namespace SchemaConversion.Yaml

/-- A token, with its text where it has one. -/
inductive Token where
  | blockRecord
  | blockList
  | blockEnd
  /-- The dash before an item. -/
  | entry
  /-- A key follows. -/
  | key
  /-- A value follows. -/
  | value
  | openList
  | closeList
  | openRecord
  | closeRecord
  | comma
  | scalar (text : String) (style : ScalarStyle)
  | anchor (name : String)
  | alias (name : String)
  | tag (t : TagMark)
  | directive (d : Directive)
  | documentStart
  | documentEnd

/-- The farthest that a colon may stand behind the start of its key. -/
def maxKeyLength : Nat := 1024

/-- The start of a node that may turn out to be a key. -/
structure KeyStart where
  /-- The number of tokens before it. -/
  position : Nat
  line : Nat
  column : Nat
  index : Nat
  /-- Only a key may stand there. -/
  isRequired : Bool

/-- What the scanner is reading. -/
inductive Mode where
  | between
  /-- In a mark that has been read ahead, of which so many characters are left. -/
  | skipping (left : Nat)
  | comment
  | plain (l : Lexeme)
  | single (l : Lexeme)
  /-- Behind a quote that ends the scalar, unless another one follows. -/
  | singleEnd (l : Lexeme)
  | double (l : Lexeme)
  | escaped (l : Lexeme)
  /-- In the digits of an escape, of which so many are left. -/
  | digits (l : Lexeme) (left value : Nat)
  | block (b : BlockText)

/-- The state of the scanner. -/
structure Scan where
  /-- The tokens so far, the latest first. -/
  tokens : List Token := []
  /-- The number of tokens. -/
  count : Nat := 0
  /-- What may be a key in the innermost brackets. -/
  keyStart : Option KeyStart := none
  /-- What may be a key in the brackets around, the innermost first. -/
  outerKeys : List (Option KeyStart) := []
  /-- The columns of the open block collections, the innermost first. -/
  columns : List Nat := []
  /-- A key or an item may start here. -/
  keyAllowed : Bool := true
  line : Nat := 0
  column : Nat := 0
  index : Nat := 0
  mode : Mode := .between

namespace Scan

/-- A collection in brackets is open. -/
def inBrackets (s : Scan) : Bool := !s.outerKeys.isEmpty

/-- Adds a token. -/
def emit (s : Scan) (token : Token) : Scan :=
  { s with tokens := token :: s.tokens, count := s.count + 1 }

/-- Adds tokens in their order, behind the first `position` tokens. -/
def insertAt (s : Scan) (position : Nat) (new : List Token) : Scan :=
  let (later, earlier) := s.tokens.splitAt (s.count - position)
  { s with tokens := later ++ new.reverse ++ earlier, count := s.count + new.length }

/-- The column does not lie to the right of the innermost block collection. -/
def isOutside (s : Scan) : Bool := (s.columns.head?.map fun c => decide (s.column ≤ c)).getD false

/-- Closes the block collections that stand farther to the right than the column. -/
def closeBeyond (s : Scan) (column : Nat) : Scan :=
  if s.inBrackets then s
  else
    let ends := s.columns.takeWhile (column < ·)
    { s with
      tokens := ends.map (fun _ => .blockEnd) ++ s.tokens, count := s.count + ends.length
      columns := s.columns.dropWhile (column < ·) }

/-- Closes all block collections. -/
def closeAll (s : Scan) : Scan :=
  if s.inBrackets then s
  else
    { s with
      tokens := s.columns.map (fun _ => .blockEnd) ++ s.tokens
      count := s.count + s.columns.length, columns := [] }

/-- A block collection opens in a column: none is open there or to the right. -/
def opensAt (s : Scan) (column : Nat) : Bool :=
  !s.inBrackets && (s.columns.head?.map fun c => decide (c < column)).getD true

/-- Opens a block collection here, unless one is open. -/
def openHere (s : Scan) (token : Token) : Scan :=
  if s.opensAt s.column then { s with columns := s.column :: s.columns }.emit token else s

/-! ## Keys -/

/-- What may be a key, after the reading has come this far. -/
def keptKey? (s : Scan) : Option KeyStart → Option (Option KeyStart)
  | none => some none
  | some k =>
    if k.line < s.line || k.index + maxKeyLength < s.index then
      if k.isRequired then none else some none
    else some (some k)

/-- Forgets what can no longer be a key. -/
def keepKeys? (s : Scan) : Option Scan := do
  let keyStart ← s.keptKey? s.keyStart
  let outerKeys ← s.outerKeys.mapM s.keptKey?
  some { s with keyStart, outerKeys }

/-- What might be a key is none. -/
def dropKey? (s : Scan) : Option Scan :=
  if (s.keyStart.map KeyStart.isRequired).getD false then none else some { s with keyStart := none }

/-- A node starts here that may be a key, if a key may start here. In the column of the open block
collection it must be one. -/
def markKey? (s : Scan) : Option Scan :=
  if s.keyAllowed then do
    let s ← s.dropKey?
    let isRequired := !s.inBrackets && s.columns.head? = some s.column
    some
      { s with keyStart := some ⟨s.count, s.line, s.column, s.index, isRequired⟩ }
  else some s

/-- The colon of a value: what has been marked is its key, or a key stands before it with a mark of
its own. -/
def value? (s : Scan) : Option Scan :=
  match s.keyStart with
  | some k =>
    let opens := s.opensAt k.column
    let s := s.insertAt k.position (if opens then [.blockRecord, .key] else [.key])
    some
      ({ s with
        columns := if opens then k.column :: s.columns else s.columns
        keyStart := none, keyAllowed := false }.emit .value)
  | none =>
    if s.inBrackets then some ({ s with keyAllowed := false }.emit .value)
    else if s.keyAllowed then some ((s.openHere .blockRecord).emit .value)
    else none

/-- The question mark of a key. -/
def key? (s : Scan) : Option Scan := do
  if s.inBrackets then some ({ ← s.dropKey? with keyAllowed := false }.emit .key)
  else if s.keyAllowed then some ((← (s.openHere .blockRecord).dropKey?).emit .key)
  else none

/-- The dash of an item. -/
def item? (s : Scan) : Option Scan := do
  if !s.inBrackets && s.keyAllowed then some ((← (s.openHere .blockList).dropKey?).emit .entry)
  else none

/-! ## Brackets -/

/-- An opening bracket. -/
def opening? (s : Scan) (token : Token) : Option Scan := do
  let s ← s.markKey?
  some
    ({ s with
      keyStart := none, outerKeys := s.keyStart :: s.outerKeys, keyAllowed := true }.emit token)

/-- A closing bracket. -/
def closing? (s : Scan) (token : Token) : Option Scan := do
  let s ← s.dropKey?
  let s := match s.outerKeys with
    | [] => s
    | k :: outer => { s with keyStart := k, outerKeys := outer }
  some ({ s with keyAllowed := false }.emit token)

/-- A comma. -/
def comma? (s : Scan) : Option Scan := do
  some ({ ← s.dropKey? with keyAllowed := true }.emit .comma)

/-! ## The start of a token -/

/-- A blank, a line break or the end of the text comes next. -/
def blankNext : List Char → Bool
  | [] => true
  | c :: _ => isSpace c || isBreak c

/-- A text that starts with a mark of the start or the end of a document. -/
def boundary? (text : List Char) : Option Token :=
  if blankNext (text.drop 3) then
    if text.take 3 == ['-', '-', '-'] then some .documentStart
    else if text.take 3 == ['.', '.', '.'] then some .documentEnd
    else none
  else none

/-- A mark of the start or the end of a document starts with a character. -/
def atBoundary (s : Scan) (c : Char) (rest : List Char) : Bool :=
  s.column = 0 && (boundary? (c :: rest)).isSome

/-- The characters that open, close or separate in brackets. -/
def isBracket (c : Char) : Bool := [',', '[', ']', '\x7b', '\x7d'].contains c

/-- The characters that start no unquoted scalar. -/
def isIndicator (c : Char) : Bool :=
  isBracket c || ['#', '&', '*', '!', '|', '>', '\'', '"', '%', '@', '\x60'].contains c

/-- The mark of a key or a value, before `rest`. -/
def isMark (s : Scan) (rest : List Char) : Bool := s.inBrackets || blankNext rest

/-- Skips what has been read ahead behind the current character. -/
def skip (s : Scan) (count : Nat) : Scan :=
  { s with mode := if count = 0 then .between else .skipping count }

/-- A scalar that starts here. -/
def scalar? (s : Scan) (mode : Lexeme → Mode) : Option Scan := do
  some { ← s.markKey? with keyAllowed := false, mode := mode {} }

/-- An anchor or an alias. -/
def anchor? (s : Scan) (token : String → Token) (rest : List Char) : Option Scan := do
  let name ← anchorName? (wordOf rest)
  let s ← s.markKey?
  some (({ s with keyAllowed := false }.emit (token (String.ofList name))).skip name.length)

/-- A tag. In brackets a comma may follow it at once. -/
def tag? (s : Scan) (rest : List Char) : Option Scan := do
  let word := wordOf rest
  let (t, left) ← tagMark? word
  let ends := match left with
    | [] => true
    | c :: _ => s.inBrackets && c == ','
  let s ← s.markKey?
  if ends then
    some (({ s with keyAllowed := false }.emit (.tag t)).skip (word.length - left.length))
  else none

/-- A line of its own before a document. -/
def directive? (s : Scan) (rest : List Char) : Option Scan := do
  let line := lineOf rest
  let d ← Yaml.directive? line
  let s ← s.closeAll.dropKey?
  some (({ s with keyAllowed := false }.emit (.directive d)).skip line.length)

/-- The start or the end of a document. -/
def document? (s : Scan) (token : Token) : Option Scan := do
  let s ← s.closeAll.dropKey?
  some (({ s with keyAllowed := false }.emit token).skip 2)

/-- The text behind `|` or `>`. -/
def block? (s : Scan) (folded : Bool) : Option Scan := do
  let s ← s.dropKey?
  some { s with mode := .block { folded, parent := s.columns.head? }, keyAllowed := true }

/-- A token starts with a character that is no boundary of a document. -/
def startToken? (s : Scan) (c : Char) (rest : List Char) : Option Scan :=
  match c with
  | '[' => s.opening? .openList
  | '\x7b' => s.opening? .openRecord
  | ']' => s.closing? .closeList
  | '\x7d' => s.closing? .closeRecord
  | ',' => s.comma?
  | '&' => s.anchor? .anchor rest
  | '*' => s.anchor? .alias rest
  | '!' => s.tag? rest
  | '\'' => s.scalar? .single
  | '"' => s.scalar? .double
  | c =>
    if c = '-' && blankNext rest then s.item?
    else if c = '?' && s.isMark rest then s.key?
    else if c = ':' && s.isMark rest then s.value?
    else if (c = '|' || c = '>') && !s.inBrackets then s.block? (c == '>')
    else if isIndicator c then none
    else s.scalar? fun l => .plain (l.push c)

/-- A token starts with a character. -/
def start? (s : Scan) (c : Char) (rest : List Char) : Option Scan := do
  let s := (← s.keepKeys?).closeBeyond s.column
  if s.column = 0 && c = '%' then s.directive? rest
  else
    match s.column, boundary? (c :: rest) with
    | 0, some token => s.document? token
    | _, _ => s.startToken? c rest

/-- One character further between tokens. -/
def next? (s : Scan) (c : Char) (rest : List Char) : Option Scan :=
  if c = ' ' then some s
  else if c = '\t' then if s.inBrackets || !s.keyAllowed then some s else none
  else if isBreak c then some { s with keyAllowed := !s.inBrackets || s.keyAllowed }
  else if c = '#' then some { s with mode := .comment }
  else s.start? c rest

/-! ## Scalars -/

/-- A scalar is read to its end. -/
def finishScalar (s : Scan) (read : List Char) (style : ScalarStyle) : Scan :=
  { s with mode := .between }.emit (.scalar (String.ofList read.reverse) style)

/-- An unquoted scalar ends before a visible character. -/
def endsPlain (s : Scan) (l : Lexeme) (c : Char) (rest : List Char) : Bool :=
  (l.gap.hasBreak && (s.atBoundary c rest || (!s.inBrackets && s.isOutside)))
    || (c = '#' && !l.gap.isEmpty)
    || (c = ':' && blankNext rest)
    || (s.inBrackets && isBracket c)

/-- An unquoted scalar is read to its end. A key may start behind it on another line. -/
def finishPlain (s : Scan) (l : Lexeme) : Scan :=
  { s.finishScalar l.read .plain with keyAllowed := s.keyAllowed || l.gap.hasBreak }

/-- One character further in an unquoted scalar. -/
def nextPlain? (s : Scan) (l : Lexeme) (c : Char) (rest : List Char) : Option Scan :=
  if isSpace c || isBreak c then
    if c = '\t' && l.gap.hasBreak && s.isOutside then none
    else some { s with mode := .plain (l.pause c) }
  else if s.endsPlain l c rest then (s.finishPlain l).next? c rest
  else if s.inBrackets && c = ':' && (rest.head?.map fun d => d = '?' || isBracket d).getD false
  then none
  else some { s with mode := .plain (l.push c) }

/-- The character of a one-letter escape. -/
def unescape? : Char → Option Char
  | '0' => some '\x00'
  | 'a' => some '\x07'
  | 'b' => some '\x08'
  | 't' | '\t' => some '\t'
  | 'n' => some '\n'
  | 'v' => some '\x0b'
  | 'f' => some '\x0c'
  | 'r' => some '\r'
  | 'e' => some '\x1b'
  | ' ' => some ' '
  | '"' => some '"'
  | '/' => some '/'
  | '\\' => some '\\'
  | 'N' => some '\u0085'
  | '_' => some '\u00a0'
  | 'L' => some '\u2028'
  | 'P' => some '\u2029'
  | _ => none

/-- The number of digits of an escape by code point. -/
def escapeDigits? : Char → Option Nat
  | 'x' => some 2
  | 'u' => some 4
  | 'U' => some 8
  | _ => none

/-- A character behind a backslash. -/
def nextEscaped? (s : Scan) (l : Lexeme) (c : Char) : Option Scan :=
  if isBreak c then
    some { s with mode := .double { l with read := l.withGap, gap := .breaks none [] } }
  else
    match escapeDigits? c with
    | some count => some { s with mode := .digits l count 0 }
    | none => (unescape? c).map fun d => { s with mode := .double (l.push d) }

/-- A digit of an escape. -/
def nextDigit? (s : Scan) (l : Lexeme) (left value : Nat) (c : Char) : Option Scan := do
  let digit ← Decimal.digitValue? 16 c
  let value := value * 16 + digit
  if 1 < left then some { s with mode := .digits l (left - 1) value }
  else if h : value.isValidChar then
    some { s with mode := .double (l.push (Char.ofNatAux value h)) }
  else none

/-- One character further in single quotes, where a quote may be the first of two. -/
def nextSingle? (s : Scan) (l : Lexeme) (c : Char) (rest : List Char) : Option Scan :=
  if isSpace c || isBreak c then some { s with mode := .single (l.pause c) }
  else if s.atBoundary c rest then none
  else if c = '\'' then some { s with mode := .singleEnd l }
  else some { s with mode := .single (l.push c) }

/-- One character further in double quotes. -/
def nextDouble? (s : Scan) (l : Lexeme) (c : Char) (rest : List Char) : Option Scan :=
  if isSpace c || isBreak c then some { s with mode := .double (l.pause c) }
  else if s.atBoundary c rest then none
  else if c = '"' then some (s.finishScalar l.withGap .double)
  else if c = '\\' then some { s with mode := .escaped l }
  else some { s with mode := .double (l.push c) }

/-- The style of a block. -/
def blockStyle (b : BlockText) : ScalarStyle := if b.folded then .folded else .literal

/-- One character further in a block. -/
def nextBlock? (s : Scan) (b : BlockText) (c : Char) (rest : List Char) : Option Scan :=
  match b.next s.column c with
  | .more b => some { s with mode := .block b }
  | .behind => (s.finishScalar b.finish.reverse (blockStyle b)).next? c rest
  | .invalid => none

/-! ## The whole text -/

/-- One character further, its position left aside. -/
def step? (s : Scan) (c : Char) (rest : List Char) : Option Scan :=
  match s.mode with
  | .between => s.next? c rest
  | .skipping left => some (s.skip (left - 1))
  | .comment => if isBreak c then { s with mode := .between }.next? c rest else some s
  | .plain l => s.nextPlain? l c rest
  | .single l => s.nextSingle? l c rest
  | .singleEnd l =>
    if c = '\'' then some { s with mode := .single (l.push c) }
    else (s.finishScalar l.withGap .single).next? c rest
  | .double l => s.nextDouble? l c rest
  | .escaped l => s.nextEscaped? l c
  | .digits l left value => s.nextDigit? l left value c
  | .block b => s.nextBlock? b c rest

/-- The position behind a character. -/
def advance (s : Scan) (c : Char) : Scan :=
  let (line, column) := if isBreak c then (s.line + 1, 0) else (s.line, s.column + 1)
  { s with line, column, index := s.index + 1 }

/-- What is being read at the end of the text is read to its end. -/
def finishMode? (s : Scan) : Option Scan :=
  match s.mode with
  | .between | .comment => some s
  | .plain l => some (s.finishPlain l)
  | .singleEnd l => some (s.finishScalar l.withGap .single)
  | .block b =>
    let whole? := match b.place with
      | .header read => b.withHeader? read.reverse
      | _ => some b
    whole?.map fun b => s.finishScalar b.finish.reverse (blockStyle b)
  | _ => none

/-- The scanner at the end of the text. -/
def finish? (s : Scan) : Option Scan := do
  let s ← (← s.finishMode?).keepKeys?
  s.closeAll.dropKey?

/-- The tokens of what is left of a text. -/
def run? (s : Scan) : List Char → Option (List Token)
  | [] => s.finish?.map fun s => s.tokens.reverse
  | c :: rest => do
    let next ← s.step? c rest
    run? (next.advance c) rest

end Scan

/-- The characters that a text may hold. -/
def isAllowed (c : Char) : Bool :=
  let n := c.toNat
  n = 0x09 || n = 0x0A || n = 0x0D || (0x20 ≤ n && n ≤ 0x7E) || n = 0x85
    || (0xA0 ≤ n && n ≤ 0xFFFD && n ≠ 0xFEFF) || 0x10000 ≤ n

/-- The text with every carriage return, alone or before a line feed, and every next-line character
turned into a line feed. -/
def unifyBreaks : List Char → List Char
  | [] => []
  | '\r' :: '\n' :: rest => '\n' :: unifyBreaks rest
  | c :: rest => (if c = '\r' || c = '\u0085' then '\n' else c) :: unifyBreaks rest

/-- The tokens of a text. A byte order mark may stand before it. -/
def scan (text : List Char) : Option (List Token) :=
  let body := match text with
    | '\ufeff' :: rest => rest
    | _ => text
  if body.all isAllowed then ({} : Scan).run? (unifyBreaks body) else none

end SchemaConversion.Yaml
