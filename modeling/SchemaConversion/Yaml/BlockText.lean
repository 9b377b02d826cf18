import SchemaConversion.Yaml.Folding

/-!
# YAML block scalars

The text behind `|` or `>` is the indented lines that follow. Behind `|` lines stay as they are,
behind `>` they are folded unless they start with a blank. The header may fix the indentation with
a digit and says with `-` or `+` whether the line breaks at the end are dropped or all kept; one is
kept otherwise.
-/

namespace SchemaConversion.Yaml

/-- What becomes of the line breaks at the end. -/
inductive Chomping where
  | strip | clip | keep

/-- Where in a block scalar the reading is. -/
inductive BlockPlace where
  /-- In the line of the indicator, with what has been read behind it, the latest first. -/
  | header (read : List Char)
  /-- In the indentation of a line. -/
  | lineStart
  | content

/-- A block scalar that is being read. -/
structure BlockText where
  folded : Bool
  /-- The column of the collection in which the scalar stands. -/
  parent : Option Nat
  chomping : Chomping := .clip
  /-- The column of the text, as soon as it is known. -/
  indent : Option Nat := none
  /-- The farthest column of the empty lines before the text. -/
  farthest : Nat := 0
  /-- The characters of the lines so far, the latest first. -/
  read : List Char := []
  /-- The break of the last line. -/
  lineEnd : List Char := []
  /-- The breaks of the empty lines behind it, the latest first. -/
  emptyLines : List Char := []
  /-- The last line starts with a blank. -/
  afterIndented : Bool := false
  place : BlockPlace := .header []

namespace BlockText

/-- The chomping that a sign asks for. -/
def chomping? : Char → Option Chomping
  | '-' => some .strip
  | '+' => some .keep
  | _ => none

/-- The indentation that a digit asks for. -/
def increment? (c : Char) : Option Nat :=
  if '1' ≤ c ∧ c ≤ '9' then some (c.toNat - '0'.toNat) else none

/-- The indicators of a header: a sign and a digit, in any order. -/
def indicators? : List Char → Option (Chomping × Option Nat)
  | [] => some (.clip, none)
  | [c] =>
    ((chomping? c).map fun chomping => (chomping, none)).or
      ((increment? c).map fun n => (.clip, some n))
  | [c, d] =>
    (do let chomping ← chomping? c; let n ← increment? d; some (chomping, some n)).or
      (do let n ← increment? c; let chomping ← chomping? d; some (chomping, some n))
  | _ => none

/-- The block with the indications of its header, behind which only a comment may stand. -/
def withHeader? (b : BlockText) (header : List Char) : Option BlockText := do
  let plain (c : Char) : Bool := !isSpace c && c != '#'
  let (chomping, increment) ← indicators? (header.takeWhile plain)
  match (header.dropWhile plain).dropWhile isSpace with
  | [] | '#' :: _ =>
    some
      { b with
        chomping, place := .lineStart
        indent := increment.map fun n => b.parent.getD 0 + n }
  | _ => none

/-- The column of the text if its first line starts here. -/
def textColumn (b : BlockText) (column : Nat) : Nat :=
  let least := (b.parent.map (· + 1)).getD 1
  b.indent.getD (max least (max b.farthest column))

/-- The column is still before the text. -/
def isBefore (b : BlockText) (column : Nat) : Bool :=
  (b.indent.map fun indent => decide (column < indent)).getD true

/-- A line of the text starts with a character. -/
def startLine (b : BlockText) (column : Nat) (c : Char) : BlockText :=
  let indented := isSpace c
  let joined : List Char :=
    if b.folded && b.lineEnd == ['\n'] && !b.afterIndented && !indented then
      if b.emptyLines.isEmpty then [' '] else []
    else b.lineEnd
  { b with
    indent := some column, read := c :: (b.emptyLines ++ joined ++ b.read), lineEnd := []
    emptyLines := [], afterIndented := indented, place := .content }

/-- What a character does to a block scalar. -/
inductive Step where
  | more (b : BlockText)
  /-- The character stands behind the scalar. -/
  | behind
  | invalid

/-- One character further. -/
def next (b : BlockText) (column : Nat) (c : Char) : Step :=
  match b.place with
  | .header read =>
    if isBreak c then
      match b.withHeader? read.reverse with
      | some b => .more b
      | none => .invalid
    else .more { b with place := .header (c :: read) }
  | .lineStart =>
    if c = ' ' && b.isBefore column then .more b
    else if isBreak c then
      .more { b with emptyLines := c :: b.emptyLines, farthest := max b.farthest column }
    else if c = '\t' && b.isBefore column then .invalid
    else if column = b.textColumn column then .more (b.startLine column c)
    else .behind
  | .content =>
    if isBreak c then .more { b with lineEnd := [c], place := .lineStart }
    else .more { b with read := c :: b.read }

/-- The text of a scalar that is read to its end. -/
def finish (b : BlockText) : List Char :=
  match b.chomping with
  | .strip => b.read.reverse
  | .clip => (b.lineEnd ++ b.read).reverse
  | .keep => (b.emptyLines ++ b.lineEnd ++ b.read).reverse

end BlockText

end SchemaConversion.Yaml
