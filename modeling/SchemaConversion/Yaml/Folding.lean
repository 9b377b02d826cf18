/-!
# Line folding in YAML scalars

A scalar that runs over several lines is folded: a single line break between two visible stretches
is a space, of several breaks the first is dropped, and the blanks around them do not count. A
`Gap` collects what stands between two stretches until it is known that another one follows.
-/

namespace SchemaConversion.Yaml

/-- A line break, after the breaks of two characters and the carriage return have become `\n`. -/
def isBreak (c : Char) : Bool := c == '\n' || c == '\u2028' || c == '\u2029'

/-- A blank within a line. -/
def isSpace (c : Char) : Bool := c == ' ' || c == '\t'

/-- What has been read since the last visible character. -/
inductive Gap where
  /-- Blanks of one line, the latest first. -/
  | blanks (read : List Char)
  /-- The first line break, unless it was escaped, and the further ones, the latest first. -/
  | breaks (first : Option Char) (more : List Char)

namespace Gap

/-- Nothing has been read. -/
def empty : Gap := .blanks []

/-- One blank or line break further. -/
def next (gap : Gap) (c : Char) : Gap :=
  match gap with
  | .blanks read => if isBreak c then .breaks (some c) [] else .blanks (c :: read)
  | .breaks first more => if isBreak c then .breaks first (c :: more) else gap

/-- There is something between the stretches. -/
def isEmpty : Gap → Bool
  | .blanks read => read.isEmpty
  | .breaks .. => false

/-- The next stretch stands on another line. -/
def hasBreak : Gap → Bool
  | .blanks _ => false
  | .breaks .. => true

/-- The text that the gap is folded to. -/
def text : Gap → List Char
  | .blanks read => read.reverse
  | .breaks (some '\n') [] => [' ']
  | .breaks (some '\n') more => more.reverse
  | .breaks first more => first.toList ++ more.reverse

end Gap

/-- The part of a scalar that has been read. -/
structure Lexeme where
  /-- The characters, the latest first. -/
  read : List Char := []
  gap : Gap := .empty

namespace Lexeme

/-- The characters with the gap behind them. -/
def withGap (l : Lexeme) : List Char := l.gap.text.reverse ++ l.read

/-- One visible character further. -/
def push (l : Lexeme) (c : Char) : Lexeme := { l with read := c :: l.withGap, gap := .empty }

/-- One blank or line break further. -/
def pause (l : Lexeme) (c : Char) : Lexeme := { l with gap := l.gap.next c }

end Lexeme

end SchemaConversion.Yaml
