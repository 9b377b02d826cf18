import SchemaConversion.Text.Blank
import SchemaConversion.Text.LowerCase
import SchemaConversion.Text.Substitution
import SchemaConversion.Text.Quoted
import SchemaConversion.Text.Alphanumeric

/-!
# Value lists and check expressions

What a conversion attaches to a target as text: a list of values as quoted literals, and the
conditions of domains. A condition is screened before it is attached, so that it stays one
expression: it may hold no statement separator, no comment mark and no word that executes
something. In a domain's condition the word `VALUE` stands for the column; it is replaced by a
placeholder wherever it stands outside quotes.
-/

namespace SchemaConversion.Expression

/-- A value as a literal, each single quote in it doubled. -/
def literal (value : String) : String := "'" ++ Text.replaceText "'" "''" value ++ "'"

/-- The values as literals, separated by a comma and a space. -/
def literalList (values : List String) : String := ", ".intercalate (values.map literal)

/-- Why an expression is refused. -/
inductive Fault where
  | empty
  | separator (expression : String)
  | comment (expression : String)
  | execution (expression : String)

/-- The sentence about a fault. -/
def Fault.message : Fault → String
  | .empty => "Check expression cannot be empty"
  | .separator e => "Check expression contains a statement separator: " ++ Text.quoted e
  | .comment e => "Check expression contains comment markers: " ++ Text.quoted e
  | .execution e => "Check expression contains EXEC/EXECUTE keyword: " ++ Text.quoted e

/-- A word that executes something, given in lower case, alone or before a parenthesis. -/
def isExecution (word : List Char) : Bool :=
  word = "exec".toList || word = "execute".toList
    || "exec(".toList.isPrefixOf word || "execute(".toList.isPrefixOf word

/-- The first fault of an expression, if it has one. -/
def fault? (expression : String) : Option Fault :=
  if Text.isBlankText expression then some .empty
  else if expression.toList.contains ';' then some (.separator expression)
  else if Text.containsText "--" expression || Text.containsText "/*" expression
      || Text.containsText "*/" expression then some (.comment expression)
  else if (Text.words (Text.lowerChars expression.toList)).any isExecution then
    some (.execution expression)
  else none

/-- What stands for the column in a condition. -/
def columnPlaceholder : String := "\x7bcolumn\x7d"

/-- A character of a word. -/
def isWordChar (c : Char) : Bool := Text.isAlphanumeric c || c = '_'

/-- The word `VALUE` in any case becomes the placeholder; every other word stays. -/
def placeWord (word : List Char) : List Char :=
  if word.map Char.toLower = "value".toList then columnPlaceholder.toList else word

/-- Where a condition is being read: inside quotes that end with a character, or outside with the
letters of the current word, the latest first. -/
inductive Place where
  | quoted (quote : Char)
  | outside (word : List Char)

/-- Puts the placeholder for the word `VALUE` in what is left, from a place. -/
def placeColumn : Place → List Char → List Char
  | .quoted _, [] => []
  | .outside word, [] => placeWord word.reverse
  | .quoted quote, c :: rest =>
    c :: placeColumn (if c = quote then .outside [] else .quoted quote) rest
  | .outside word, c :: rest =>
    if isWordChar c then placeColumn (.outside (c :: word)) rest
    else
      placeWord word.reverse ++ c ::
        placeColumn (if c = '\'' || c = '"' then .quoted c else .outside []) rest

/-- The condition with the placeholder for the column in place of each unquoted word `VALUE`. -/
def forColumn (condition : String) : String :=
  String.ofList (placeColumn (.outside []) condition.toList)

end SchemaConversion.Expression
