import SchemaConversion.Document
import SchemaConversion.Decimal.Nearest
import SchemaConversion.Yaml.Node

/-!
# Reading YAML scalars

The readings of an unquoted scalar: nothing (`~`, `null` or an empty text), truth values,
integers in base ten or with a `0x`, `0o` or `0b` mark, and decimal numbers with the special
values `.inf` and `.nan`. A numeral with leading zeros is a text and not an integer. Where nothing
is expected, `Scalar.reading?` gives the scalar's own reading, which a tag can ask for.
-/

namespace SchemaConversion.Yaml

open Decimal

/-- The scalar stands for nothing. -/
def readsNull (s : String) : Bool := ["~", "null", "Null", "NULL"].contains s

/-- The truth value the scalar stands for. -/
def readBool? (s : String) : Option Bool :=
  if ["true", "True", "TRUE"].contains s then some true
  else if ["false", "False", "FALSE"].contains s then some false
  else none

/-- The text behind a mark at its start. -/
def behind? (mark : String) (s : List Char) : Option (List Char) :=
  if mark.toList.isPrefixOf s then some (s.drop mark.length) else none

/-- The magnitude of an integer without its sign. -/
def magnitude? (s : List Char) : Option Nat :=
  ((behind? "0x" s).bind (numeral? 16)).or <|
  ((behind? "0o" s).bind (numeral? 8)).or <|
  ((behind? "0b" s).bind (numeral? 2)).or <|
  if hasLeadingZero s then none else numeral? 10 s

/-- The natural number the scalar stands for, with or without a plus sign. -/
def readNatural? (s : String) : Option Nat :=
  match s.toList with
  | '+' :: digits => magnitude? digits
  | digits => magnitude? digits

/-- The magnitude of the negative integer the scalar stands for. -/
def readNegative? (s : String) : Option Nat :=
  match s.toList with
  | '-' :: digits => magnitude? digits
  | _ => none

/-- The number the scalar stands for. A numeral that is too large for a finite value is none. -/
def readNumber? (s : String) : Option Float :=
  if [".inf", ".Inf", ".INF", "+.inf", "+.Inf", "+.INF"].contains s then some (1.0 / 0.0)
  else if ["-.inf", "-.Inf", "-.INF"].contains s then some (-1.0 / 0.0)
  else if [".nan", ".NaN", ".NAN"].contains s then some (0.0 / 0.0)
  else
    let finite? (x : Float) : Option Float := if x.isInf then none else some x
    match s.toList with
    | '+' :: digits => (decimal? digits).bind finite?
    | '-' :: digits => (decimal? digits).bind fun x => finite? (-x)
    | digits => (decimal? digits).bind finite?

/-- A numeral that leading zeros make a text, with or without a sign. -/
def isPadded (s : String) : Bool :=
  match s.toList with
  | '+' :: digits | '-' :: digits => hasLeadingZero digits
  | digits => hasLeadingZero digits

/-- The integer the scalar stands for, if it has at most 128 bits. One of more than 64 bits is read
but has no value. -/
def readInteger? (s : String) : Option Document :=
  match readNatural? s, readNegative? s with
  | some n, _ =>
    if n ≤ maxUnsigned64 then some (.natural n)
    else if n < 1 <<< 128 then some .unreadable
    else none
  | none, some n =>
    if n ≤ 1 <<< 63 then some (.negative n)
    else if n ≤ 1 <<< 127 then some .unreadable
    else none
  | none, none => none

/-- What an unquoted scalar stands for where any kind of value may stand. -/
def readPlain (s : String) : Document :=
  if s.isEmpty || readsNull s then .null
  else
    match readBool? s, readInteger? s with
    | some b, _ => .bool b
    | none, some d => d
    | none, none =>
      if isPadded s then .text s else ((readNumber? s).map Document.number).getD (.text s)

/-- The tag of a kind of scalar that the format itself knows. -/
def standardTag (kind : String) : String := "tag:yaml.org,2002:" ++ kind

/-- The name in a tag of one's own, which is no tag of the format. -/
def ownName? (tag : Option String) : Option String :=
  tag.bind fun t =>
    match t.toList with
    | ['!'] => some "!"
    | '!' :: name => some (String.ofList name)
    | _ => none

namespace Scalar

/-- The scalar is written without quotes. -/
def isPlain (s : Scalar) : Bool := s.style = .plain

/-- The scalar may be read as a value of this kind: it is unquoted, or a literal block with the tag
of the kind. -/
def mayBe (s : Scalar) (kind : String) : Bool :=
  s.isPlain || (s.style = .literal && s.tag = some (standardTag kind))

/-- Nothing is written. -/
def isBlank (s : Scalar) : Bool := s.value.isEmpty && s.isPlain

/-- The scalar with a tag read as the tag says. A tag that the format does not know makes a text. -/
def readTagged? (s : Scalar) (tag : String) : Option Document :=
  if tag = standardTag "bool" then (readBool? s.value).map .bool
  else if tag = standardTag "int" then readInteger? s.value
  else if tag = standardTag "float" then (readNumber? s.value).map .number
  else if tag = standardTag "null" then if readsNull s.value then some .null else none
  else some (.text s.value)

/-- What the scalar is by itself. A scalar with a tag of one's own is nothing by itself. -/
def reading? (s : Scalar) : Option Document :=
  if (ownName? s.tag).isSome then none
  else
    match s.tag with
    | some tag => s.readTagged? tag
    | none => some (if s.isPlain then readPlain s.value else .text s.value)

end Scalar

end SchemaConversion.Yaml
