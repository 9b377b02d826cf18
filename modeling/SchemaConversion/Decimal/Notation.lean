import SchemaConversion.Decimal.Shortest

/-!
# How numbers are written

One selection of digits serves every output; what differs between a message and a document is the
layout: where positional notation ends, whether a whole number keeps a `.0`, how the special
values are spelled and which of two equally near decimals is taken. Those decisions are the fields
of a `NumberStyle`, and `NumberStyle.render` is the one function that lays numbers out.
-/

namespace SchemaConversion.Decimal

/-- The decisions of one kind of output about numbers. -/
structure NumberStyle where
  /-- Decimal exponents of the leading digit that are written positionally; all of them if none. -/
  positional : Option (Int × Int)
  /-- A whole number in positional notation ends in `.0`. -/
  pointZero : Bool
  /-- Which of two equally near decimals is taken. -/
  tie : Tie
  notANumber : String
  infinity : String
  negativeInfinity : String

/-- Positional layout of the digits, whose last one stands for `10 ^ exponent`. -/
def positionalText (pointZero : Bool) (digits : List Char) (exponent : Int) : List Char :=
  if 0 ≤ exponent then
    digits ++ List.replicate exponent.toNat '0' ++ (if pointZero then ['.', '0'] else [])
  else
    let places := (-exponent).toNat
    if places < digits.length then
      digits.take (digits.length - places) ++ '.' :: digits.drop (digits.length - places)
    else ['0', '.'] ++ List.replicate (places - digits.length) '0' ++ digits

/-- Layout with one digit before the point and an exponent. -/
def scientificText (digits : List Char) (leading : Int) : List Char :=
  (match digits with
    | [] => []
    | [d] => [d]
    | d :: rest => d :: '.' :: rest) ++ 'e' :: (toString leading).toList

/-- The text of a positive finite value. -/
def NumberStyle.magnitudeText (style : NumberStyle) (x : Binary) : List Char :=
  if x.mantissa = 0 then positionalText style.pointZero ['0'] 0
  else
    let d := x.shortest style.tie
    let digits := Nat.toDigits 10 d.digits
    let leading := d.exponent + digits.length - 1
    match style.positional with
    | none => positionalText style.pointZero digits d.exponent
    | some (low, high) =>
      if low ≤ leading && leading ≤ high then positionalText style.pointZero digits d.exponent
      else scientificText digits leading

/-- The text of a number in this style. -/
def NumberStyle.render (style : NumberStyle) (x : Float) : String :=
  let bits := x.toBits
  let negative := bits >>> 63 = 1
  if x.isNaN then style.notANumber
  else if x.isInf then if negative then style.negativeInfinity else style.infinity
  else
    String.ofList ((if negative then ['-'] else []) ++ style.magnitudeText (Binary.ofBits bits))

/-- Numbers in messages are positional throughout, without a `.0`. -/
def messageNumber : NumberStyle where
  positional := none
  pointZero := false
  tie := .up
  notANumber := "NaN"
  infinity := "inf"
  negativeInfinity := "-inf"

/-- A share of one as a percentage without places, the text before the percent sign. -/
def percentage (share : Float) : String :=
  let x := share * 100.0
  let bits := x.toBits
  let negative := bits >>> 63 = 1
  if x.isNaN then messageNumber.notANumber
  else if x.isInf then
    if negative then messageNumber.negativeInfinity else messageNumber.infinity
  else (if negative then "-" else "") ++ toString (Binary.ofBits bits).nearestWhole

end SchemaConversion.Decimal
