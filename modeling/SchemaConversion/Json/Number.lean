import SchemaConversion.Document
import SchemaConversion.Decimal.Nearest

/-!
# Reading JSON numbers

A number without fraction and exponent is an integer as long as it fits 64 bits. Any other number
is approximated: its leading digits, as many as fit 64 bits, become one binary value, which is
then multiplied or divided by a power of ten, so that numerals of many digits may miss the nearest
value by a little. A number beyond the range of finite values is well formed but not readable.
-/

namespace SchemaConversion.Json

/-- The leading digits of a number as one integer, with the power of ten that it counts. -/
structure Significand where
  value : Nat := 0
  exponent : Int := 0
  /-- A further digit did not fit. -/
  isFull : Bool := false

namespace Significand

/-- One digit further, if it fits 64 bits. -/
def push? (s : Significand) (digit : Char) : Option Nat :=
  let value := s.value * 10 + (digit.toNat - '0'.toNat)
  if s.isFull || maxUnsigned64 < value then none else some value

/-- One digit of the whole part further. -/
def whole (s : Significand) (digit : Char) : Significand :=
  match s.push? digit with
  | some value => { s with value }
  | none => { s with exponent := s.exponent + 1, isFull := true }

/-- One digit of the fraction further. Digits that do not fit are dropped. -/
def fraction (s : Significand) (digit : Char) : Significand :=
  match s.push? digit with
  | some value => { s with value, exponent := s.exponent - 1 }
  | none => { s with isFull := true }

end Significand

/-- The greatest power of ten that is a finite binary value. -/
def maxPower : Nat := 308

/-- The value divided by so high a power of ten, in steps. Three steps reach zero from any integer
of 64 bits, so `fuel` need not be greater. -/
def dividedBy (fuel : Nat) (x : Float) (power : Nat) : Float :=
  match fuel with
  | 0 => 0.0
  | fuel + 1 =>
    if power ≤ maxPower then x / Decimal.nearest 1 power
    else if x == 0.0 then x
    else dividedBy fuel (x / Decimal.nearest 1 maxPower) (power - maxPower)

/-- The binary value of a significand times a power of ten, if it is finite. -/
def scaled? (value : Nat) (exponent : Int) : Option Float :=
  let x := (UInt64.ofNat value).toFloat
  if exponent < 0 then some (dividedBy 4 x exponent.natAbs)
  else if exponent ≤ maxPower then
    let y := x * Decimal.nearest 1 exponent
    if y.isInf then none else some y
  else if value = 0 then some x
  else none

/-- The sign of an exponent, true where it is negative, and its digits. -/
def exponentParts : List Char → Bool × List Char
  | '-' :: digits => (true, digits)
  | '+' :: digits => (false, digits)
  | digits => (false, digits)

/-- The greatest exponent that is added to the one of the significand. -/
def maxExponent : Nat := (1 <<< 31) - 1

/-- The magnitude of a number in parts, if it is finite. -/
def magnitude? (whole fraction exponent : List Char) : Option Float :=
  let s := whole.foldl Significand.whole {}
  let s := fraction.foldl Significand.fraction { s with isFull := false }
  let (negative, digits) := exponentParts exponent
  let shift := (Decimal.numeral? 10 digits).getD 0
  if maxExponent < shift then if s.value = 0 || negative then some 0.0 else none
  else scaled? s.value (if negative then s.exponent - shift else s.exponent + shift)

/-- Digits and nothing else, at least one of them. -/
def areDigits (s : List Char) : Bool := !s.isEmpty && s.all Char.isDigit

/-- The value of a word that is a number. -/
def number? (word : List Char) : Option Document :=
  let (negative, unsigned) := match word with
    | '-' :: rest => (true, rest)
    | rest => (false, rest)
  let (mantissa, exponent) := Decimal.cutAt (fun c => c == 'e' || c == 'E') unsigned
  let (whole, fraction) := Decimal.cutAt (· == '.') mantissa
  let wellFormed := areDigits whole && !Decimal.hasLeadingZero whole
    && (fraction.map areDigits).getD true
    && (exponent.map fun e => areDigits (exponentParts e).2).getD true
  if !wellFormed then none
  else
    let real :=
      match magnitude? whole (fraction.getD []) (exponent.getD []) with
      | some x => .number (if negative then -x else x)
      | none => .unreadable
    if fraction.isSome || exponent.isSome then some real
    else
      match Decimal.numeral? 10 whole with
      | none => none
      | some n =>
        if negative then some (if 0 < n && n ≤ 1 <<< 63 then .negative n else real)
        else some (if n ≤ maxUnsigned64 then .natural n else real)

end SchemaConversion.Json
