import SchemaConversion.Decimal.Numeral

/-!
# The binary value nearest to a decimal

`nearest` rounds `digits * 10 ^ exponent` once, exactly: the quotient that becomes the mantissa is
formed of naturals, and a half goes to the even neighbour. What is too large for a finite value is
infinite.
-/

namespace SchemaConversion.Decimal

/-- The quotient rounded to a whole number, a half to the even neighbour. -/
def roundedQuotient (numerator denominator : Nat) : Nat :=
  let quotient := numerator / denominator
  match compare (2 * (numerator % denominator)) denominator with
  | .lt => quotient
  | .gt => quotient + 1
  | .eq => if quotient % 2 = 0 then quotient else quotient + 1

/-- The exponent of the last place of the binary value that a positive quotient rounds to. -/
def placeOf (numerator denominator : Nat) : Int :=
  let guess : Int := (numerator.log2 : Int) - denominator.log2 - 53
  let quotient := (numerator <<< (-guess).toNat) / (denominator <<< guess.toNat)
  max (if quotient < 1 <<< 53 then guess else guess + 1) (-1074)

/-- The bits of the binary value nearest to a positive quotient. A mantissa of 53 bits carries into
the exponent by itself when it rounds up to the next power of two. -/
def quotientBits (numerator denominator : Nat) : Nat :=
  let place := placeOf numerator denominator
  let mantissa :=
    roundedQuotient (numerator <<< (-place).toNat) (denominator <<< place.toNat)
  let bits := ((place + 1074).toNat <<< 52) + mantissa
  min bits (0x7FF <<< 52)

/-- The decimal `digits * 10 ^ exponent` as the nearest binary value. Exponents far outside the
range of finite values are cut back to where the answer is already zero or infinite. -/
def nearest (digits : Nat) (exponent : Int) : Float :=
  let size : Int := (Nat.toDigits 10 digits).length
  if digits = 0 || exponent + size < -400 then 0.0
  else if 400 < exponent + size then 1.0 / 0.0
  else
    Float.ofBits (UInt64.ofNat
      (quotientBits (digits * Nat.pow 10 exponent.toNat) (Nat.pow 10 (-exponent).toNat)))

/-- The exponent of a decimal number, an integer with an optional sign. -/
def exponent? : List Char → Option Int
  | '-' :: digits => (numeral? 10 digits).map fun n => -(n : Int)
  | '+' :: digits => (numeral? 10 digits).map Int.ofNat
  | digits => (numeral? 10 digits).map Int.ofNat

/-- A decimal number without a sign: digits with at most one point among them, at least one digit,
and an optional exponent. -/
def decimal? (s : List Char) : Option Float := do
  let (mantissa, exponentText) := cutAt (fun c => c == 'e' || c == 'E') s
  let exponent ← (exponentText.map exponent?).getD (some 0)
  let (whole, fraction) := cutAt (· == '.') mantissa
  let fraction := fraction.getD []
  let digits ← numeral? 10 (whole ++ fraction)
  some (nearest digits (exponent - fraction.length))

end SchemaConversion.Decimal
