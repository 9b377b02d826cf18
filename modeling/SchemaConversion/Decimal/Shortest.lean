/-!
# The fewest decimal digits that identify a number

A finite binary value stands for all reals that round to it. Among the decimals in that interval
`Binary.shortest` takes one with the fewest digits, and of those the nearest to the value. The
search works on exact naturals: for one, two, … seventeen digits it tests the two neighbours of
the value on the decimal grid of that width, and the first grid with a hit decides.
-/

namespace SchemaConversion.Decimal

/-- A positive finite value `mantissa * 2 ^ exponent`. -/
structure Binary where
  mantissa : Nat
  exponent : Int
  /-- The gap to the value below is half the gap to the value above. -/
  narrowBelow : Bool

/-- The decimal `digits * 10 ^ exponent`. -/
structure Digits where
  digits : Nat
  exponent : Int
  deriving DecidableEq

/-- Which of two equally near decimals of one width is taken. -/
inductive Tie where
  | even
  | up
  deriving DecidableEq

/-- The magnitude of a finite value, from its bits. -/
def Binary.ofBits (bits : UInt64) : Binary :=
  let biased := ((bits >>> 52) &&& 0x7FF).toNat
  let fraction := (bits &&& 0xFFFFFFFFFFFFF).toNat
  if biased = 0 then ⟨fraction, -1074, false⟩
  else ⟨(1 <<< 52) + fraction, (biased : Int) - 1075, fraction = 0 && 1 < biased⟩

/-- Compares `a * 10 ^ i` with `b * 2 ^ j` exactly. -/
def compareScaled (a : Nat) (i : Int) (b : Nat) (j : Int) : Ordering :=
  compare ((a * Nat.pow 10 i.toNat) <<< (-j).toNat) ((b * Nat.pow 10 (-i).toNat) <<< j.toNat)

/-- The decimal lies among the reals that round to the value: the interval ends halfway to either
neighbour, ends included when the mantissa is even. -/
def Binary.readsBack (x : Binary) (d : Digits) : Bool :=
  let low := if x.narrowBelow then 4 * x.mantissa - 1 else 4 * x.mantissa - 2
  let high := 4 * x.mantissa + 2
  let closed := x.mantissa % 2 = 0
  let atLow := compareScaled d.digits d.exponent low (x.exponent - 2)
  let atHigh := compareScaled d.digits d.exponent high (x.exponent - 2)
  (atLow = .gt || (closed && atLow = .eq)) && (atHigh = .lt || (closed && atHigh = .eq))

/-- The least power of ten above the value; the binary logarithm misses it by little. -/
def Binary.magnitude (x : Binary) : Int :=
  let guess := ((x.mantissa.log2 + x.exponent) * 30103).fdiv 100000
  let above (k : Int) : Bool := compareScaled 1 k x.mantissa x.exponent = .gt
  if above (guess - 1) then guess - 1
  else if above guess then guess
  else if above (guess + 1) then guess + 1
  else guess + 2

/-- The quotient and remainder of the value on the grid of multiples of `10 ^ grid`, with the
divisor. -/
def Binary.onGrid (x : Binary) (grid : Int) : Nat × Nat × Nat :=
  let value := (x.mantissa * Nat.pow 10 (-grid).toNat) <<< x.exponent.toNat
  let unit := Nat.pow 10 grid.toNat <<< (-x.exponent).toNat
  (value / unit, value % unit, unit)

/-- The nearer of the value's two neighbours on a grid that reads back, if one does. -/
def Binary.onGrid? (x : Binary) (tie : Tie) (grid : Int) : Option Digits :=
  let (quotient, rest, unit) := x.onGrid grid
  let below : Digits := ⟨quotient, grid⟩
  let above : Digits := ⟨quotient + 1, grid⟩
  match x.readsBack below, x.readsBack above with
  | true, false => some below
  | false, true => some above
  | false, false => none
  | true, true =>
    match compare (2 * rest) unit, tie with
    | .lt, _ => some below
    | .gt, _ => some above
    | .eq, .up => some above
    | .eq, .even => some (if quotient % 2 = 0 then below else above)

/-- Moves the factors of ten among the digits into the exponent, as many as `limit` allows. -/
def Digits.strip : Nat → Digits → Digits
  | 0, d => d
  | limit + 1, d =>
    if d.digits % 10 = 0 then Digits.strip limit ⟨d.digits / 10, d.exponent + 1⟩ else d

/-- The fewest digits that read back. Seventeen always do; the exact value stands in where they
would not. -/
def Binary.shortest (x : Binary) (tie : Tie) : Digits :=
  let top := x.magnitude
  let found := (List.range 17).findSome? fun n => x.onGrid? tie (top - (n + 1 : Nat))
  (found.getD ⟨(x.mantissa * Nat.pow 5 (-x.exponent).toNat) <<< x.exponent.toNat,
    -((-x.exponent).toNat : Int)⟩).strip 400

/-- The value rounded to a whole number, a half to the even neighbour. -/
def Binary.nearestWhole (x : Binary) : Nat :=
  let (quotient, rest, unit) := x.onGrid 0
  match compare (2 * rest) unit with
  | .lt => quotient
  | .gt => quotient + 1
  | .eq => if quotient % 2 = 0 then quotient else quotient + 1

end SchemaConversion.Decimal
