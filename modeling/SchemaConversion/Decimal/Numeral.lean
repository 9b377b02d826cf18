/-!
# Numerals

Digits in a base up to sixteen, the value of a numeral, and the cut of a text at a mark, out of
which the readers of numbers are made.
-/

namespace SchemaConversion.Decimal

/-- The value of a digit below the base. -/
def digitValue? (base : Nat) (c : Char) : Option Nat :=
  let value? :=
    if c.isDigit then some (c.toNat - '0'.toNat)
    else if 'a' ≤ c ∧ c ≤ 'f' then some (c.toNat - 'a'.toNat + 10)
    else if 'A' ≤ c ∧ c ≤ 'F' then some (c.toNat - 'A'.toNat + 10)
    else none
  value?.filter (· < base)

/-- The value of a non-empty numeral in the base. -/
def numeral? (base : Nat) (digits : List Char) : Option Nat :=
  if digits.isEmpty then none
  else digits.foldl (fun total? c => do
    let total ← total?
    let digit ← digitValue? base c
    some (total * base + digit)) (some 0)

/-- Digits only, more than one of them, with a zero in front. -/
def hasLeadingZero : List Char → Bool
  | '0' :: c :: rest => (c :: rest).all Char.isDigit
  | _ => false

/-- Splits at the first character that satisfies the test, which is left out; the second part is
missing if there is none. -/
def cutAt (p : Char → Bool) (s : List Char) : List Char × Option (List Char) :=
  match s.dropWhile (fun c => !p c) with
  | [] => (s, none)
  | _ :: rest => (s.takeWhile (fun c => !p c), some rest)

end SchemaConversion.Decimal
