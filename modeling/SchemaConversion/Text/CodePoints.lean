/-!
# Sets of characters

A set of characters is an ascending list of closed ranges of code points that do not touch. The
search stops at the first range that begins beyond the character, so that the ASCII part of a long
table costs a few comparisons.
-/

namespace SchemaConversion.Text

/-- Membership of a code point in ascending closed ranges. -/
def inRanges : List (Nat × Nat) → Nat → Bool
  | [], _ => false
  | (first, last) :: rest, n => first ≤ n && (n ≤ last || inRanges rest n)

end SchemaConversion.Text
