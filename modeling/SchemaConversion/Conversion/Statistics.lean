import SchemaConversion.ObjectType

/-!
# Statistics of a conversion

Every source object is counted once: as converted, skipped because the user left it out, or dropped
because the target has nothing for it.
-/

namespace SchemaConversion

/-- What became of the objects of one type. -/
structure ObjectStats where
  sourceCount : Nat
  converted : Nat := 0
  skipped : Nat := 0
  dropped : Nat := 0
  deriving DecidableEq

/-- A part of a whole; nothing is all of nothing. -/
def share (part whole : Nat) : Float :=
  if whole = 0 then 1.0 else Float.ofNat part / Float.ofNat whole

namespace ObjectStats

/-- Every source object is accounted for. -/
def isBalanced (s : ObjectStats) : Bool := s.converted + s.skipped + s.dropped = s.sourceCount

/-- The share of converted objects. -/
def successRate (s : ObjectStats) : Float := share s.converted s.sourceCount

end ObjectStats

/-- The statistics by object type, in declaration order. -/
abbrev Statistics := List (ObjectType × ObjectStats)

namespace Statistics

/-- The entries put in declaration order. -/
def ofEntries (entries : List (ObjectType × ObjectStats)) : Statistics :=
  ObjectType.all.filterMap fun t => (entries.lookup t).map fun stats => (t, stats)

/-- The number of source objects. -/
def sourceTotal (s : Statistics) : Nat :=
  (s.map fun entry => entry.2.sourceCount).foldr (· + ·) 0

/-- The number of converted objects. -/
def convertedTotal (s : Statistics) : Nat :=
  (s.map fun entry => entry.2.converted).foldr (· + ·) 0

/-- The share of converted objects. -/
def successRate (s : Statistics) : Float := share s.convertedTotal s.sourceTotal

end Statistics

end SchemaConversion
