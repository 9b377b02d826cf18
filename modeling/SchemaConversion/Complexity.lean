/-!
# Complexity and duration

How hard a conversion is, on a scale of five levels, and how long it takes, in five classes.
-/

namespace SchemaConversion

/-- How hard a conversion is. -/
inductive Complexity where
  | trivial | simple | moderate | complex | impossible
  deriving DecidableEq, Inhabited

namespace Complexity

/-- Every level, from the easiest on. -/
def all : List Complexity := [.trivial, .simple, .moderate, .complex, .impossible]

/-- The place of the level on the scale. -/
def level : Complexity → Nat
  | .trivial => 0
  | .simple => 1
  | .moderate => 2
  | .complex => 3
  | .impossible => 4

instance : LE Complexity := ⟨fun a b => a.level ≤ b.level⟩

instance : LT Complexity := ⟨fun a b => a.level < b.level⟩

instance (a b : Complexity) : Decidable (a ≤ b) := inferInstanceAs (Decidable (a.level ≤ b.level))

instance (a b : Complexity) : Decidable (a < b) := inferInstanceAs (Decidable (a.level < b.level))

instance : Max Complexity := ⟨fun a b => if a ≤ b then b else a⟩

/-- The name by which documents and messages call the level. -/
def name : Complexity → String
  | .trivial => "trivial"
  | .simple => "simple"
  | .moderate => "moderate"
  | .complex => "complex"
  | .impossible => "impossible"

/-- The level with this name. -/
def ofName? (name : String) : Option Complexity := all.find? (·.name == name)

/-- One level up; nothing is harder than the impossible. -/
def worse : Complexity → Complexity
  | .trivial => .simple
  | .simple => .moderate
  | .moderate => .complex
  | .complex | .impossible => .impossible

end Complexity

/-- How long a conversion takes. -/
inductive Duration where
  | seconds | minutes | hours | hoursToDays | infeasible
  deriving DecidableEq, Inhabited

namespace Duration

/-- Every class, from the shortest on. -/
def all : List Duration := [.seconds, .minutes, .hours, .hoursToDays, .infeasible]

/-- The name by which documents call the class. -/
def name : Duration → String
  | .seconds => "seconds"
  | .minutes => "minutes"
  | .hours => "hours"
  | .hoursToDays => "hours_to_days"
  | .infeasible => "infeasible"

/-- The class with this name. -/
def ofName? (name : String) : Option Duration := all.find? (·.name == name)

/-- The class in words. -/
def phrase : Duration → String
  | .hoursToDays => "hours to days"
  | d => d.name

end Duration

end SchemaConversion
