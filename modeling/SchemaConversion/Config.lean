import SchemaConversion.ExecutionMode
import SchemaConversion.Complexity
import SchemaConversion.Paradigm
import SchemaConversion.Decimal.Notation

/-!
# Configuration

The constants behind estimates and the behaviour of the conversion. A configuration is checked in a
fixed order and the first violation is reported: success rates lie between 0 and 1 and do not rise
with complexity, factors lie between 0 and 1, the two bounds on object counts are in order, and
custom types may nest at least one level.
-/

namespace SchemaConversion

/-- The base success rate of each level of complexity. -/
structure SuccessRates where
  trivial : Float := 0.99
  simple : Float := 0.95
  moderate : Float := 0.85
  complex : Float := 0.70
  impossible : Float := 0.10

/-- The factor on the success rate for each degree of compatibility. -/
structure CompatibilityFactors where
  identical : Float := 1.0
  compatible : Float := 0.95
  overlapping : Float := 0.80
  incompatible : Float := 0.60

/-- What estimates are computed from. -/
structure EstimatorSettings where
  successRates : SuccessRates := {}
  compatibilityFactors : CompatibilityFactors := {}
  /-- Moderate conversions of at most this many objects take minutes. -/
  moderateMinutesMaxObjects : Nat := 10
  /-- Moderate conversions of at most this many objects take hours, larger ones longer. -/
  moderateHoursMaxObjects : Nat := 100

/-- How conversions behave. -/
structure EngineSettings where
  /-- The mode of requests that name none. -/
  defaultMode : ExecutionMode := .automatic
  /-- How many levels custom types may nest. -/
  maxCustomTypeDepth : Nat := 8
  /-- Requests that are classified as impossible fail. -/
  failOnImpossible : Bool := true

/-- A configuration. -/
structure Config where
  estimator : EstimatorSettings := {}
  engine : EngineSettings := {}

/-- The base rate of a level. -/
def SuccessRates.rate (r : SuccessRates) : Complexity → Float
  | .trivial => r.trivial
  | .simple => r.simple
  | .moderate => r.moderate
  | .complex => r.complex
  | .impossible => r.impossible

/-- The factor of a degree. -/
def CompatibilityFactors.factor (f : CompatibilityFactors) : Compatibility → Float
  | .identical => f.identical
  | .compatible => f.compatible
  | .overlapping => f.overlapping
  | .incompatible => f.incompatible

namespace Config

/-- What a configuration violates. -/
inductive Fault where
  | outsideUnit (setting : String) (value : Float)
  /-- The rate of a level is above that of the easier level before it. -/
  | risingRate (harder easier : String × Float)
  | boundsNotOrdered (minutes hours : Nat)
  | noDepth

/-- The sentence about a violation. -/
def Fault.message : Fault → String
  | .outsideUnit setting value =>
    setting ++ " must be between 0 and 1, got " ++ Decimal.messageNumber.render value
  | .risingRate (harder, high) (easier, low) =>
    "estimator.success_rates." ++ harder ++ " (" ++ Decimal.messageNumber.render high
      ++ ") must not exceed estimator.success_rates." ++ easier ++ " ("
      ++ Decimal.messageNumber.render low ++ ")"
  | .boundsNotOrdered minutes hours =>
    "estimator.moderate_minutes_max_objects (" ++ toString minutes
      ++ ") must be less than estimator.moderate_hours_max_objects (" ++ toString hours ++ ")"
  | .noDepth => "engine.max_custom_type_depth must be at least 1"

/-- A value outside the unit interval. -/
def unitFault? (group : String) (entry : String × Float) : Option Fault :=
  if 0.0 ≤ entry.2 && entry.2 ≤ 1.0 then none
  else some (.outsideUnit (group ++ "." ++ entry.1) entry.2)

/-- The first value that is above the one before it. -/
def risingFault? : List (String × Float) → Option Fault
  | easier :: harder :: rest =>
    if harder.2 > easier.2 then some (.risingRate harder easier) else risingFault? (harder :: rest)
  | _ => none

/-- The first violation, if there is one. -/
def fault? (config : Config) : Option Fault :=
  let rates := Complexity.all.map fun c => (c.name, config.estimator.successRates.rate c)
  let factors := Compatibility.all.map fun c =>
    (c.name, config.estimator.compatibilityFactors.factor c)
  let minutes := config.estimator.moderateMinutesMaxObjects
  let hours := config.estimator.moderateHoursMaxObjects
  (rates.findSome? (unitFault? "estimator.success_rates")).or <|
  (risingFault? rates).or <|
  (factors.findSome? (unitFault? "estimator.compatibility_factors")).or <|
  if hours ≤ minutes then some (.boundsNotOrdered minutes hours)
  else if config.engine.maxCustomTypeDepth = 0 then some .noDepth
  else none

/-- Accepts a configuration without a violation. -/
def validate (config : Config) : Except ConversionError Unit :=
  match config.fault? with
  | none => .ok ()
  | some fault => .error (.config fault.message)

end Config

end SchemaConversion
