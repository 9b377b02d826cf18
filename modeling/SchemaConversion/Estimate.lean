import SchemaConversion.Config

/-!
# Estimates

An estimator gives the success rate and the duration of a conversion from its complexity, the
compatibility of the paradigms and the number of objects. The heuristic one multiplies configured
constants and keeps the product between 0 and 1.
-/

namespace SchemaConversion

/-- A way of estimating conversions. -/
structure Estimator where
  name : String
  successRate : Complexity → Compatibility → Float
  /-- The duration for a number of objects. -/
  duration : Complexity → Nat → Duration

/-- The nearest value between 0 and 1. -/
def clampToUnit (x : Float) : Float := if x < 0.0 then 0.0 else if x > 1.0 then 1.0 else x

/-- The estimator that works with the configured constants. -/
def EstimatorSettings.estimator (s : EstimatorSettings) : Estimator where
  name := "heuristic"
  successRate complexity compatibility :=
    clampToUnit (s.successRates.rate complexity * s.compatibilityFactors.factor compatibility)
  duration complexity objects :=
    match complexity with
    | .trivial => .seconds
    | .simple => .minutes
    | .moderate =>
      if objects ≤ s.moderateMinutesMaxObjects then .minutes
      else if objects ≤ s.moderateHoursMaxObjects then .hours
      else .hoursToDays
    | .complex => .hoursToDays
    | .impossible => .infeasible

end SchemaConversion
