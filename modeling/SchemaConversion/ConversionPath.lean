import SchemaConversion.ConversionMatrix

/-!
# Conversion paths

A path leads from one database to another, directly or through one intermediate database. The
direct step is taken wherever it is feasible. Otherwise the two-step path of least total complexity
is the best, where a path is one level harder than the harder of its steps and of equally hard
paths the one through the first intermediate counts.
-/

namespace SchemaConversion

/-- One step of a path. -/
structure PathStep where
  source : String
  target : String
  complexity : Complexity
  deriving DecidableEq

/-- The step that a matrix describes. -/
def ConversionMatrix.step (m : ConversionMatrix) : PathStep :=
  ⟨m.source.id, m.target.id, m.complexity⟩

/-- A path between two databases. -/
inductive ConversionPath where
  | direct (step : PathStep)
  | through (first second : PathStep)
  deriving DecidableEq

namespace ConversionPath

/-- The steps in order. -/
def steps : ConversionPath → List PathStep
  | .direct step => [step]
  | .through first second => [first, second]

/-- The database at which the path starts. -/
def source : ConversionPath → String
  | .direct step | .through step _ => step.source

/-- The database to which the path leads. -/
def target : ConversionPath → String
  | .direct step | .through _ step => step.target

/-- The database between the two steps. -/
def intermediate? : ConversionPath → Option String
  | .direct _ => none
  | .through first _ => some first.target

/-- How hard the whole path is. -/
def complexity : ConversionPath → Complexity
  | .direct step => step.complexity
  | .through first second => (max first.complexity second.complexity).worse

/-- The path can be recommended. -/
def recommended (p : ConversionPath) : Bool := p.complexity < .impossible

/-- The path has an intermediate database. -/
def isMultiStep (p : ConversionPath) : Bool := p.intermediate?.isSome

/-- The path through an intermediate database, if both steps are feasible. -/
def through? (r : Registry) (estimator : Estimator) (source target intermediate : String) :
    Option ConversionPath := do
  let first ← (ConversionMatrix.generate r estimator source intermediate).toOption
  let second ← (ConversionMatrix.generate r estimator intermediate target).toOption
  if first.isFeasible && second.isFeasible then some (.through first.step second.step) else none

/-- The easiest path of a list, the first of several. -/
def easiest? : List ConversionPath → Option ConversionPath
  | [] => none
  | path :: rest =>
    match easiest? rest with
    | some best => some (if best.complexity < path.complexity then best else path)
    | none => some path

/-- The best path between two databases. -/
def find (r : Registry) (estimator : Estimator) (source target : String) :
    Except ConversionError ConversionPath := do
  let matrix ← ConversionMatrix.generate r estimator source target
  if matrix.isFeasible then return .direct matrix.step
  else
    let others := r.databaseIds.filter fun id => id ≠ matrix.source.id && id ≠ matrix.target.id
    match easiest? (others.filterMap (through? r estimator matrix.source.id matrix.target.id)) with
    | some path => return path
    | none => throw (.noPathFound matrix.source.id matrix.target.id)

end ConversionPath

end SchemaConversion
