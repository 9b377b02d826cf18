import SchemaConversion.ObjectType

/-!
# Feature profiles

Which object types a database supports, fully, with caveats or not at all, and what could stand in
for them; and which other databases it exchanges data with best.
-/

namespace SchemaConversion

/-- How well a database supports an object type. -/
inductive SupportState where
  | full
  /-- Native support with caveats. -/
  | limited (alternatives : List ObjectType) (note : String)
  /-- No native support; the alternatives may stand in. -/
  | unsupported (alternatives : List ObjectType) (note : String)
  deriving DecidableEq

namespace SupportState

/-- The name by which documents call the state. -/
def name : SupportState → String
  | .full => "full"
  | .limited .. => "partial"
  | .unsupported .. => "unsupported"

/-- Native support, with or without caveats. -/
def isSupported : SupportState → Bool
  | .unsupported .. => false
  | _ => true

/-- What could stand in. -/
def alternatives : SupportState → List ObjectType
  | .full => []
  | .limited alternatives _ | .unsupported alternatives _ => alternatives

/-- The remark on the state. -/
def note? : SupportState → Option String
  | .full => none
  | .limited _ note | .unsupported _ note => some note

end SupportState

/-- What a database declares about exchanges with others. -/
structure ExchangePreferences where
  /-- The databases that convert into this one best. -/
  preferredSources : List String := []
  /-- The databases that this one converts into best. -/
  preferredTargets : List String := []
  /-- What a conversion into this database has to see to. -/
  specialRequirements : List String := []
  /-- What is known not to work in this database. -/
  limitations : List String := []
  deriving DecidableEq

/-- The support of one database for the object types. -/
structure FeatureProfile where
  database : String
  /-- The state of an object type; none if it is not defined for the database. -/
  support : ObjectType → Option SupportState := fun _ => none
  preferences : ExchangePreferences := {}

namespace FeatureProfile

/-- The object type is supported, with or without caveats. -/
def supports (p : FeatureProfile) (t : ObjectType) : Bool :=
  ((p.support t).map SupportState.isSupported).getD false

/-- The supported object types, in declaration order. -/
def supportedTypes (p : FeatureProfile) : List ObjectType := ObjectType.all.filter p.supports

/-- The object types with a state, in declaration order. -/
def entries (p : FeatureProfile) : List (ObjectType × SupportState) :=
  ObjectType.all.filterMap fun t => (p.support t).map fun state => (t, state)

/-- Sets the state of an object type. -/
def set (p : FeatureProfile) (t : ObjectType) (state : Option SupportState) : FeatureProfile :=
  { p with support := fun u => if u = t then state else p.support u }

/-- Marks object types as fully supported. -/
def full (p : FeatureProfile) (ts : List ObjectType) : FeatureProfile :=
  ts.foldl (fun p t => p.set t (some .full)) p

/-- Sets the states of object types, one after the other. -/
def withStates (p : FeatureProfile) (states : List (ObjectType × SupportState)) : FeatureProfile :=
  states.foldl (fun p entry => p.set entry.1 (some entry.2)) p

/-- Removes an object type from the profile. -/
def undefined (p : FeatureProfile) (t : ObjectType) : FeatureProfile := p.set t none

/-- The same support for another database. -/
def forDatabase (p : FeatureProfile) (database : String) : FeatureProfile := { p with database }

/-- Sets the preferences. -/
def withPreferences (p : FeatureProfile) (preferences : ExchangePreferences) : FeatureProfile :=
  { p with preferences }

end FeatureProfile

end SchemaConversion
