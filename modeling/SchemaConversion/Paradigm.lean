import SchemaConversion.Text.Spelling
import SchemaConversion.Error

/-!
# Data-model paradigms

Databases belong to one or more of ten families of data models. Two sets of paradigms are compared
by how far they overlap, and the structural strategy for moving data from one paradigm to another
is a table over the pairs.
-/

namespace SchemaConversion

/-- A family of data models. -/
inductive Paradigm where
  | relational | document | graph | keyValue | columnar | wideColumn | searchIndex | vector
  | timeSeries | objectStore
  deriving DecidableEq, Inhabited

namespace Paradigm

/-- Every paradigm, in declaration order. -/
def all : List Paradigm :=
  [.relational, .document, .graph, .keyValue, .columnar, .wideColumn, .searchIndex, .vector,
    .timeSeries, .objectStore]

/-- The name by which documents and messages call the paradigm. -/
def name : Paradigm → String
  | .relational => "relational"
  | .document => "document"
  | .graph => "graph"
  | .keyValue => "key_value"
  | .columnar => "columnar"
  | .wideColumn => "wide_column"
  | .searchIndex => "search_index"
  | .vector => "vector"
  | .timeSeries => "time_series"
  | .objectStore => "object_store"

/-- The paradigm with this name. -/
def ofName? (name : String) : Option Paradigm := all.find? (·.name == name)

/-- Reads a freely written name. -/
def parse (text : String) : Except ConversionError Paradigm :=
  match ofName? (Text.spelling text) with
  | some p => .ok p
  | none => .error (.config ("Unknown paradigm: '" ++ text ++ "'"))

end Paradigm

/-- A set of paradigms. -/
structure ParadigmSet where
  has : Paradigm → Bool

namespace ParadigmSet

/-- The set of the paradigms in a list. -/
def ofList (ps : List Paradigm) : ParadigmSet := ⟨fun p => ps.contains p⟩

/-- The members in declaration order. -/
def toList (s : ParadigmSet) : List Paradigm := Paradigm.all.filter s.has

/-- The number of members. -/
def size (s : ParadigmSet) : Nat := s.toList.length

/-- The common members. -/
def inter (s t : ParadigmSet) : ParadigmSet := ⟨fun p => s.has p && t.has p⟩

/-- Both sets have the same members. -/
def same (s t : ParadigmSet) : Bool := Paradigm.all.all fun p => s.has p == t.has p

/-- The members between square brackets. -/
def text (s : ParadigmSet) : String :=
  "[" ++ ", ".intercalate (s.toList.map Paradigm.name) ++ "]"

end ParadigmSet

/-- How far two sets of paradigms overlap. -/
inductive Compatibility where
  /-- The sets are equal. -/
  | identical
  /-- One set contains the other. -/
  | compatible
  /-- The sets overlap and neither contains the other. -/
  | overlapping
  /-- The sets have nothing in common. -/
  | incompatible
  deriving DecidableEq, Inhabited

namespace Compatibility

/-- Every degree, from the closest on. -/
def all : List Compatibility := [.identical, .compatible, .overlapping, .incompatible]

/-- The name by which documents and messages call the degree. -/
def name : Compatibility → String
  | .identical => "identical"
  | .compatible => "compatible"
  | .overlapping => "partial"
  | .incompatible => "incompatible"

/-- The degree with this name. -/
def ofName? (name : String) : Option Compatibility := all.find? (·.name == name)

/-- Neither set contains the other. -/
def isAtMostPartial : Compatibility → Bool
  | .overlapping | .incompatible => true
  | _ => false

/-- The degree to which two sets overlap. -/
def between (source target : ParadigmSet) : Compatibility :=
  let overlap := (source.inter target).size
  if source.same target then .identical
  else if overlap = 0 then .incompatible
  else if overlap = source.size || overlap = target.size then .compatible
  else .overlapping

end Compatibility

end SchemaConversion
