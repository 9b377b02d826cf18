import SchemaConversion.Text.Blank
import SchemaConversion.Text.LowerCase
import SchemaConversion.Error

/-!
# Canonical types

The hub between databases: every native type of every database maps to one `CanonicalType`, and a
conversion goes from a native type to its canonical type and from there to a native type of the
target. Where the target has no native type for it, the ordered substitutes of
`CanonicalType.fallbacks` say what to widen to and whether that can lose something.
-/

namespace SchemaConversion

/-- A kind of value, independent of any database. -/
inductive CanonicalType where
  | boolean | int8 | int16 | int32 | int64 | uint8 | uint16 | uint32 | uint64 | float32
  | float64 | decimal | numeric | money | string | text | char | varchar | clob | blob | date
  | time | timestamp | timestampTz | interval | binary | varbinary | uuid | json | document
  | object | array | list | set | map | point | lineString | polygon | geometry | geography
  | vector | embedding | graphNode | graphEdge | graphRelation | enum | range | xml | unknown
  deriving DecidableEq, Inhabited

namespace CanonicalType

/-- Every canonical type, in declaration order. -/
def all : List CanonicalType :=
  [.boolean, .int8, .int16, .int32, .int64, .uint8, .uint16, .uint32, .uint64, .float32,
    .float64, .decimal, .numeric, .money, .string, .text, .char, .varchar, .clob, .blob, .date,
    .time, .timestamp, .timestampTz, .interval, .binary, .varbinary, .uuid, .json, .document,
    .object, .array, .list, .set, .map, .point, .lineString, .polygon, .geometry, .geography,
    .vector, .embedding, .graphNode, .graphEdge, .graphRelation, .enum, .range, .xml, .unknown]

/-- The name by which documents and messages call the type. -/
def name : CanonicalType → String
  | .boolean => "boolean"
  | .int8 => "int8"
  | .int16 => "int16"
  | .int32 => "int32"
  | .int64 => "int64"
  | .uint8 => "uint8"
  | .uint16 => "uint16"
  | .uint32 => "uint32"
  | .uint64 => "uint64"
  | .float32 => "float32"
  | .float64 => "float64"
  | .decimal => "decimal"
  | .numeric => "numeric"
  | .money => "money"
  | .string => "string"
  | .text => "text"
  | .char => "char"
  | .varchar => "varchar"
  | .clob => "clob"
  | .blob => "blob"
  | .date => "date"
  | .time => "time"
  | .timestamp => "timestamp"
  | .timestampTz => "timestamp_tz"
  | .interval => "interval"
  | .binary => "binary"
  | .varbinary => "varbinary"
  | .uuid => "uuid"
  | .json => "json"
  | .document => "document"
  | .object => "object"
  | .array => "array"
  | .list => "list"
  | .set => "set"
  | .map => "map"
  | .point => "point"
  | .lineString => "linestring"
  | .polygon => "polygon"
  | .geometry => "geometry"
  | .geography => "geography"
  | .vector => "vector"
  | .embedding => "embedding"
  | .graphNode => "graph_node"
  | .graphEdge => "graph_edge"
  | .graphRelation => "graph_relation"
  | .enum => "enum"
  | .range => "range"
  | .xml => "xml"
  | .unknown => "unknown"

/-- The canonical type with this name. -/
def ofName? (name : String) : Option CanonicalType := all.find? (·.name == name)

/-- Reads a name in any case, between blanks. -/
def parse (text : String) : Except ConversionError CanonicalType :=
  match ofName? (Text.asciiLower (Text.trim text)) with
  | some c => .ok c
  | none => .error (.config ("Unknown canonical type: '" ++ text ++ "'"))

/-- A signed or unsigned integer. -/
def isInteger : CanonicalType → Bool
  | .int8 | .int16 | .int32 | .int64 | .uint8 | .uint16 | .uint32 | .uint64 => true
  | _ => false

/-- Character data of any size. -/
def isTextual : CanonicalType → Bool
  | .string | .text | .char | .varchar | .clob => true
  | _ => false

/-- JSON, documents and nested objects. -/
def isSemiStructured : CanonicalType → Bool
  | .json | .document | .object => true
  | _ => false

/-- A shape in space. -/
def isSpatial : CanonicalType → Bool
  | .point | .lineString | .polygon | .geometry | .geography => true
  | _ => false

/-- The unsigned integer of the same width as a signed one. -/
def unsignedVariant? : CanonicalType → Option CanonicalType
  | .int8 => some .uint8
  | .int16 => some .uint16
  | .int32 => some .uint32
  | .int64 => some .uint64
  | _ => none

/-- How many characters hold the textual form of any value of the type, where that is fixed. -/
def naturalLength? : CanonicalType → Option Nat
  | .uuid => some 36
  | .boolean => some 5
  | .date => some 10
  | .time => some 18
  | .timestamp => some 29
  | .timestampTz => some 35
  | _ => none

/-- A substitute for a canonical type. -/
structure Fallback where
  canonical : CanonicalType
  /-- Values may lose range, precision or structure. -/
  lossy : Bool
  deriving DecidableEq

/-- A substitute that keeps every value. -/
def Fallback.lossless (c : CanonicalType) : Fallback := ⟨c, false⟩

/-- A substitute that may lose something. -/
def Fallback.losing (c : CanonicalType) : Fallback := ⟨c, true⟩

/-- The substitutes to try in turn where a database has no native type, the closest first. -/
def fallbacks : CanonicalType → List Fallback
  | .boolean => [.lossless .int8, .lossless .int16, .lossless .int32]
  | .int8 => [.lossless .int16, .lossless .int32, .lossless .int64]
  | .int16 => [.lossless .int32, .lossless .int64]
  | .int32 => [.lossless .int64, .losing .float64]
  | .int64 => [.lossless .decimal, .losing .float64]
  | .uint8 => [.lossless .int16, .lossless .int32, .lossless .int64]
  | .uint16 => [.lossless .int32, .lossless .int64]
  | .uint32 => [.lossless .int64, .lossless .decimal]
  | .uint64 => [.lossless .decimal, .losing .int64]
  | .float32 => [.lossless .float64, .lossless .decimal]
  | .float64 => [.losing .decimal, .losing .float32]
  | .decimal => [.lossless .numeric, .losing .float64, .lossless .string]
  | .numeric => [.lossless .decimal, .losing .float64, .lossless .string]
  | .money => [.lossless .decimal, .lossless .numeric, .losing .float64]
  | .char => [.lossless .varchar, .lossless .string, .lossless .text]
  | .varchar => [.lossless .string, .lossless .text]
  | .string => [.lossless .text, .lossless .varchar]
  | .text => [.lossless .clob, .lossless .string, .losing .varchar]
  | .clob => [.lossless .text, .lossless .string]
  | .blob => [.lossless .varbinary, .lossless .binary, .losing .string]
  | .binary => [.lossless .varbinary, .lossless .blob, .losing .string]
  | .varbinary => [.lossless .blob, .lossless .binary, .losing .string]
  | .date => [.lossless .timestamp, .losing .string]
  | .time => [.losing .string]
  | .timestamp => [.lossless .timestampTz, .losing .int64, .losing .string]
  | .timestampTz => [.losing .timestamp, .losing .string]
  | .interval => [.losing .int64, .losing .string]
  | .uuid => [.losing .char, .losing .varchar, .losing .string]
  | .json => [.lossless .document, .lossless .object, .losing .text, .losing .string]
  | .document => [.lossless .json, .lossless .object, .losing .text, .losing .string]
  | .object => [.lossless .document, .lossless .json, .losing .map, .losing .string]
  | .array => [.lossless .list, .losing .json, .losing .string]
  | .list => [.lossless .array, .losing .json, .losing .string]
  | .set => [.losing .array, .losing .list, .losing .json]
  | .map => [.lossless .object, .lossless .json, .losing .string]
  | .point | .lineString | .polygon => [.lossless .geometry, .losing .json, .losing .string]
  | .geometry => [.lossless .geography, .losing .json, .losing .string]
  | .geography => [.lossless .geometry, .losing .json, .losing .string]
  | .vector => [.lossless .embedding, .losing .array, .losing .list, .losing .json]
  | .embedding => [.lossless .vector, .losing .array, .losing .list, .losing .json]
  | .graphNode | .graphEdge | .graphRelation => [.losing .document, .losing .json, .losing .object]
  | .enum => [.losing .varchar, .losing .string, .losing .text]
  | .range => [.losing .json, .losing .string]
  | .xml => [.losing .text, .losing .string]
  | .unknown => [.losing .text, .losing .string]

/-- The types found so far and, behind them, the substitutes of one of them that are not among
them yet. What is reached through a losing step is reached with loss. -/
def expand (found : List Fallback) (current : Fallback) : List Fallback :=
  current.canonical.fallbacks.foldl (fun found step =>
    if found.any (·.canonical == step.canonical) then found
    else found ++ [⟨step.canonical, current.lossy || step.lossy⟩]) found

/-- The type itself and everything it can be widened to, the closest first: the substitutes of the
type come before the substitutes of these, and so on. There are no more steps than types. -/
def widenings (c : CanonicalType) : List Fallback :=
  (List.range all.length).foldl (fun found i => match found[i]? with
    | some current => expand found current
    | none => found) [.lossless c]

end CanonicalType

end SchemaConversion
