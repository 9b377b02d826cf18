import SchemaConversion.Document

/-!
# Decoding documents

Decoders ask a place in a document what it can be read as. `Readable` lists the questions, so that
one decoder serves every kind of document; `Document` answers them for JSON, whose values say
themselves what they are. Decoding is in `Option`: the kind of failure never matters, only that
there is one.

A record of known members may repeat no known key and may hold others, which are ignored.
-/

namespace SchemaConversion

/-- A name, or a place in an order of names. -/
inductive Label where
  | name (text : String)
  | index (place : Nat)
  deriving DecidableEq

/-- Places in documents that decoders can read. -/
class Readable (δ : Type) where
  /-- The text in a place for texts. -/
  text? : δ → Option String
  bool? : δ → Option Bool
  natural? : δ → Option Nat
  number? : δ → Option Float
  /-- Whether a place for an optional value is left empty. -/
  isNull? : δ → Option Bool
  /-- The name in a place for one of several names. -/
  choice? : δ → Option String
  label? : δ → Option Label
  items? : δ → Option (List δ)
  /-- The entries of a record with arbitrary keys. -/
  entries? : δ → Option (List (String × δ))
  /-- The entries of a record that knows these names. -/
  fields? : List String → δ → Option (List (String × δ))
  /-- The place when all that is in it is read as it stands, without regard to what is expected
  there. -/
  settled? : δ → Option δ

namespace Document

variable {δ : Type} [Readable δ]

/-- The text of a scalar in a place for texts. -/
def text? (d : δ) : Option String := Readable.text? d

/-- The truth value of a scalar in a place for truth values. -/
def bool? (d : δ) : Option Bool := Readable.bool? d

/-- The natural number of a scalar, if it does not exceed the limit. -/
def naturalUpTo? (limit : Nat) (d : δ) : Option Nat := (Readable.natural? d).filter (· ≤ limit)

/-- The number of 32 bits in a place for such numbers. -/
def unsigned32? (d : δ) : Option UInt32 := (naturalUpTo? maxUnsigned32 d).map .ofNat

/-- The number of 64 bits in a place for such numbers. -/
def unsigned64? (d : δ) : Option UInt64 := (naturalUpTo? maxUnsigned64 d).map .ofNat

/-- The number of a scalar in a place for decimal numbers. -/
def number? (d : δ) : Option Float := Readable.number? d

/-- An optional value: nothing, or what the decoder makes of it. -/
def optional? {α : Type} (decode : δ → Option α) (d : δ) : Option (Option α) := do
  if ← Readable.isNull? d then some none else (decode d).map some

/-- One of several names. -/
def choice? {α : Type} (ofName? : String → Option α) (d : δ) : Option α :=
  (Readable.choice? d).bind ofName?

/-- The items of a list, each decoded. -/
def listOf? {α : Type} (decode : δ → Option α) (d : δ) : Option (List α) := do
  (← Readable.items? d).mapM decode

/-- The members of a record, found by name. -/
abbrev Members (δ : Type) := String → Option δ

/-- The members among entries, where a known name may stand once. -/
def known? (names : List String) (entries : List (String × δ)) : Option (Members δ) :=
  if names.all fun name => (entries.filter (·.1 == name)).length ≤ 1 then
    some fun name => entries.lookup name
  else none

/-- The members of a record that knows these names. -/
def members? (names : List String) (d : δ) : Option (Members δ) := do
  known? names (← Readable.fields? names d)

/-- A member that must be there. -/
def Members.required? {α : Type} (m : Members δ) (decode : δ → Option α) (name : String) :
    Option α := (m name).bind decode

/-- A member with a value for its absence. -/
def Members.withDefault? {α : Type} (m : Members δ) (decode : δ → Option α) (absent : α)
    (name : String) : Option α :=
  match m name with
  | none => some absent
  | some d => decode d

/-! ## JSON documents -/

mutual
/-- Every part stands for a value. -/
def isReadable : Document → Bool
  | .list items => areReadable items
  | .record entries => haveReadable entries
  | .unreadable => false
  | _ => true

/-- Every item stands for a value. -/
def areReadable : List Document → Bool
  | [] => true
  | d :: rest => d.isReadable && areReadable rest

/-- Every entry has a value. -/
def haveReadable : List (String × Document) → Bool
  | [] => true
  | (_, d) :: rest => d.isReadable && haveReadable rest
end

/-- The natural number that a value is. A negative zero counts as zero. -/
def asNatural? : Document → Option Nat
  | .natural n => some n
  | .negative 0 => some 0
  | _ => none

/-- The number that a value is. -/
def asNumber? : Document → Option Float
  | .number x => some x
  | .natural n => some (Float.ofNat n)
  | .negative n => some (-(Float.ofNat n))
  | _ => none

/-- The name in a value, which may also be the key of a record that holds nothing else. -/
def asChoice? : Document → Option String
  | .text name | .record [(name, .null)] => some name
  | _ => none

/-- The label that a value is. -/
def asLabel? : Document → Option Label
  | .text name => some (.name name)
  | .natural place => some (.index place)
  | _ => none

/-- The members of a record may also be listed in their order, cut short where the rest is
optional. -/
def asFields? (names : List String) : Document → Option (List (String × Document))
  | .record entries => some entries
  | .list items => if items.length ≤ names.length then some (names.zip items) else none
  | _ => none

instance : Readable Document where
  text? | .text s => some s | _ => none
  bool? | .bool b => some b | _ => none
  natural? := asNatural?
  number? := asNumber?
  isNull? | .null => some true | _ => some false
  choice? := asChoice?
  label? := asLabel?
  items? | .list items => some items | _ => none
  entries? | .record entries => some entries | _ => none
  fields? := asFields?
  settled? d := if d.isReadable then some d else none

end Document

end SchemaConversion
