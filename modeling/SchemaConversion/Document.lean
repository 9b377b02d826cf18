/-!
# Document trees

A `Document` is the tree that JSON texts are read into and that printers of JSON and YAML write.
Records keep their entries in the order of the text, repeated keys included, so that a decoder can
refuse a repeated key.
-/

namespace SchemaConversion

/-- A tree of values as a document holds it. -/
inductive Document where
  | null
  | bool (value : Bool)
  | natural (value : Nat)
  /-- The integer below zero with this magnitude. -/
  | negative (magnitude : Nat)
  | number (value : Float)
  | text (value : String)
  | list (items : List Document)
  | record (entries : List (String × Document))
  /-- A part that is well formed but stands for no value. It may only be passed over. -/
  | unreadable
  deriving Inhabited

/-- The largest value of an unsigned field of 64 bits. -/
def maxUnsigned64 : Nat := (1 <<< 64) - 1

/-- The largest value of an unsigned field of 32 bits. -/
def maxUnsigned32 : Nat := (1 <<< 32) - 1

end SchemaConversion
