import SchemaConversion.TypeProfile
import SchemaConversion.Error

/-!
# Converting primitive types

A native spelling goes from the source to its canonical type, and from there to a native type of
the target, with the declared parameters attached again where the target takes any. Where the
target has no native type, the closest of the canonical type's widenings that it has is used; where
it has only the signed form of an unsigned integer, the modifier is written out. Arrays are
converted through their elements. Replacements that a user prescribes come before everything else.

A conversion records what may be lost. It fails only if the spelling is not known to the source or
if the target has no native type for any widening.
-/

namespace SchemaConversion

/-- How a type was carried over. -/
inductive ConversionKind where
  /-- The canonical type is the same on both sides. -/
  | direct
  /-- The canonical type is another one, after widening or by prescription. -/
  | transform
  deriving DecidableEq

namespace ConversionKind

/-- Every kind. -/
def all : List ConversionKind := [.direct, .transform]

/-- The name by which documents call the kind. -/
def name : ConversionKind → String
  | .direct => "direct"
  | .transform => "transform"

/-- The kind with this name. -/
def ofName? (name : String) : Option ConversionKind := all.find? (·.name == name)

end ConversionKind

/-- The conversion of one spelling. -/
structure TypeConversion where
  /-- The spelling as it was given. -/
  given : String
  /-- The spelling in the target, with parameters. -/
  converted : String
  canonical : CanonicalType
  /-- The canonical type of the target's native type. -/
  targetCanonical : CanonicalType
  kind : ConversionKind
  /-- Values may lose range, precision or structure. -/
  lossy : Bool := false
  warnings : List String := []
  /-- The decision in one line. -/
  note : String
  deriving DecidableEq

/-- The conversion of types between two databases. -/
structure TypeConverter where
  source : TypeProfile
  target : TypeProfile
  /-- Prescribed replacements under normal forms of source spellings. -/
  overrides : Dictionary String := .empty

namespace TypeConverter

/-- A source type with the parameters that its spelling declares. -/
structure Declared where
  info : TypeInfo
  parameters : Option String

/-- The source type of a normal form. The parameters are taken off only if the whole is no type. -/
def declared? (c : TypeConverter) (normal : String) : Option Declared :=
  match c.source.typeInfo? normal with
  | some info => some ⟨info, none⟩
  | none => do
    let parts ← TypeName.splitParameters normal
    let info ← c.source.typeInfo? parts.base
    some ⟨info, if parts.parameters.isEmpty then none else some parts.parameters⟩

/-- The spelling is not known to the source. -/
def unknown (c : TypeConverter) (spelling : String) : ConversionError :=
  .unknownType c.source.database spelling

/-- The replacement that is prescribed for a normal form or for its base. -/
def replacement? (c : TypeConverter) (normal : String) : Option String :=
  (c.overrides.find? normal).or
    ((TypeName.splitParameters normal).bind fun parts => c.overrides.find? parts.base)

/-- The canonical type of a spelling of the target, with or without parameters. -/
def targetCanonical (c : TypeConverter) (spelling : String) : CanonicalType :=
  let info? := (c.target.typeInfo? spelling).or <|
    (TypeName.splitParameters (TypeName.normalize spelling)).bind fun parts =>
      c.target.typeInfo? parts.base
  (info?.map TypeInfo.canonical).getD .unknown

/-- The conversion to a prescribed replacement, which is taken as it is written. -/
def override (c : TypeConverter) (given normal replacement : String) : TypeConversion where
  given
  converted := replacement
  canonical := ((c.declared? normal).map (·.info.canonical)).getD .unknown
  targetCanonical := c.targetCanonical replacement
  kind := .transform
  note := normal ++ " -> " ++ replacement ++ " (user override)"

/-- The native type of the target for a canonical type, or for the closest of its widenings that
has one, and whether the widening may lose something. -/
def targetFor? (c : TypeConverter) (canonical : CanonicalType) : Option (TypeInfo × Bool) :=
  canonical.widenings.findSome? fun step =>
    (c.target.nativeFor? step.canonical).map fun info => (info, step.lossy)

/-- The native type of the target for a canonical type. -/
def targetFor (c : TypeConverter) (canonical : CanonicalType) :
    Except ConversionError (TypeInfo × Bool) :=
  match c.targetFor? canonical with
  | some found => .ok found
  | none => .error (.noEquivalent c.target.database canonical.name)

/-- The canonical type is the unsigned form of this signed one. -/
def signedForm? (canonical : CanonicalType) : Option CanonicalType :=
  CanonicalType.all.find? (·.unsignedVariant? == some canonical)

/-- The signed type of the target that stands for an unsigned integer when it is modified, if the
target has no unsigned type of its own. -/
def modifiable? (c : TypeConverter) (canonical : CanonicalType) : Option TypeInfo :=
  if (c.target.nativeFor? canonical).isSome then none
  else do
    let signed ← signedForm? canonical
    let info ← c.target.nativeFor? signed
    if info.supportsUnsigned then some info else none

/-- A name with parameters. -/
def parameterized (name parameters : String) : String := name ++ "(" ++ parameters ++ ")"

/-- The conversion to a signed type with a modifier. -/
def modified (d : Declared) (given normal : String) (info : TypeInfo) : TypeConversion :=
  let converted := (match d.parameters with
    | some parameters => parameterized info.name parameters
    | none => info.name) ++ " unsigned"
  { given, converted, canonical := d.info.canonical, targetCanonical := d.info.canonical
    kind := .direct
    note := normal ++ " -> " ++ converted ++ " (" ++ d.info.canonical.name ++ ")" }

/-- The largest length up to a maximum, if there is one. -/
def cappedBy (maximum : Option Nat) (length : Nat) : Nat := (maximum.map (min length)).getD length

/-- The spelling of a target type for a source type without declared parameters. -/
def withDefaults (info : TypeInfo) (canonical : CanonicalType) : String :=
  if info.acceptsLength then
    match canonical.naturalLength?.or info.defaultLength with
    | some length => parameterized info.name (toString (cappedBy info.maxLength length))
    | none => info.name
  else if info.acceptsPrecision then
    match info.defaultPrecision with
    | some (precision, scale) =>
      parameterized info.name (toString precision ++ "," ++ toString scale)
    | none => info.name
  else info.name

/-- The spelling of a target type. -/
def spelling (d : Declared) (info : TypeInfo) : String :=
  match d.parameters with
  | some parameters =>
    if info.acceptsParameters then parameterized info.name parameters else info.name
  | none => withDefaults info d.info.canonical

/-- What the target's bound cuts off: a declared size above it or, where none is declared, a larger
bound in the source. -/
def boundWarning? (c : TypeConverter) (d : Declared) (info : TypeInfo) : Option String :=
  match d.parameters.bind TypeName.declaredBound?, info.bound?, d.info.bound? with
  | some size, some bound, _ =>
    if bound < size then
      some ("declared size " ++ toString size ++ " exceeds the " ++ c.target.database
        ++ " maximum of " ++ toString bound ++ " for " ++ info.name)
    else none
  | none, some bound, some sourceBound =>
    if bound < sourceBound then
      some (d.info.name ++ " allows up to " ++ toString sourceBound ++ " but " ++ c.target.database
        ++ " " ++ info.name ++ " allows " ++ toString bound)
    else none
  | _, _, _ => none

/-- The conversion to a native type that was reached by widening, with or without loss. -/
def carried (c : TypeConverter) (d : Declared) (given normal : String) (info : TypeInfo)
    (lossy : Bool) : TypeConversion :=
  let canonical := d.info.canonical
  let converted := spelling d info
  let bound := c.boundWarning? d info
  let direct := info.canonical == canonical
  let widened :=
    if !direct && lossy then
      [c.target.database ++ " has no " ++ canonical.name ++ " type; widened to "
        ++ info.canonical.name ++ " with possible loss"]
    else []
  let route :=
    if direct then canonical.name
    else canonical.name ++ " substituted by " ++ info.canonical.name
  { given, converted, canonical, targetCanonical := info.canonical
    kind := if direct then .direct else .transform
    lossy := lossy || bound.isSome
    warnings := bound.toList ++ widened
    note := normal ++ " -> " ++ converted ++ " (" ++ route ++ ")" }

/-- The array template of the target that spells an array by its element, if there is one. -/
def arrayTemplate? (c : TypeConverter) : Option NativeTemplate :=
  c.target.customTypes.arrays.filter fun template =>
    template.hasPlaceholder "element" && !template.isStatement

/-- The conversion of an array whose element is converted already. -/
def array (c : TypeConverter) (given element : String) (inner : TypeConversion) :
    Except ConversionError TypeConversion :=
  match c.arrayTemplate? with
  | some template =>
    let converted := template.render [("element", inner.converted)]
    .ok
      { given, converted, canonical := .array, targetCanonical := .array, kind := .direct
        lossy := inner.lossy, warnings := inner.warnings
        note := element ++ "[] -> " ++ converted ++ " (array)" }
  | none => do
    let (info, lossy) ← c.targetFor .array
    let stored :=
      if lossy then
        [c.target.database ++ " has no array type; elements of " ++ inner.converted
          ++ " stored as " ++ info.name]
      else []
    .ok
      { given, converted := info.name, canonical := .array, targetCanonical := info.canonical
        kind := if info.canonical == .array then .direct else .transform
        lossy := inner.lossy || lossy, warnings := inner.warnings ++ stored
        note := element ++ "[] -> " ++ info.name ++ " (array substituted by "
          ++ info.canonical.name ++ ")" }

/-- The conversion of a type that is no array. -/
def single (c : TypeConverter) (given normal : String) : Except ConversionError TypeConversion :=
  match c.declared? normal with
  | none => .error (c.unknown given)
  | some d =>
    match c.modifiable? d.info.canonical with
    | some info => .ok (modified d given normal info)
    | none => do
      let (info, lossy) ← c.targetFor d.info.canonical
      .ok (c.carried d given normal info lossy)

/-- The normal form of the element of an array. -/
def arrayElement? (normal : List Char) : Option (List Char) :=
  if ['[', ']'].isSuffixOf normal then some (Text.trimChars (normal.take (normal.length - 2)))
  else none

/-- An array's element is spelled more briefly than the array. -/
theorem length_lt_of_arrayElement? {normal element : List Char}
    (h : arrayElement? normal = some element) : element.length < normal.length := by
  unfold arrayElement? at h
  split at h
  · next hsuffix =>
    obtain rfl := Option.some.inj h
    have htwo : 2 ≤ normal.length := (List.isSuffixOf_iff_suffix.1 hsuffix).length_le
    have htrim := Text.length_trimChars_le (normal.take (normal.length - 2))
    rw [List.length_take] at htrim
    omega
  · contradiction

/-- Converts a normal form that was spelled in this way. What is left of an array's normal form
when its brackets are taken off is a normal form again. -/
def resolveNormal (c : TypeConverter) (given : String) (normal : List Char) :
    Except ConversionError TypeConversion :=
  let text := String.ofList normal
  if normal.isEmpty then .error (c.unknown given)
  else
    match c.replacement? text with
    | some replacement => .ok (c.override given text replacement)
    | none =>
      match h : arrayElement? normal with
      | some element =>
        have _shorter := length_lt_of_arrayElement? h
        (c.resolveNormal (String.ofList element) element).bind
          (c.array given (String.ofList element))
      | none => c.single given text
termination_by normal.length

/-- Converts a spelling of the source. -/
def resolve (c : TypeConverter) (spelling : String) : Except ConversionError TypeConversion :=
  c.resolveNormal spelling (TypeName.normalize spelling).toList

end TypeConverter

end SchemaConversion
