import SchemaConversion.Document.Decode
import SchemaConversion.Yaml.Plain

/-!
# Decoding YAML

A scalar in YAML stays open until its place decides whether it is read as a text, a number, a truth
value or nothing at all: `Place` answers what a node can be read as where it stands. In a settled
place the nodes are what they are by themselves, so that an unquoted number is no text there.

Empty places stand for empty records and lists, and aliases for the nodes that they name. Settling
follows every alias, so it counts how often, and gives up beyond a multiple of the tree's size.
-/

namespace SchemaConversion.Yaml

/-- How deep a settled place may lie. -/
def maxDepth : Nat := 128

/-- How often each mark of a text may be followed to what an alias stands for. -/
def followsPerMark : Nat := 100

/-- A node in a tree, with the number of lists and records around it. -/
structure Place where
  tree : Tree
  node : Node
  depth : Nat := 0
  isSettled : Bool := false

namespace Place

/-- The node, or the one that it stands for as an alias. -/
def resolved? (p : Place) : Option Node := p.tree.resolve? p.node

/-- The place of a part. -/
def part (p : Place) (n : Node) : Place := { p with node := n, depth := p.depth + 1 }

/-- The scalar that stands here. -/
def scalar? (p : Place) : Option Scalar := do
  match ← p.resolved? with
  | .scalar s => some s
  | _ => none

/-- What the scalar is by itself that stands here. -/
def reading? (p : Place) : Option Document := p.scalar?.bind Scalar.reading?

/-- A reading of a scalar: by what it is by itself in a settled place, by what may be expected
elsewhere. -/
def readAs? {α : Type} (p : Place) (settled : Document → Option α) (expected : Scalar → Option α) :
    Option α :=
  if p.isSettled then p.reading?.bind settled else p.scalar?.bind expected

/-- An unquoted scalar or a literal block of the kind, read as its value. -/
def ofKind? {α : Type} (kind : String) (read? : String → Option α) (s : Scalar) : Option α :=
  if s.mayBe kind then read? s.value else none

/-- Nothing is written here, which stands for what has no parts. -/
def isBlank (p : Place) : Bool := !p.isSettled && (p.scalar?.map Scalar.isBlank).getD false

/-- Whether an open scalar stands for nothing. A scalar that is tagged as nothing must be
nothing. -/
def leftOut? (s : Scalar) : Option Bool :=
  if !s.isPlain then some false
  else
    match s.tag with
    | none => some (s.value.isEmpty || readsNull s.value)
    | some tag =>
      if tag = standardTag "null" then if readsNull s.value then some true else none
      else some false

/-- Whether nothing stands here. -/
def isNull? (p : Place) : Option Bool := do
  match ← p.resolved? with
  | .scalar s =>
    if p.isSettled then (s.reading?.map fun | .null => true | _ => false) else leftOut? s
  | _ => some false

/-- The name of a choice, as a text or as a tag of one's own before nothing. -/
def choiceName? (s : Scalar) : Option String :=
  match ownName? s.tag with
  | some name =>
    if s.isPlain && (s.value.isEmpty || readsNull s.value) then some name else none
  | none => some s.value

/-- The items of a list. -/
def items? (p : Place) : Option (List Place) := do
  match ← p.resolved? with
  | .list _ items => some (items.map p.part)
  | _ => if p.isBlank then some [] else none

/-- The entries of a record, with the places of their keys. -/
def places? (p : Place) : Option (List (Place × Place)) := do
  match ← p.resolved? with
  | .record _ entries => some (entries.map fun (key, value) => (p.part key, p.part value))
  | _ => if p.isBlank then some [] else none

/-- The text of a scalar. -/
def text? (p : Place) : Option String := p.readAs? Readable.text? fun s => some s.value

/-- The label that stands here. -/
def label? (p : Place) : Option Label := p.readAs? Readable.label? fun s => some (.name s.value)

/-- The entries of a record with arbitrary keys. -/
def entries? (p : Place) : Option (List (String × Place)) := do
  (← p.places?).mapM fun (key, value) => key.text?.map fun name => (name, value)

/-- The entry of a record that knows these names, if it has one of them or another name. -/
def field? (names : List String) (label : Label) (value : Place) : Option (String × Place) :=
  match label with
  | .name name => some (name, value)
  | .index place => names[place]?.map fun name => (name, value)

/-- The entries of a record that knows these names. In a settled place they may be listed in their
order or be given by their places in it. -/
def fields? (names : List String) (p : Place) : Option (List (String × Place)) := do
  match p.isSettled, ← p.resolved? with
  | true, .list _ items =>
    if items.length ≤ names.length then some (names.zip (items.map p.part)) else none
  | _, _ =>
    let entries ← (← p.places?).mapM fun (key, value) => key.label?.map fun label => (label, value)
    some (entries.filterMap fun (label, value) => field? names label value)

/-- Follows an alias, if that may be done once more. -/
def follow (t : Tree) (n : Node) : StateT Nat Option Node := do
  match n with
  | .alias _ =>
    match ← get with
    | 0 => failure
    | left + 1 => set left
  | _ => pure ()
  t.resolve? n

/-- Everything in a node is something by itself, and nests no deeper than said. The state is how
often an alias may still be followed. -/
def settle (t : Tree) (depth : Nat) (n : Node) : StateT Nat Option Unit := do
  match depth, ← follow t n with
  | _, .scalar s =>
    match s.reading? with
    | none | some .unreadable => failure
    | some _ => pure ()
  | depth + 1, .list tag items =>
    if (ownName? tag).isSome then failure
    items.forM (settle t depth)
  | depth + 1, .record tag entries =>
    if (ownName? tag).isSome then failure
    entries.forM fun (key, value) => do
      settle t depth key
      settle t depth value
  | _, _ => failure

/-- The place settled, if all that is in it can be read by itself. -/
def settled? (p : Place) : Option Place :=
  let follows := followsPerMark * p.tree.marks
  ((settle p.tree (maxDepth - p.depth) p.node).run follows).map fun _ =>
    { p with isSettled := true }

instance : Readable Place where
  text? := text?
  bool? p := p.readAs? Readable.bool? (ofKind? "bool" readBool?)
  natural? p := p.readAs? Readable.natural? (ofKind? "int" readNatural?)
  number? p := p.readAs? Readable.number? (ofKind? "float" readNumber?)
  isNull?
  choice? p := p.readAs? Readable.choice? choiceName?
  label?
  items?
  entries?
  fields?
  settled?

end Place

end SchemaConversion.Yaml
