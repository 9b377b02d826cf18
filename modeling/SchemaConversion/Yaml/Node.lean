/-!
# YAML trees

What a YAML text says before it is known what is expected where: scalars with their style and tag,
lists and records with theirs, and aliases, which stand for a node elsewhere in the text. Keys of
records are nodes like any other.
-/

namespace SchemaConversion.Yaml

/-- How a scalar is written. -/
inductive ScalarStyle where
  | plain | single | double | literal | folded
  deriving DecidableEq

/-- A scalar. -/
structure Scalar where
  value : String
  style : ScalarStyle := .plain
  tag : Option String := none

/-- A part of a YAML text. -/
inductive Node where
  | scalar (s : Scalar)
  | list (tag : Option String) (items : List Node)
  | record (tag : Option String) (entries : List (Node × Node))
  /-- The node that has this number among those that aliases stand for. -/
  | alias (number : Nat)
  deriving Inhabited

/-- What is left empty. -/
def Node.empty : Node := .scalar { value := "" }

mutual
/-- The number of marks that a node takes: one for a scalar or an alias, two for what has parts. -/
def Node.size : Node → Nat
  | .scalar _ | .alias _ => 1
  | .list _ items => 2 + sizeOfItems items
  | .record _ entries => 2 + sizeOfEntries entries

/-- The number of marks that items take. -/
def sizeOfItems : List Node → Nat
  | [] => 0
  | n :: rest => n.size + sizeOfItems rest

/-- The number of marks that entries take. -/
def sizeOfEntries : List (Node × Node) → Nat
  | [] => 0
  | (key, value) :: rest => key.size + value.size + sizeOfEntries rest
end

/-- The tree of a text. -/
structure Tree where
  root : Node
  /-- The nodes that aliases stand for, by their numbers. -/
  targets : List (Nat × Node) := []
  /-- The number of marks in the text, counted once. -/
  marks : Nat := root.size

/-- What an alias stands for, or the node itself. -/
def Tree.resolve? (t : Tree) : Node → Option Node
  | .alias number => t.targets.lookup number
  | n => some n

end SchemaConversion.Yaml
