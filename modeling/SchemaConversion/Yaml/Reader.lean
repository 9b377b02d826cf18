import SchemaConversion.Yaml.Place
import SchemaConversion.Yaml.Token

/-!
# Reading YAML

The tokens of a YAML text are read into a tree by the grammar of its nodes: properties before a
node, blocks, brackets, and keys and values that may be left empty. A list may stand under a key
without being indented; it ends where the next key of the record begins. A text holds one document
at most.

The readers take one token or more before they call each other again, so a multiple of the number
of tokens is `fuel` enough.
-/

namespace SchemaConversion.Yaml

/-- The anchors of a text. A name stands for a number, which is the number of names in use where
its node begins, and a number for the latest node that was given it. -/
structure Anchors where
  /-- The names in use with their numbers. -/
  names : List (String × Nat) := []
  /-- How many nodes have an anchor so far. -/
  count : Nat := 0
  /-- The numbers with the nodes that were given them, by their order, the latest first. -/
  given : List (Nat × Nat) := []
  /-- The nodes that are read to their end, by their order. -/
  finished : List (Nat × Node) := []

namespace Anchors

/-- A node with an anchor begins. -/
def start (a : Anchors) (name : String) : Anchors :=
  let number := a.names.length
  { a with
    names := (name, number) :: a.names.filter (·.1 ≠ name), count := a.count + 1
    given := (number, a.count) :: a.given }

/-- What the numbers stand for. -/
def targets (a : Anchors) : List (Nat × Node) :=
  a.given.filterMap fun (number, order) =>
    (a.finished.lookup order).map fun n => (number, n)

end Anchors

/-- The state of the reading. -/
structure Reading where
  /-- The tokens that are left. -/
  tokens : List Token
  anchors : Anchors := {}
  /-- What the handles of tags stand for. -/
  handles : List (List Char × List Char) := []

/-- A step of the reading. -/
abbrev Reader := StateT Reading Option

namespace Reader

/-- The next token. -/
def peek : Reader (Option Token) := do return (← get).tokens.head?

/-- Takes the next token, which must be there. -/
def take : Reader Unit := do
  match (← get).tokens with
  | [] => failure
  | _ :: rest => modify fun r => { r with tokens := rest }

/-- The next token satisfies a test. -/
def sees (p : Token → Bool) : Reader Bool := do return ((← peek).map p).getD false

/-- Takes the next token, which must satisfy a test. -/
def expect (p : Token → Bool) : Reader Unit := do if ← sees p then take else failure

/-- What the tag stands for. -/
def tagOf (t : TagMark) : Reader String := do
  if t.handle.isEmpty then return String.ofList t.suffix
  match (← get).handles.lookup t.handle with
  | some start => return String.ofList (start ++ t.suffix)
  | none => failure

/-- A tag, if one comes next. -/
def tag? : Reader (Option String) := do
  match ← peek with
  | some (.tag t) =>
    take
    return some (← tagOf t)
  | _ => return none

/-- The name of an anchor, if one comes next. -/
def anchor? : Reader (Option String) := do
  match ← peek with
  | some (.anchor name) =>
    take
    return some name
  | _ => return none

/-- The anchor and the tag before a node, in either order. -/
def properties : Reader (Option String × Option String) := do
  match ← anchor? with
  | some name => return (some name, ← tag?)
  | none =>
    match ← tag? with
    | some tag => return (← anchor?, some tag)
    | none => return (none, none)

/-- The number of an anchor that has begun. -/
def numberOf (name : String) : Reader Nat := do
  match (← get).anchors.names.lookup name with
  | some number => return number
  | none => failure

/-- Reads a node that may have an anchor. -/
def anchored (name? : Option String) (node : Reader Node) : Reader Node := do
  match name? with
  | none => node
  | some name =>
    let order := (← get).anchors.count
    modify fun r => { r with anchors := r.anchors.start name }
    let n ← node
    modify fun r =>
      { r with anchors := { r.anchors with finished := (order, n) :: r.anchors.finished } }
    return n

/-! ## What may follow an empty place -/

/-- The end of a place in a list of lines. -/
def endsItem : Token → Bool
  | .entry | .blockEnd => true
  | _ => false

/-- The end of a place in a record of lines. -/
def endsEntry : Token → Bool
  | .key | .value | .blockEnd => true
  | _ => false

/-- The end of a place in a list that stands under a key. -/
def endsOutdented (t : Token) : Bool := endsItem t || endsEntry t

/-- The end of a value in a bracketed list. -/
def endsListed : Token → Bool
  | .comma | .closeList => true
  | _ => false

/-- The end of a value in a bracketed record. -/
def endsRecorded : Token → Bool
  | .comma | .closeRecord => true
  | _ => false

/-- The mark before a key. -/
def isKey : Token → Bool
  | .key => true
  | _ => false

/-- The mark of a value. -/
def isValue : Token → Bool
  | .value => true
  | _ => false

/-- The dash of an item. -/
def isEntry : Token → Bool
  | .entry => true
  | _ => false

/-- The end of a list or record of lines. -/
def isBlockEnd : Token → Bool
  | .blockEnd => true
  | _ => false

/-- A comma between brackets. -/
def isComma : Token → Bool
  | .comma => true
  | _ => false

/-- The end of a bracketed list. -/
def isCloseList : Token → Bool
  | .closeList => true
  | _ => false

/-- The end of a bracketed record. -/
def isCloseRecord : Token → Bool
  | .closeRecord => true
  | _ => false

/-- Nothing, if the place ends here, else a node. -/
def orEmpty (ends : Token → Bool) (node : Reader Node) : Reader Node := do
  if ← sees ends then return .empty else node

/-- What stands behind the mark of a value, or nothing. -/
def valueOrEmpty (ends : Token → Bool) (node : Reader Node) : Reader Node := do
  if ← sees isValue then
    take
    orEmpty ends node
  else return .empty

mutual
/-- A node. In `block` it may be in block style; `outdented` allows a list of dashes in the column
of the key before it. -/
def node (fuel : Nat) (block outdented : Bool) : Reader Node := do
  match fuel with
  | 0 => failure
  | fuel + 1 =>
    match ← peek with
    | some (.alias name) =>
      take
      return .alias (← numberOf name)
    | _ =>
      let (name?, tag) ← properties
      anchored name? (content fuel block outdented name?.isSome tag)

/-- A node behind its properties. -/
def content (fuel : Nat) (block outdented hasAnchor : Bool) (tag : Option String) :
    Reader Node := do
  match fuel with
  | 0 => failure
  | fuel + 1 =>
    match ← peek, block, outdented with
    | some .entry, _, true => return .list tag (← outdentedItems fuel)
    | some (.scalar text style), _, _ =>
      take
      return .scalar { value := text, style, tag := tag.filter (· ≠ "!") }
    | some .openList, _, _ =>
      take
      return .list tag (← listItems fuel true)
    | some .openRecord, _, _ =>
      take
      return .record tag (← recordEntries fuel true)
    | some .blockList, true, _ =>
      take
      return .list tag (← blockItems fuel)
    | some .blockRecord, true, _ =>
      take
      return .record tag (← blockEntries fuel)
    | _, _, _ =>
      if hasAnchor || tag.isSome then return .scalar { value := "", tag } else failure

/-- The items of a list of dashes, to its end. -/
def blockItems (fuel : Nat) : Reader (List Node) := do
  match fuel with
  | 0 => failure
  | fuel + 1 =>
    if ← sees isBlockEnd then
      take
      return []
    expect isEntry
    let item ← orEmpty endsItem (node fuel true false)
    return item :: (← blockItems fuel)

/-- The items of a list of dashes in the column of a key, which has no end of its own. -/
def outdentedItems (fuel : Nat) : Reader (List Node) := do
  match fuel with
  | 0 => failure
  | fuel + 1 =>
    if ← sees isEntry then
      take
      let item ← orEmpty endsOutdented (node fuel true false)
      return item :: (← outdentedItems fuel)
    else return []

/-- The entries of a record of lines, to its end. -/
def blockEntries (fuel : Nat) : Reader (List (Node × Node)) := do
  match fuel with
  | 0 => failure
  | fuel + 1 =>
    if ← sees isBlockEnd then
      take
      return []
    expect isKey
    let key ← orEmpty endsEntry (node fuel true true)
    let value ← valueOrEmpty endsEntry (node fuel true true)
    return (key, value) :: (← blockEntries fuel)

/-- The items of a bracketed list, to its end. A single entry of a record may stand for the record.
A key that is left empty there takes the mark behind it along. -/
def listItems (fuel : Nat) (isFirst : Bool) : Reader (List Node) := do
  match fuel with
  | 0 => failure
  | fuel + 1 =>
    if ← sees isCloseList then
      take
      return []
    if !isFirst then expect isComma
    if ← sees isCloseList then
      take
      return []
    if ← sees isKey then
      take
      let isEmpty ← sees fun t => isValue t || endsListed t
      let key ← if isEmpty then do take; pure .empty else node fuel false false
      let value ← valueOrEmpty endsListed (node fuel false false)
      return .record none [(key, value)] :: (← listItems fuel false)
    let item ← node fuel false false
    return item :: (← listItems fuel false)

/-- The entries of a bracketed record, to its end. A key may stand there without a value. -/
def recordEntries (fuel : Nat) (isFirst : Bool) : Reader (List (Node × Node)) := do
  match fuel with
  | 0 => failure
  | fuel + 1 =>
    if ← sees isCloseRecord then
      take
      return []
    if !isFirst then expect isComma
    if ← sees isCloseRecord then
      take
      return []
    if ← sees isKey then
      take
      let key ← orEmpty (fun t => isValue t || endsRecorded t) (node fuel false false)
      let value ← valueOrEmpty endsRecorded (node fuel false false)
      return (key, value) :: (← recordEntries fuel false)
    let key ← node fuel false false
    return (key, .empty) :: (← recordEntries fuel false)
end

/-- The directives before a document; `hasVersion` says that the version has been given. Versions
1.1 and 1.2 are known. -/
def directives (hasVersion : Bool) : List Token → Option (List (List Char × List Char) × List Token)
  | .directive (.version major minor) :: rest =>
    if !hasVersion && major = 1 && (minor = 1 || minor = 2) then directives true rest else none
  | .directive (.handle name expansion) :: rest => do
    let (handles, rest) ← directives hasVersion rest
    if (handles.lookup name).isSome then none else some ((name, expansion) :: handles, rest)
  | rest => some ([], rest)

/-- The handles that need no directive. -/
def standardHandles : List (List Char × List Char) :=
  [("!".toList, "!".toList), ("!!".toList, (standardTag "").toList)]

/-- A token that no node starts with, behind the start of a document. -/
def endsDocument : Token → Bool
  | .directive _ | .documentStart | .documentEnd => true
  | _ => false

/-- The node of a document. -/
def document (tokens : List Token) : Reader Node := do
  let fuel := 4 * tokens.length + 8
  match tokens with
  | .directive _ :: _ | .documentStart :: _ =>
    let (handles, rest) ← directives false tokens
    set ({ tokens := rest, handles := handles ++ standardHandles } : Reading)
    expect fun | .documentStart => true | _ => false
    if (← get).tokens.isEmpty then return .empty
    orEmpty endsDocument (node fuel true false)
  | _ =>
    set ({ tokens, handles := standardHandles } : Reading)
    node fuel true false

end Reader

/-- The tree of a YAML text. A text without a document is an empty scalar. -/
def read? (text : String) : Option Place := do
  let tokens ← scan text.toList
  if tokens.isEmpty then some { tree := { root := .empty }, node := .empty }
  else
    let (root, reading) ← (Reader.document tokens).run { tokens }
    let isEnd : Token → Bool
      | .documentEnd => true
      | _ => false
    if reading.tokens.all isEnd then
      some { tree := { root, targets := reading.anchors.targets }, node := root }
    else none

end SchemaConversion.Yaml
