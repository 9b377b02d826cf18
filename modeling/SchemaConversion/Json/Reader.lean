import SchemaConversion.Json.Token

/-!
# Reading JSON

The tokens of a JSON text are folded into a tree by a machine whose stack holds the lists and
records that are still open. `read?` gives the one value of a text, or nothing if the text is not
JSON. What nests deeper than `maxDepth` is well formed but not readable, and so is a record with a
broken key.
-/

namespace SchemaConversion.Json

/-- Lists and records may nest this deep. -/
def maxDepth : Nat := 127

/-- What may come next at the current place. -/
inductive Expecting where
  | value
  | valueOrClose
  | key
  | keyOrClose
  | colon
  | commaOrClose
  | nothing

/-- An open list or record: its parts so far, the latest first, and the key of the value to come. A
record with a broken key has no entries. -/
inductive Frame where
  | list (items : List Document)
  | record (entries : Option (List (String × Document))) (key : Option String)

/-- The machine: the open lists and records, innermost first, and the finished value. -/
structure Build where
  stack : List Frame
  expecting : Expecting
  result : Option Document

/-- The machine before the first token. -/
def Build.start : Build := ⟨[], .value, none⟩

/-- Puts a finished value into its place. -/
def Build.add (b : Build) (d : Document) : Build :=
  match b.stack with
  | [] => ⟨[], .nothing, some d⟩
  | .list items :: outer => ⟨.list (d :: items) :: outer, .commaOrClose, none⟩
  | .record entries key :: outer =>
    let entries := entries.bind fun rest => key.map fun k => (k, d) :: rest
    ⟨.record entries key :: outer, .commaOrClose, none⟩

/-- Closes a list or record, which had so many others around it. -/
def Build.close (outer : List Frame) (d : Document) : Build :=
  Build.add ⟨outer, .value, none⟩ (if outer.length < maxDepth then d else .unreadable)

/-- A value may stand here. -/
def Expecting.allowsValue : Expecting → Bool
  | .value | .valueOrClose => true
  | _ => false

/-- One token further. -/
def Build.next (b : Build) (token : Token) : Option Build :=
  match token, b.expecting, b.stack with
  | .scalar d, .value, _ | .scalar d, .valueOrClose, _ => some (b.add d)
  | .text s, .value, _ | .text s, .valueOrClose, _ =>
    some (b.add ((s.map Document.text).getD .unreadable))
  | .text key, .key, .record entries _ :: outer
  | .text key, .keyOrClose, .record entries _ :: outer =>
    some ⟨.record entries key :: outer, .colon, none⟩
  | .colon, .colon, _ => some { b with expecting := .value }
  | .comma, .commaOrClose, .list _ :: _ => some { b with expecting := .value }
  | .comma, .commaOrClose, .record _ _ :: _ => some { b with expecting := .key }
  | .openList, expecting, _ =>
    if expecting.allowsValue then some ⟨.list [] :: b.stack, .valueOrClose, none⟩ else none
  | .openRecord, expecting, _ =>
    if expecting.allowsValue then some ⟨.record (some []) none :: b.stack, .keyOrClose, none⟩
    else none
  | .closeList, .commaOrClose, .list items :: outer
  | .closeList, .valueOrClose, .list items :: outer =>
    some (Build.close outer (.list items.reverse))
  | .closeRecord, .commaOrClose, .record entries _ :: outer
  | .closeRecord, .keyOrClose, .record entries _ :: outer =>
    some (Build.close outer ((entries.map fun e => .record e.reverse).getD .unreadable))
  | _, _, _ => none

/-- The tree of a JSON text. -/
def read? (text : String) : Option Document := do
  let tokens ← scan text.toList
  let build ← tokens.foldlM Build.next Build.start
  build.result

end SchemaConversion.Json
