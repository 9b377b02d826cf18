import SchemaConversion.Dictionary
import SchemaConversion.Text.LowerCase
import SchemaConversion.Text.Blank

/-!
# Files

What the command line does with files, for any place where files are kept: the disk of a computer,
or a dictionary of texts by name, in which a directory is there as soon as a file in it is.
-/

namespace SchemaConversion.CommandLine

/-- Access to files. Failures are told in words. -/
structure Files (m : Type → Type) where
  read : String → m (Except String String)
  exists? : String → m Bool
  write : String → String → m (Except String Unit)

/-- The names on the way to a file, without those that stay in place. -/
def pathNames (path : String) : List String :=
  (Text.pieces (· == '/') path.toList).filterMap fun piece =>
    if piece.isEmpty || piece = ['.'] then none else some (String.ofList piece)

/-- The part of a file's name behind its last dot, if there is a name before the dot. -/
def extension? (path : String) : Option String := do
  let name ← (pathNames path).getLast?
  let reversed := name.toList.reverse
  let stem := (reversed.dropWhile (· ≠ '.')).drop 1
  if stem.isEmpty then none else some (String.ofList (reversed.takeWhile (· ≠ '.')).reverse)

/-- The file is meant to hold JSON. -/
def isJson (path : String) : Bool :=
  ((extension? path).map fun e => Text.equalIgnoringCase e "json").getD false

/-- Files kept as texts by name. -/
abbrev FileTexts := Dictionary String

namespace FileTexts

/-- One spelling for each file. -/
def key (path : String) : String := "/".intercalate (pathNames path)

/-- The path leads to a directory. -/
def isDirectory (files : FileTexts) (path : String) : Bool :=
  let names := pathNames path
  names.isEmpty || files.keys.any fun other =>
    let otherNames := pathNames other
    names.length < otherNames.length && names.isPrefixOf otherNames

/-- The path leads through a file. -/
def crossesFile (files : FileTexts) (path : String) : Bool :=
  let names := pathNames path
  files.keys.any fun other =>
    let otherNames := pathNames other
    otherNames.length < names.length && otherNames.isPrefixOf names

/-- The reason why there is no file at a path. -/
def absence (files : FileTexts) (path : String) : String :=
  if files.isDirectory path then "Is a directory (os error 21)"
  else if files.crossesFile path then "Not a directory (os error 20)"
  else "No such file or directory (os error 2)"

/-- Reading. -/
def read (files : FileTexts) (path : String) : Except String String :=
  match files.find? (key path) with
  | some text => .ok text
  | none => .error (files.absence path)

/-- There is a file or directory at the path. -/
def has (files : FileTexts) (path : String) : Bool :=
  (files.find? (key path)).isSome || files.isDirectory path

/-- Writing; the directory of the file must be there. -/
def write (files : FileTexts) (path text : String) : Except String FileTexts :=
  let directory := "/".intercalate (pathNames path).dropLast
  if files.isDirectory path || !files.isDirectory directory then .error (files.absence path)
  else .ok (files.insert (key path) text)

/-- Access to files kept in this way. -/
def access : Files (StateM FileTexts) where
  read path := return FileTexts.read (← get) path
  exists? path := return FileTexts.has (← get) path
  write path text := do
    match FileTexts.write (← get) path text with
    | .ok files =>
      set files
      return .ok ()
    | .error reason => return .error reason

end FileTexts

end SchemaConversion.CommandLine
