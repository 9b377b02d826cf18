import SchemaConversion.ExecutionMode

/-!
# Arguments of the command line

The arguments are a command with its options, behind the options that hold for every command. An
option stands in full behind two dashes or as a letter behind one, letters of flags may be joined,
and a value follows as the next argument or behind an equals sign. A value that starts with a dash
must be given behind an equals sign. Behind two dashes alone, everything is a value. No option may
be repeated.
-/

namespace SchemaConversion.CommandLine

/-- An option: its long name, its letter and whether it has a value. -/
structure OptionSpec where
  name : String
  letter : Option Char := none
  hasValue : Bool := true
  /-- The value may not be empty, as it names a file. -/
  isPath : Bool := false
  isRequired : Bool := false

/-- What the arguments of a command consist of. -/
structure CommandSpec where
  options : List OptionSpec
  /-- The command has one value without a name, which must be there. -/
  hasOperand : Bool := false

/-- Arguments taken apart: the values of options by name, those of flags empty, and values without
a name. -/
structure Parsed where
  options : List (String × String) := []
  operands : List String := []

namespace Parsed

/-- The value of an option, if it is given. -/
def value? (p : Parsed) (name : String) : Option String := p.options.lookup name

/-- The option is given. -/
def has (p : Parsed) (name : String) : Bool := (p.value? name).isSome

end Parsed

/-- What can be asked for in place of a command. -/
inductive Information where
  | help | version
  deriving DecidableEq

/-- How the reading of arguments ends before their end. -/
inductive Stop where
  /-- The arguments are not acceptable. -/
  | refused (reason : String)
  | informed (information : Information)

/-- Reading arguments. -/
abbrev Reading := Except Stop

/-- The argument is an option and not a value. -/
def looksLikeOption (argument : String) : Bool :=
  match argument.toList with
  | '-' :: _ :: _ => true
  | _ => false

/-- Adds an option with its value. -/
def addOption (p : Parsed) (spec : OptionSpec) (value : String) : Reading Parsed :=
  if p.has spec.name then
    .error (.refused ("the option --" ++ spec.name ++ " cannot be used multiple times"))
  else if spec.isPath && value.isEmpty then
    .error (.refused ("a value is required for --" ++ spec.name))
  else .ok { p with options := p.options ++ [(spec.name, value)] }

/-- What an argument does to what has been read: the new state and, if it is an option whose value
is still to come, that option. -/
abbrev ArgumentStep := Reading (Parsed × Option OptionSpec)

/-- The options of a command together with the one for help and, if there is one, for the
version. -/
structure Grammar where
  spec : CommandSpec
  hasVersion : Bool := false

/-- The information that a long option or a letter asks for. -/
def Grammar.information? (g : Grammar) (name : String) : Option Information :=
  if name = "help" || name = "h" then some .help
  else if g.hasVersion && (name = "version" || name = "V") then some .version
  else none

/-- A text taken apart at its first equals sign. -/
def splitValue (s : List Char) : List Char × Option (List Char) :=
  match s.dropWhile (· ≠ '=') with
  | [] => (s, none)
  | _ :: value => (s.takeWhile (· ≠ '='), some value)

/-- An option in full, the text behind its two dashes. -/
def Grammar.longOption (g : Grammar) (p : Parsed) (body : List Char) : ArgumentStep :=
  let (nameChars, value?) := splitValue body
  let name := String.ofList nameChars
  match g.spec.options.find? (·.name == name), value? with
  | some spec, none =>
    if spec.hasValue then .ok (p, some spec) else return (← addOption p spec "", none)
  | some spec, some value =>
    if spec.hasValue then return (← addOption p spec (String.ofList value), none)
    else .error (.refused ("unexpected value for --" ++ name))
  | none, none =>
    match if name.length = 1 then none else g.information? name with
    | some information => .error (.informed information)
    | none => .error (.refused ("unexpected option --" ++ name))
  | none, some _ => .error (.refused ("unexpected option --" ++ name))

/-- Letters behind one dash: flags, and at their end perhaps an option with its value. -/
def Grammar.letters (g : Grammar) (p : Parsed) : List Char → ArgumentStep
  | [] => .ok (p, none)
  | c :: rest =>
    match g.spec.options.find? (·.letter == some c) with
    | none =>
      match g.information? (String.singleton c) with
      | some information => .error (.informed information)
      | none => .error (.refused ("unexpected option -" ++ String.singleton c))
    | some spec =>
      if spec.hasValue then
        match rest with
        | [] => .ok (p, some spec)
        | '=' :: value => return (← addOption p spec (String.ofList value), none)
        | value => return (← addOption p spec (String.ofList value), none)
      else do
        let p ← addOption p spec ""
        g.letters p rest

/-- One argument that is an option. -/
def Grammar.option (g : Grammar) (p : Parsed) (argument : String) : ArgumentStep :=
  match argument.toList with
  | '-' :: '-' :: body => g.longOption p body
  | '-' :: letters => g.letters p letters
  | _ => .ok (p, none)

/-- The first option that is missing. -/
def Grammar.missing? (g : Grammar) (p : Parsed) : Option String :=
  (g.spec.options.find? fun spec => spec.isRequired && !p.has spec.name).map OptionSpec.name

/-- Accepts arguments that are complete. -/
def Grammar.complete (g : Grammar) (p : Parsed) : Reading Parsed :=
  match g.missing? p with
  | some name => .error (.refused ("the option --" ++ name ++ " is required"))
  | none =>
    if g.spec.hasOperand && p.operands.isEmpty then .error (.refused "a value is required")
    else .ok p

/-- Adds a value without a name. -/
def Grammar.operand (g : Grammar) (p : Parsed) (value : String) : Reading Parsed :=
  if g.spec.hasOperand && p.operands.isEmpty then .ok { p with operands := [value] }
  else .error (.refused ("unexpected argument " ++ value))

/-- Reads the arguments of a command; `waiting` is the option whose value comes next, and
`valuesOnly` says that no options follow. -/
def Grammar.read (g : Grammar) (valuesOnly : Bool) (waiting : Option OptionSpec) (p : Parsed) :
    List String → Reading Parsed
  | [] =>
    match waiting with
    | some spec => .error (.refused ("a value is required for --" ++ spec.name))
    | none => g.complete p
  | argument :: rest =>
    match waiting with
    | some spec =>
      if looksLikeOption argument then
        .error (.refused ("a value is required for --" ++ spec.name))
      else do
        let p ← addOption p spec argument
        g.read false none p rest
    | none =>
      if valuesOnly || !looksLikeOption argument then do
        let p ← g.operand p argument
        g.read valuesOnly none p rest
      else if argument = "--" then g.read true none p rest
      else do
        let (p, waiting) ← g.option p argument
        g.read false waiting p rest

/-- Reads the options before a command; the rest starts with the command's name. -/
def Grammar.readGlobal (g : Grammar) (waiting : Option OptionSpec) (p : Parsed) :
    List String → Reading (Parsed × String × List String)
  | [] =>
    match waiting with
    | some spec => .error (.refused ("a value is required for --" ++ spec.name))
    | none => .error (.refused "a command is required")
  | argument :: rest =>
    match waiting with
    | some spec =>
      if looksLikeOption argument then
        .error (.refused ("a value is required for --" ++ spec.name))
      else do
        let p ← addOption p spec argument
        g.readGlobal none p rest
    | none =>
      if argument = "--" then .error (.refused "a command is required")
      else if looksLikeOption argument then do
        let (p, waiting) ← g.option p argument
        g.readGlobal waiting p rest
      else .ok (p, argument, rest)

end SchemaConversion.CommandLine
