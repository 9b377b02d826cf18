import SchemaConversion.CommandLine.Arguments

/-!
# Commands

What the command line can be asked to do, read from its arguments.
-/

namespace SchemaConversion.CommandLine

/-- A pair of databases as it was written. -/
structure Pair where
  source : String
  target : String

/-- A conversion of a schema file. -/
structure ConvertArguments where
  schema : String
  pair : Pair
  mode : Option ExecutionMode
  /-- The file for the converted schema. -/
  output : Option String
  /-- The file with the preferences. -/
  preferences : Option String

/-- What is to be done. -/
inductive Command where
  /-- List the databases. -/
  | databases
  /-- Convert one type. -/
  | resolve (pair : Pair) (spelling : String)
  /-- Show a matrix. -/
  | matrix (pair : Pair)
  /-- Show a path. -/
  | path (pair : Pair)
  | convert (arguments : ConvertArguments)
  /-- Write the default configuration. -/
  | initConfig (output : Option String) (force : Bool)

/-- A command with the options that hold for every command. -/
structure Invocation where
  /-- The file with the configuration. -/
  config : Option String
  /-- Results are printed as JSON. -/
  json : Bool
  command : Command

/-- The options before the command. -/
def globalGrammar : Grammar where
  spec :=
    { options :=
        [{ name := "config", letter := some 'c', isPath := true },
          { name := "output-json", hasValue := false }, { name := "log-format" },
          { name := "verbosity" }] }
  hasVersion := true

/-- The options of a pair of databases. -/
def pairOptions : List OptionSpec :=
  [{ name := "from", isRequired := true }, { name := "to", isRequired := true }]

/-- The options of each command. -/
def commandSpec? : String → Option CommandSpec
  | "databases" => some { options := [] }
  | "resolve" => some { options := pairOptions, hasOperand := true }
  | "matrix" | "path" => some { options := pairOptions }
  | "convert" =>
    some
      { options :=
          { name := "schema", letter := some 's', isPath := true, isRequired := true } ::
            pairOptions ++
          [{ name := "mode" }, { name := "output", letter := some 'o', isPath := true },
            { name := "preferences", isPath := true }] }
  | "init-config" =>
    some
      { options :=
          [{ name := "output", letter := some 'o', isPath := true },
            { name := "force", letter := some 'f', hasValue := false }] }
  | _ => none

/-- The pair that arguments name. -/
def Parsed.pair (p : Parsed) : Pair :=
  ⟨(p.value? "from").getD "", (p.value? "to").getD ""⟩

/-- The mode by its name on the command line, its words joined by hyphens. -/
def modeArgument? (value : String) : Option ExecutionMode :=
  ExecutionMode.all.find? fun m =>
    String.ofList (m.name.toList.map fun c => if c = '_' then '-' else c) == value

/-- The mode that arguments name. -/
def Parsed.mode (p : Parsed) : Reading (Option ExecutionMode) :=
  match p.value? "mode" with
  | none => .ok none
  | some value =>
    match modeArgument? value with
    | some m => .ok (some m)
    | none => .error (.refused ("invalid value " ++ value ++ " for --mode"))

/-- The command that its name and its arguments say. -/
def Command.of (name : String) (p : Parsed) : Reading Command :=
  match name with
  | "databases" => .ok .databases
  | "resolve" => .ok (.resolve p.pair (p.operands.headD ""))
  | "matrix" => .ok (.matrix p.pair)
  | "path" => .ok (.path p.pair)
  | "convert" => do
    let mode ← p.mode
    return .convert
      { schema := (p.value? "schema").getD "", pair := p.pair, mode
        output := p.value? "output", preferences := p.value? "preferences" }
  | "init-config" => .ok (.initConfig (p.value? "output") (p.has "force"))
  | _ => .error (.refused ("unrecognized command " ++ name))

/-- Reads the arguments of the command line. -/
def Invocation.read (arguments : List String) : Reading Invocation := do
  let (p, name, rest) ← globalGrammar.readGlobal none {} arguments
  if name = "help" then throw (.informed .help)
  match commandSpec? name with
  | none => throw (.refused ("unrecognized command " ++ name))
  | some spec =>
    let own ← Grammar.read { spec } false none {} rest
    let command ← Command.of name own
    return { config := p.value? "config", json := p.has "output-json", command }

end SchemaConversion.CommandLine
