import SchemaConversion.CommandLine.Command
import SchemaConversion.CommandLine.Files
import SchemaConversion.CommandLine.Summary
import SchemaConversion.Databases

/-!
# The command line

`run` carries out what the arguments say, over any files. Its outcome is what is printed and how
the program ends: in order, with the failure of a conversion, or with a complaint about the
arguments. The configuration is read before anything else is done.
-/

namespace SchemaConversion.CommandLine

/-- How the program ends. -/
inductive Ending where
  | success
  | failure (e : ConversionError)
  /-- The arguments are not acceptable. -/
  | misuse (reason : String)

/-- The exit code of an ending. -/
def Ending.exitCode : Ending → Nat
  | .success => 0
  | .failure e => e.exitCode
  | .misuse _ => 2

/-- What the program prints and how it ends. -/
structure Outcome where
  output : String
  ending : Ending

/-- The name under which the program is called. -/
def programName : String := "schemabridge"

/-- The version that the program gives itself. -/
def version : String := "0.3.0"

/-- The file for the default configuration. -/
def defaultConfigFile : String := programName ++ ".yaml"

/-- How the program is called. -/
def usage : String :=
  lines ["Schema and type conversion across database paradigms", "",
    "Usage: " ++ programName ++ " [OPTIONS] <COMMAND>", "",
    "Commands: databases, resolve, matrix, path, convert, init-config, help", "",
    "Options: --config <FILE>, --output-json, --log-format <FORMAT>, --verbosity <LEVEL>,",
    "  --help, --version"]

section Actions

variable {m : Type → Type} [Monad m]

/-- An action that may fail. -/
abbrev Action (m : Type → Type) := ExceptT ConversionError m

/-- The result of a computation. -/
def computed {α : Type} (result : Except ConversionError α) : Action m α := ExceptT.mk (pure result)

/-- The text of a file. -/
def readFile (files : Files m) (path : String) : Action m String := do
  match ← (files.read path : m _) with
  | .ok text => return text
  | .error reason => throw (.io reason)

/-- Writes a file. -/
def writeFile (files : Files m) (path text : String) : Action m Unit := do
  match ← (files.write path text : m _) with
  | .ok () => return ()
  | .error reason => throw (.io reason)

/-- The configuration in a file, or the default one. -/
def loadConfig (files : Files m) : Option String → Action m Config
  | none => return {}
  | some path => do computed (Config.fromYaml (← readFile files path))

/-- The schema in a file, in JSON or YAML according to its name. -/
def loadSchema (files : Files m) (path : String) : Action m Schema := do
  let text ← readFile files path
  computed (if isJson path then Schema.fromJson text else Schema.fromYaml text)

/-- The preferences in a file, in JSON or YAML according to its name. -/
def loadPreferences (files : Files m) : Option String → Action m Preferences
  | none => return {}
  | some path => do
    let text ← readFile files path
    let json := isJson path
    let preferences? :=
      if json then (Json.read? text).bind Preferences.decode?
      else (Yaml.read? text).bind Preferences.decode?
    match preferences? with
    | some preferences => return preferences
    | none => throw (if json then .json else .yaml)

/-- A schema as it is written to a file. -/
def schemaText (path : String) (s : Schema) : String :=
  if isJson path then Json.pretty s.toDocument else Yaml.print s.toDocument

/-- Writes the default configuration, unless a file would be lost. -/
def initConfig (files : Files m) (output : Option String) (force : Bool) : Action m String := do
  let path := output.getD defaultConfigFile
  if !force && (← (files.exists? path : m _)) then
    throw (.config (path ++ " already exists (use --force to overwrite)"))
  writeFile files path ({} : Config).yaml
  return "Configuration written to " ++ path ++ "\n"

/-- A value in JSON on lines of its own, or in words. -/
def shown (json : Bool) (d : Document) (text : String) : String :=
  if json then Json.pretty d ++ "\n" else text

/-- Converts a schema file. The stamp is asked for when the conversion is done. -/
def convert (files : Files m) (stamp : m RunStamp) (engine : ConversionEngine) (json : Bool)
    (a : ConvertArguments) : Action m String := do
  let schema ← loadSchema files a.schema
  let preferences ← loadPreferences files a.preferences
  let request : ConversionRequest :=
    { schema := some schema, source := a.pair.source, target := a.pair.target, preferences
      mode := a.mode }
  let completed ← computed (engine.convert request)
  let stamp ← (stamp : m _)
  match a.output, completed.schema with
  | some path, some converted => writeFile files path (schemaText path converted)
  | _, _ => pure ()
  return shown json (resultDocument stamp (.ok completed)) (conversionText stamp completed)

/-- Carries out a command; the result is what is printed. -/
def perform (files : Files m) (stamp : m RunStamp) (i : Invocation) : Action m String :=
  match i.command with
  | .initConfig output force => initConfig files output force
  | command => do
    let config ← loadConfig files i.config
    let engine : ConversionEngine := { registry := .builtin, config }
    match command with
    | .initConfig .. => return ""
    | .databases =>
      let all := engine.registry.capabilities.values
      return shown i.json (Document.listOf Capabilities.toDocument all) (databasesText all)
    | .resolve pair spelling => do
      let c ← computed (engine.resolveType pair.source pair.target spelling)
      return shown i.json c.toDocument (typeText c)
    | .matrix pair => do
      let matrix ← computed (engine.matrix pair.source pair.target)
      return shown i.json matrix.toDocument (matrixText matrix)
    | .path pair => do
      let path ← computed (engine.path pair.source pair.target)
      return shown i.json path.toDocument (pathText path)
    | .convert a => convert files stamp engine i.json a

/-- What the arguments lead to. -/
def run (files : Files m) (stamp : m RunStamp) (arguments : List String) : m Outcome :=
  match Invocation.read arguments with
  | .error (.refused reason) => pure ⟨"", .misuse reason⟩
  | .error (.informed .help) => pure ⟨usage, .success⟩
  | .error (.informed .version) => pure ⟨programName ++ " " ++ version ++ "\n", .success⟩
  | .ok i => do
    match ← (perform files stamp i).run with
    | .ok output => pure ⟨output, .success⟩
    | .error e => pure ⟨"", .failure e⟩

end Actions

end SchemaConversion.CommandLine
