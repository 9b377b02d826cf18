import SchemaConversion.Text.Spelling
import SchemaConversion.Error

/-!
# Execution modes

A request is carried out with default decisions, carried out while collecting the decisions a user
could make, only analysed, or carried out as a preview.
-/

namespace SchemaConversion

/-- How a request is carried out. -/
inductive ExecutionMode where
  | automatic
  /-- Decisions without an answer are reported as pending. -/
  | interactive
  /-- No schema is produced. -/
  | analysisOnly
  | dryRun
  deriving DecidableEq, Inhabited

namespace ExecutionMode

/-- Every mode, in declaration order. -/
def all : List ExecutionMode := [.automatic, .interactive, .analysisOnly, .dryRun]

/-- The name by which documents and messages call the mode. -/
def name : ExecutionMode → String
  | .automatic => "automatic"
  | .interactive => "interactive"
  | .analysisOnly => "analysis_only"
  | .dryRun => "dry_run"

/-- The mode with this name. -/
def ofName? (name : String) : Option ExecutionMode := all.find? (·.name == name)

/-- The mode produces a schema. -/
def executes (m : ExecutionMode) : Bool := m != .analysisOnly

/-- Short forms that users may write. -/
def abbreviations : List (String × ExecutionMode) :=
  [("auto", .automatic), ("analysis", .analysisOnly)]

/-- Reads a freely written name or a short form. -/
def parse (text : String) : Except ConversionError ExecutionMode :=
  let spelled := Text.underscored (· == '-') (Text.lowerCase (Text.trim text))
  match (ofName? spelled).or (abbreviations.lookup spelled) with
  | some m => .ok m
  | none =>
    .error (.config ("Unknown execution mode '" ++ spelled
      ++ "'. Expected automatic, interactive, analysis-only or dry-run"))

end ExecutionMode

end SchemaConversion
