import SchemaConversion.Conversion.Codec

/-!
# Results in words

What the command line prints where no JSON is asked for.
-/

namespace SchemaConversion.CommandLine

/-- Lines of text, each with its end. -/
def lines (ls : List String) : String := String.join (ls.map (· ++ "\n"))

/-- A text filled up with blanks to a width. -/
def padded (width : Nat) (s : String) : String :=
  s ++ String.ofList (List.replicate (width - s.length) ' ')

/-- A truth value in words. -/
def yesNo (b : Bool) : String := if b then "yes" else "no"

/-- The list of databases. -/
def databasesText (cs : List Capabilities) : String :=
  lines (("Registered databases (" ++ toString cs.length ++ "):") :: cs.map fun c =>
    "  " ++ padded 16 c.id ++ " " ++ padded 24 c.displayName ++ " " ++ c.paradigms.text)

/-- The conversion of a type. -/
def typeText (c : TypeConversion) : String :=
  lines ([c.given ++ " -> " ++ c.converted,
      "  Canonical: " ++ c.canonical.name ++ " -> " ++ c.targetCanonical.name,
      "  Kind: " ++ c.kind.name, "  Lossy: " ++ yesNo c.lossy]
    ++ c.warnings.map ("  Warning: " ++ ·))

/-- A matrix. -/
def matrixText (m : ConversionMatrix) : String :=
  let strategies :=
    if m.strategies.isEmpty then []
    else ["  Strategies: " ++ ", ".intercalate (m.strategies.map ParadigmStrategy.name)]
  lines (["Conversion matrix " ++ m.source.id ++ " -> " ++ m.target.id,
      "  Compatibility: " ++ m.compatibility.name, "  Complexity: " ++ m.complexity.name,
      "  Success rate: " ++ Decimal.percentage m.successRate ++ "%",
      "  Duration: " ++ m.duration.phrase]
    ++ strategies ++ ["  Object types:"]
    ++ m.rules.map (fun rule => "    " ++ rule.objectType.name ++ " " ++ rule.action.name)
    ++ m.notes.map ("  Note: " ++ ·) ++ m.limitations.map ("  Warning: " ++ ·))

/-- A path. -/
def pathText (p : ConversionPath) : String :=
  lines (["Conversion path " ++ p.source ++ " -> " ++ p.target]
    ++ p.steps.map (fun step =>
      "  " ++ step.source ++ " -> " ++ step.target ++ " (" ++ step.complexity.name ++ ")")
    ++ ["  Total complexity: " ++ p.complexity.name, "  Recommended: " ++ yesNo p.recommended])

/-- A conversion that was carried through. -/
def conversionText (stamp : RunStamp) (c : CompletedConversion) : String :=
  let r := c.report
  let status :=
    if r.mode = .dryRun then "Dry run completed!"
    else if c.schema.isNone then "Analysis completed!"
    else "Conversion completed!"
  let serious := c.findings.atLeast .warning
  let warnings :=
    if serious.isEmpty then []
    else "  Warnings:" :: serious.map fun w => "    [" ++ w.severity.name ++ "] " ++ w.message
  let unsupported :=
    if c.findings.unsupported.isEmpty then []
    else ["  Unsupported: " ++ toString c.findings.unsupported.length]
  lines (["", status, "  Request ID: " ++ stamp.requestId,
      "  " ++ r.matrix.source.id ++ " -> " ++ r.matrix.target.id,
      "  Compatibility: " ++ r.matrix.compatibility.name,
      "  Complexity: " ++ r.matrix.complexity.name,
      "  Objects: " ++ toString r.stats.convertedTotal ++ "/" ++ toString r.stats.sourceTotal
        ++ " converted (" ++ Decimal.percentage r.stats.successRate ++ "%)",
      "  Estimated: " ++ Decimal.percentage r.matrix.successRate ++ "% success, "
        ++ r.duration.phrase,
      "  Duration: " ++ toString stamp.elapsedMilliseconds ++ "ms"]
    ++ warnings ++ unsupported
    ++ c.findings.pending.map fun d => "  Pending: " ++ d.id ++ " (default: " ++ d.standard ++ ")")

end SchemaConversion.CommandLine
