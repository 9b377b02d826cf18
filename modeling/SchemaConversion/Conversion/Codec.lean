import SchemaConversion.Conversion.Engine
import SchemaConversion.Schema.Codec

/-!
# Conversions in documents

Preferences and requests as they are read, and matrices, paths, types and results as they are
written. What is missing or empty is left out where the absence says so itself.
-/

namespace SchemaConversion

open Document

namespace Preferences

/-- Reads preferences. -/
def decode? {δ : Type} [Readable δ] (d : δ) : Option Preferences := do
  let members ← members? ["excluded_object_types", "excluded_objects", "type_overrides",
    "decisions", "enrichment_available", "sample_data_available", "allow_lossy"] d
  let excludedTypes ← members.withDefault? (listOf? (choice? ObjectType.ofName?)) []
    "excluded_object_types"
  let excludedNames ← members.withDefault? (listOf? text?) [] "excluded_objects"
  let typeOverrides ← members.withDefault? Dictionary.decode? .empty "type_overrides"
  let decisions ← members.withDefault? Dictionary.decode? .empty "decisions"
  let enrichmentAvailable ← members.withDefault? bool? false "enrichment_available"
  let sampleDataAvailable ← members.withDefault? bool? false "sample_data_available"
  let allowLossy ← members.withDefault? bool? true "allow_lossy"
  some
    { excludedTypes, excludedNames, typeOverrides, decisions, enrichmentAvailable
      sampleDataAvailable, allowLossy }

end Preferences

/-- Reads a request. -/
def ConversionRequest.decode? {δ : Type} [Readable δ] (d : δ) : Option ConversionRequest := do
  let members ← members? ["schema", "source_db", "target_db", "preferences", "mode"] d
  let schema ← members.withDefault? (optional? Schema.decode?) none "schema"
  let source ← members.required? text? "source_db"
  let target ← members.required? text? "target_db"
  let preferences ← members.withDefault? Preferences.decode? {} "preferences"
  let mode ← members.withDefault? (optional? (choice? ExecutionMode.ofName?)) none "mode"
  some { schema, source, target, preferences, mode }

/-- A list of object types by name. -/
def objectTypeNames (ts : List ObjectType) : Document := texts (ts.map ObjectType.name)

/-- The members of a set by name. -/
def ParadigmSet.toDocument (s : ParadigmSet) : Document := texts (s.toList.map Paradigm.name)

/-- The capabilities as a document. -/
def Capabilities.toDocument (c : Capabilities) : Document :=
  .record
    [("id", .text c.id), ("display_name", .text c.displayName),
      ("paradigms", c.paradigms.toDocument)]

/-- The conversion of a type as a document. -/
def TypeConversion.toDocument (c : TypeConversion) : Document :=
  .record
    ([("original", .text c.given), ("converted", .text c.converted),
        ("canonical", .text c.canonical.name),
        ("target_canonical", .text c.targetCanonical.name), ("kind", .text c.kind.name),
        ("lossy", .bool c.lossy)]
      ++ listMember "warnings" .text c.warnings ++ [("note", .text c.note)])

/-- The rule as a document. -/
def ObjectRule.toDocument (r : ObjectRule) : Document :=
  .record
    ([("object_type", .text r.objectType.name), ("action", .text r.action.name)]
      ++ listMember "alternatives" (fun t => .text (ObjectType.name t)) r.alternatives
      ++ listMember "notes" .text r.notes)

/-- The matrix as a document. -/
def ConversionMatrix.toDocument (m : ConversionMatrix) : Document :=
  .record
    ([("source_db", .text m.source.id), ("target_db", .text m.target.id),
        ("source_paradigms", m.source.paradigms.toDocument),
        ("target_paradigms", m.target.paradigms.toDocument),
        ("compatibility", .text m.compatibility.name), ("complexity", .text m.complexity.name),
        ("object_conversions",
          .record (m.rules.map fun rule => (rule.objectType.name, rule.toDocument))),
        ("strategies", texts (m.strategies.map ParadigmStrategy.name)),
        ("requires_user_input", .bool m.requiresUserInput),
        ("requires_enrichment", .bool m.requiresEnrichment),
        ("success_rate", .number m.successRate), ("duration", .text m.duration.name)]
      ++ listMember "notes" .text m.notes ++ listMember "warnings" .text m.limitations)

/-- The step as a document, alone on its path or not. -/
def PathStep.toDocument (isDirect : Bool) (s : PathStep) : Document :=
  .record
    [("from", .text s.source), ("to", .text s.target), ("complexity", .text s.complexity.name),
      ("is_direct", .bool isDirect)]

/-- The path as a document. -/
def ConversionPath.toDocument (p : ConversionPath) : Document :=
  .record
    ([("source_db", .text p.source), ("target_db", .text p.target),
        ("steps", listOf (PathStep.toDocument !p.isMultiStep) p.steps),
        ("total_complexity", .text p.complexity.name), ("recommended", .bool p.recommended)]
      ++ optionalMember "intermediate" .text p.intermediate?)

/-- The warning as a document. -/
def ConversionWarning.toDocument (w : ConversionWarning) : Document :=
  .record
    ([("kind", .text w.kind.name)]
      ++ optionalMember "object_type" (fun t => .text (ObjectType.name t)) w.objectType
      ++ optionalMember "object_name" .text w.objectName
      ++ [("message", .text w.message), ("severity", .text w.severity.name)]
      ++ optionalMember "suggestion" .text w.suggestion)

/-- The unsupported feature as a document. -/
def UnsupportedFeature.toDocument (f : UnsupportedFeature) : Document :=
  .record
    ([("feature_type", .text f.featureType), ("object_type", .text f.objectType.name)]
      ++ optionalMember "object_name" .text f.objectName
      ++ [("description", .text f.description)]
      ++ listMember "alternatives" (fun t => .text (ObjectType.name t)) f.alternatives)

/-- The decision as a document. -/
def PendingDecision.toDocument (d : PendingDecision) : Document :=
  .record
    ([("id", .text d.id), ("object_type", .text d.objectType.name)]
      ++ optionalMember "object_name" .text d.objectName
      ++ [("question", .text d.question), ("options", texts d.options),
        ("default", .text d.standard)])

/-- The statistics of one object type as a document. -/
def ObjectStats.toDocument (s : ObjectStats) : Document :=
  .record
    [("source_count", .natural s.sourceCount), ("converted", .natural s.converted),
      ("skipped", .natural s.skipped), ("dropped", .natural s.dropped),
      ("success_rate", .number s.successRate)]

/-- What is known of a run besides its outcome. -/
structure RunStamp where
  requestId : String
  startedAt : String
  elapsedMilliseconds : Nat

/-- The report as a document. -/
def ConversionReport.toDocument (stamp : RunStamp) (r : ConversionReport) : Document :=
  let m := r.matrix
  let counts := r.strategyCounts.map fun entry =>
    (CustomStrategy.name entry.1, Document.natural entry.2)
  .record
    ([("request_id", .text stamp.requestId), ("started_at", .text stamp.startedAt),
        ("source_db", .text m.source.id), ("target_db", .text m.target.id),
        ("mode", .text r.mode.name), ("dry_run", .bool (r.mode = .dryRun)),
        ("source_paradigms", m.source.paradigms.toDocument),
        ("target_paradigms", m.target.paradigms.toDocument),
        ("compatibility", .text m.compatibility.name), ("complexity", .text m.complexity.name),
        ("strategies", texts (m.strategies.map ParadigmStrategy.name)),
        ("estimator", .text r.estimator), ("estimated_success_rate", .number m.successRate),
        ("estimated_duration", .text r.duration.name),
        ("object_stats",
          .record (r.stats.map fun entry => (entry.1.name, entry.2.toDocument)))]
      ++ (if counts.isEmpty then [] else [("custom_type_strategies", .record counts)])
      ++ [("success_rate", .number r.stats.successRate),
        ("requires_user_input", .bool r.requiresUserInput),
        ("enrichment_used", .bool r.enrichmentUsed),
        ("sample_data_used", .bool r.sampleDataUsed), ("config_hash", .text r.configHash)]
      ++ listMember "notes" .text m.notes)

/-- The findings as entries of a document. -/
def Findings.entries (f : Findings) : Entries :=
  [("warnings", listOf ConversionWarning.toDocument f.warnings),
    ("unsupported_features", listOf UnsupportedFeature.toDocument f.unsupported),
    ("pending_decisions", listOf PendingDecision.toDocument f.pending)]

/-- The result of a request as a document. -/
def resultDocument (stamp : RunStamp) (result : Except ConversionError CompletedConversion) :
    Document :=
  let elapsed := ("elapsed_ms", Document.natural stamp.elapsedMilliseconds)
  match result with
  | .error e =>
    .record (("success", .bool false) :: Findings.none.entries
      ++ [("error", .text e.message), elapsed])
  | .ok c =>
    .record (("success", .bool true) :: optionalMember "schema" Schema.toDocument c.schema
      ++ [("report", c.report.toDocument stamp)] ++ c.findings.entries ++ [elapsed])

end SchemaConversion
