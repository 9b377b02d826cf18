import SchemaConversion.Config
import SchemaConversion.Document.Decode
import SchemaConversion.Document.Encode
import SchemaConversion.Yaml.Reader
import SchemaConversion.Yaml.Printer
import SchemaConversion.Digest

/-!
# Configurations in documents

A configuration is a record of sections, every part of which may be left out and then has its
default. Written as YAML it has a fingerprint by which reports can say what they were made with.
-/

namespace SchemaConversion

open Document

namespace SuccessRates

/-- The rates as a document. -/
def toDocument (r : SuccessRates) : Document :=
  .record (Complexity.all.map fun c => (c.name, .number (r.rate c)))

/-- Reads rates. -/
def decode? {δ : Type} [Readable δ] (d : δ) : Option SuccessRates := do
  let members ← members? (Complexity.all.map Complexity.name) d
  let absent : SuccessRates := {}
  let rate (c : Complexity) := members.withDefault? number? (absent.rate c) c.name
  let trivial ← rate .trivial
  let simple ← rate .simple
  let moderate ← rate .moderate
  let complex ← rate .complex
  let impossible ← rate .impossible
  some { trivial, simple, moderate, complex, impossible }

end SuccessRates

namespace CompatibilityFactors

/-- The factors as a document. -/
def toDocument (f : CompatibilityFactors) : Document :=
  .record (Compatibility.all.map fun c => (c.name, .number (f.factor c)))

/-- Reads factors. -/
def decode? {δ : Type} [Readable δ] (d : δ) : Option CompatibilityFactors := do
  let members ← members? (Compatibility.all.map Compatibility.name) d
  let absent : CompatibilityFactors := {}
  let factor (c : Compatibility) := members.withDefault? number? (absent.factor c) c.name
  let identical ← factor .identical
  let compatible ← factor .compatible
  let overlapping ← factor .overlapping
  let incompatible ← factor .incompatible
  some { identical, compatible, overlapping, incompatible }

end CompatibilityFactors

namespace EstimatorSettings

/-- The settings as a document. -/
def toDocument (s : EstimatorSettings) : Document :=
  .record
    [("success_rates", s.successRates.toDocument),
      ("compatibility_factors", s.compatibilityFactors.toDocument),
      ("moderate_minutes_max_objects", .natural s.moderateMinutesMaxObjects),
      ("moderate_hours_max_objects", .natural s.moderateHoursMaxObjects)]

/-- Reads settings. -/
def decode? {δ : Type} [Readable δ] (d : δ) : Option EstimatorSettings := do
  let members ← members? ["success_rates", "compatibility_factors",
    "moderate_minutes_max_objects", "moderate_hours_max_objects"] d
  let absent : EstimatorSettings := {}
  let count := members.withDefault? (naturalUpTo? maxUnsigned64)
  let successRates ←
    members.withDefault? SuccessRates.decode? absent.successRates "success_rates"
  let compatibilityFactors ← members.withDefault? CompatibilityFactors.decode?
    absent.compatibilityFactors "compatibility_factors"
  let moderateMinutesMaxObjects ←
    count absent.moderateMinutesMaxObjects "moderate_minutes_max_objects"
  let moderateHoursMaxObjects ← count absent.moderateHoursMaxObjects "moderate_hours_max_objects"
  some { successRates, compatibilityFactors, moderateMinutesMaxObjects, moderateHoursMaxObjects }

end EstimatorSettings

namespace EngineSettings

/-- The settings as a document. -/
def toDocument (s : EngineSettings) : Document :=
  .record
    [("default_mode", .text s.defaultMode.name),
      ("max_custom_type_depth", .natural s.maxCustomTypeDepth),
      ("fail_on_impossible", .bool s.failOnImpossible)]

/-- Reads settings. -/
def decode? {δ : Type} [Readable δ] (d : δ) : Option EngineSettings := do
  let members ← members? ["default_mode", "max_custom_type_depth", "fail_on_impossible"] d
  let absent : EngineSettings := {}
  let defaultMode ←
    members.withDefault? (choice? ExecutionMode.ofName?) absent.defaultMode "default_mode"
  let maxCustomTypeDepth ← members.withDefault? (naturalUpTo? maxUnsigned64)
    absent.maxCustomTypeDepth "max_custom_type_depth"
  let failOnImpossible ← members.withDefault? bool? absent.failOnImpossible "fail_on_impossible"
  some { defaultMode, maxCustomTypeDepth, failOnImpossible }

end EngineSettings

namespace Config

/-- The configuration as a document. -/
def toDocument (c : Config) : Document :=
  .record [("estimator", c.estimator.toDocument), ("engine", c.engine.toDocument)]

/-- Reads a configuration, which need not be valid. -/
def decode? {δ : Type} [Readable δ] (d : δ) : Option Config := do
  let members ← members? ["estimator", "engine"] d
  let estimator ← members.withDefault? EstimatorSettings.decode? {} "estimator"
  let engine ← members.withDefault? EngineSettings.decode? {} "engine"
  some { estimator, engine }

/-- The configuration in YAML. -/
def yaml (c : Config) : String := Yaml.print c.toDocument

/-- The digest of the configuration in YAML. -/
def fingerprint (c : Config) : String := Digest.sha256 c.yaml

/-- Reads and validates a configuration in YAML. -/
def fromYaml (text : String) : Except ConversionError Config := do
  match (Yaml.read? text).bind decode? with
  | none => throw .yaml
  | some config =>
    config.validate
    return config

end Config

end SchemaConversion
