import SchemaConversion.Main
import SchemaConversion.Proofs.Conversion.Conservation
import SchemaConversion.Proofs.Conversion.Modes
import SchemaConversion.Proofs.Conversion.Answers
import SchemaConversion.Proofs.Conversion.Prediction
import SchemaConversion.Proofs.Conversion.Accounting
import SchemaConversion.Proofs.CustomType.Rendition
import SchemaConversion.Proofs.Conversion.Fates
import SchemaConversion.Proofs.Conversion.Fields
import SchemaConversion.Proofs.Conversion.Closure
import SchemaConversion.Proofs.Conversion.Losses
import SchemaConversion.Proofs.Conversion.Placement
import SchemaConversion.Proofs.Conversion.Failures
import SchemaConversion.Proofs.Conversion.Order
import SchemaConversion.Proofs.Conversion.Catalog
import SchemaConversion.Proofs.CustomType.Nesting
import SchemaConversion.Proofs.Conversion.Meaning
import SchemaConversion.Proofs.Conversion.Names
import SchemaConversion.Proofs.Conversion.Overrides
import SchemaConversion.Proofs.Widening
import SchemaConversion.Proofs.Conversion.References
import SchemaConversion.Proofs.Registry
import SchemaConversion.Proofs.Conversion.Pair
import SchemaConversion.Proofs.Document.Records
import SchemaConversion.Proofs.Document.Schemas
import SchemaConversion.Proofs.Spacing
import SchemaConversion.Proofs.TypeName
import SchemaConversion.Proofs.TypeConversion.Recognition
import SchemaConversion.Proofs.TypeConversion.Bounds
import SchemaConversion.Proofs.TypeConversion.ReadingBack
import SchemaConversion.Proofs.TypeConversion.Outcomes
import SchemaConversion.Proofs.TypeConversion.Parameters
import SchemaConversion.Proofs.TypeConversion.NormalForms
import SchemaConversion.Proofs.CustomType.Outcomes
import SchemaConversion.Proofs.CustomType.Expansion
import SchemaConversion.Proofs.CustomType.Cycles
import SchemaConversion.Proofs.Expression.Screening
import SchemaConversion.Proofs.Conversion.Constraints
import SchemaConversion.Proofs.ConversionPath
import SchemaConversion.Proofs.Conversion.LookupTables
import SchemaConversion.Proofs.CustomType.Arrays
import SchemaConversion.Proofs.ConversionMatrix
import SchemaConversion.Proofs.Template
import SchemaConversion.Proofs.Expression.Splitting
import SchemaConversion.Proofs.Expression.Literals
import SchemaConversion.Proofs.Identifier.Truncation
