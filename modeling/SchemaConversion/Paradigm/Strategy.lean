import SchemaConversion.Paradigm

/-!
# Strategies between paradigms

The structural transformation that moves data from one paradigm to another is known for every
ordered pair. For two sets of paradigms all pairs contribute, each strategy once and in order of
precedence.
-/

namespace SchemaConversion

/-- A structural transformation between paradigms, in order of precedence. -/
inductive ParadigmStrategy where
  | direct | normalization | denormalization | decomposition | aggregation | hybrid
  deriving DecidableEq, Inhabited

namespace ParadigmStrategy

/-- Every strategy, in order of precedence. -/
def all : List ParadigmStrategy :=
  [.direct, .normalization, .denormalization, .decomposition, .aggregation, .hybrid]

/-- The name by which documents and messages call the strategy. -/
def name : ParadigmStrategy → String
  | .direct => "direct"
  | .normalization => "normalization"
  | .denormalization => "denormalization"
  | .decomposition => "decomposition"
  | .aggregation => "aggregation"
  | .hybrid => "hybrid"

/-- The strategy with this name. -/
def ofName? (name : String) : Option ParadigmStrategy := all.find? (·.name == name)

/-- The strategies from one paradigm to the others. -/
def fromParadigm : Paradigm → List (Paradigm × ParadigmStrategy)
  | .relational =>
    [(.document, .denormalization), (.graph, .decomposition), (.keyValue, .denormalization),
      (.columnar, .denormalization), (.wideColumn, .denormalization),
      (.searchIndex, .denormalization), (.vector, .aggregation), (.timeSeries, .aggregation),
      (.objectStore, .denormalization)]
  | .document =>
    [(.relational, .normalization), (.graph, .decomposition), (.keyValue, .denormalization),
      (.columnar, .normalization), (.wideColumn, .denormalization),
      (.searchIndex, .denormalization), (.vector, .aggregation), (.timeSeries, .aggregation),
      (.objectStore, .denormalization)]
  | .graph =>
    [(.relational, .decomposition), (.document, .aggregation), (.keyValue, .decomposition),
      (.columnar, .decomposition), (.wideColumn, .decomposition), (.searchIndex, .aggregation),
      (.vector, .aggregation), (.timeSeries, .aggregation), (.objectStore, .aggregation)]
  | .keyValue =>
    [(.relational, .normalization), (.document, .aggregation), (.graph, .decomposition),
      (.columnar, .normalization), (.wideColumn, .aggregation), (.searchIndex, .aggregation),
      (.vector, .aggregation), (.timeSeries, .aggregation), (.objectStore, .denormalization)]
  | .columnar =>
    [(.relational, .normalization), (.document, .denormalization), (.graph, .decomposition),
      (.keyValue, .denormalization), (.wideColumn, .denormalization),
      (.searchIndex, .denormalization), (.vector, .aggregation), (.timeSeries, .aggregation),
      (.objectStore, .denormalization)]
  | .wideColumn =>
    [(.relational, .normalization), (.document, .aggregation), (.graph, .decomposition),
      (.keyValue, .decomposition), (.columnar, .normalization), (.searchIndex, .denormalization),
      (.vector, .aggregation), (.timeSeries, .aggregation), (.objectStore, .denormalization)]
  | .searchIndex =>
    [(.relational, .normalization), (.document, .aggregation), (.graph, .decomposition),
      (.keyValue, .decomposition), (.columnar, .normalization), (.wideColumn, .denormalization),
      (.vector, .aggregation), (.timeSeries, .aggregation), (.objectStore, .denormalization)]
  | .vector =>
    [(.relational, .normalization), (.document, .denormalization), (.graph, .decomposition),
      (.keyValue, .decomposition), (.columnar, .normalization), (.wideColumn, .denormalization),
      (.searchIndex, .hybrid), (.timeSeries, .hybrid), (.objectStore, .denormalization)]
  | .timeSeries =>
    [(.relational, .normalization), (.document, .aggregation), (.graph, .decomposition),
      (.keyValue, .decomposition), (.columnar, .denormalization), (.wideColumn, .denormalization),
      (.searchIndex, .aggregation), (.vector, .aggregation), (.objectStore, .denormalization)]
  | .objectStore =>
    [(.relational, .normalization), (.document, .aggregation), (.graph, .decomposition),
      (.keyValue, .decomposition), (.columnar, .normalization), (.wideColumn, .normalization),
      (.searchIndex, .aggregation), (.vector, .aggregation), (.timeSeries, .hybrid)]

/-- The strategy listed for a pair; data within one paradigm moves as it is. -/
def listed? (source target : Paradigm) : Option ParadigmStrategy :=
  if source = target then some .direct else (fromParadigm source).lookup target

/-- The strategy for a pair. -/
def between (source target : Paradigm) : ParadigmStrategy := (listed? source target).getD .hybrid

/-- The strategies for all pairs of two sets, in order of precedence. -/
def betweenSets (source target : ParadigmSet) : List ParadigmStrategy :=
  all.filter fun strategy =>
    source.toList.any fun s => target.toList.any fun t => between s t == strategy

end ParadigmStrategy

end SchemaConversion
