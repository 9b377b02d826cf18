import SchemaConversion.Proofs.CustomType.Nesting
import SchemaConversion.Proofs.TypeConversion.Outcomes

/-!
# What the conversion of a custom type answers

A type is converted by the primary strategy for it, and only if that fails by the one to fall back
on, with a warning that says how it failed. The parts of the conversion are those that belong to the
strategy it was made by. If both fail, the failure is that of the type:

> `resolve_shape`: which strategy a conversion was made by and what it consists of, and how the
> conversion of a type fails.

Most categories fall back on plain strings, and this cannot fail where the target holds some kind of
text, whatever the type is made of:

> `resolve_degrades`: a type that is no composite and no array always becomes a single type there,
> which is that of a string column if the conversion has fallen back.
-/

namespace SchemaConversion

/-- The parts of a conversion of this type are those that belong to its strategy. -/
structure CustomConversion.IsShaped (r : CustomConversion) (t : CustomType) : Prop where
  /-- There is a single type unless columns stand for it. -/
  convertedType_iff : r.rendition.convertedType = none ↔ r.strategy = .flatten
  /-- What is flattened becomes columns and nothing else. -/
  columns : r.strategy = .flatten →
    ∃ specs : List ColumnSpec, specs ≠ [] ∧ r.rendition.supplements = specs.map .column
  column : ∀ spec, .column spec ∈ r.rendition.supplements → r.strategy = .flatten
  table_iff :
    (∃ name keyType values, .lookupTable name keyType values ∈ r.rendition.supplements) ↔
      r.strategy = .lookupTable
  requiresUserInput_iff : r.rendition.requiresUserInput = true ↔ r.strategy = .lookupTable
  /-- A statement creates a native type, and this has the name of the type. -/
  definition : ∀ statement, r.rendition.definition = some statement →
    r.strategy = .direct ∧ r.rendition.convertedType = some t.name

/-- A rendition needs no statement that creates the type, and no answer by the user. -/
def Rendition.StandsAlone (r : Rendition) : Prop :=
  r.definition = none ∧ r.requiresUserInput = false

/-- What a rendition of this type needs comes from its strategy: a statement from that for native
types, and an answer by the user from that for lookup tables. -/
structure Rendition.DemandsBy (r : Rendition) (strategy : CustomStrategy) (t : CustomType) :
    Prop where
  requiresUserInput_iff : r.requiresUserInput = true ↔ strategy = .lookupTable
  definition : ∀ statement, r.definition = some statement →
    strategy = .direct ∧ r.convertedType = some t.name

/-- What stands alone demands nothing, by any strategy but that for lookup tables. -/
theorem Rendition.StandsAlone.demandsBy {r : Rendition} {strategy : CustomStrategy}
    (h : r.StandsAlone) (t : CustomType) (hne : strategy ≠ .lookupTable) :
    r.DemandsBy strategy t := by
  obtain ⟨hdefinition, hinput⟩ := h
  refine ⟨⟨fun hrequires => ?_, fun htable => absurd htable hne⟩, fun statement hstatement => ?_⟩
  · rw [hinput] at hrequires
    cases hrequires
  · rw [hdefinition] at hstatement
    cases hstatement

namespace Shop

/-- The conversion of types to an archive that is said to hold JSON but has no type for it. -/
def toArchive : TypeConverter where
  source := Databases.postgresql.types
  target := (TypeProfile.ofTable "archive" [.simple "clob" .clob]).withCustomTypes
    { json := some ⟨"json", []⟩ }

end Shop

namespace CustomConverter

variable {c : CustomConverter} {inner : Nested} {t : CustomType} {r : CustomConversion}
  {rendition : Rendition} {strategy : CustomStrategy} {e : ConversionError}

/-- How the types are converted that a type at this depth refers to. -/
def below (c : CustomConverter) (depth : Nat) : Nested :=
  ⟨c.resolveAt (c.levels - (depth + 1)), c.columnsAt (c.levels - (depth + 1))⟩

/-- With a level left a type is converted with the levels below it. -/
theorem resolve_eq_with (hlevels : 0 < c.levels) (t : CustomType) :
    c.resolve t = c.resolveWith (c.below 0) t := by
  obtain ⟨left, hleft⟩ := Nat.exists_eq_add_one_of_ne_zero hlevels.ne'
  unfold resolve below
  rw [hleft, resolveAt]
  rfl

/-- There is at least one level, whatever depth is asked for. -/
theorem levels_withDepth (types : TypeConverter) (catalog : List CustomType) (depth : Nat) :
    0 < (withDepth types catalog depth).levels := Nat.le_max_left 1 depth

/-! ## Which strategy a conversion is made by -/

/-- A conversion is made by the primary strategy if that applies. If not, it is made by the one to
fall back on, which is another one, and a warning says how the primary strategy failed. -/
structure KeepsToChoice (c : CustomConverter) (inner : Nested) (t : CustomType)
    (r : CustomConversion) : Prop where
  primary_eq : r.primaryStrategy = (StrategyChoice.of t.definition c.target).primary
  applied : ∀ rendition, c.apply inner r.primaryStrategy t = .ok rendition →
    r.strategy = r.primaryStrategy ∧ r.usedFallback = false
  failed : ∀ failure, c.apply inner r.primaryStrategy t = .error failure →
    r.strategy = (StrategyChoice.of t.definition c.target).fallback ∧
      r.strategy ≠ r.primaryStrategy ∧ r.usedFallback = true ∧
      r.primaryStrategy.name ++ " strategy failed: " ++ failure.message ∈ r.rendition.warnings

/-- **A conversion keeps to the choice of strategies.** -/
theorem resolveWith_keepsToChoice (h : c.resolveWith inner t = .ok r) :
    c.KeepsToChoice inner t r := by
  obtain ⟨hprimary, hmark⟩ := resolveWith_strategy h
  obtain ⟨rendition, hr, ⟨hnone, -⟩ | ⟨hfallback, hstrategy, failure, hfailed, heq⟩⟩ :=
    resolveWith_cases h
  · -- the primary strategy has been carried out
    rw [hnone] at hmark
    have hsame : r.strategy = r.primaryStrategy := by simpa using hmark.symm
    refine ⟨hprimary, fun _ _ => ⟨hsame, hnone⟩, fun failure hfailed => ?_⟩
    -- what was made by the primary strategy has not failed
    have happlied : c.apply inner r.primaryStrategy t = .ok rendition := by
      rw [← hsame]
      exact mapError_eq_ok.2 hr
    rw [happlied] at hfailed
    cases hfailed
  · -- the primary strategy has failed, and the other one has been carried out
    rw [hfallback] at hmark
    refine ⟨hprimary, fun rendition happlied => ?_, fun other hother => ?_⟩
    · rw [happlied] at hfailed
      cases hfailed
    · rw [hfailed] at hother
      obtain rfl := Except.error.inj hother
      rw [heq]
      exact ⟨hstrategy, by simpa using hmark.symm, hfallback,
        List.mem_append_right _ (List.mem_singleton_self _)⟩

/-- **How the conversion of a type fails**: as that of the type, after both strategies have. -/
theorem resolveWith_eq_error (h : c.resolveWith inner t = .error e) :
    (∃ reason, e = .customTypeConversion t.name reason) ∧
      ∀ strategy ∈ [(StrategyChoice.of t.definition c.target).primary,
          (StrategyChoice.of t.definition c.target).fallback],
        ∃ failure, c.apply inner strategy t = .error failure := by
  unfold resolveWith at h
  dsimp only at h
  split at h
  · cases h
  · next failure hprimary =>
    split at h
    · next hsame =>
      cases h
      refine ⟨⟨_, rfl⟩, fun strategy hstrategy => ⟨failure, ?_⟩⟩
      rw [← hsame, List.mem_pair, or_self] at hstrategy
      rw [hstrategy, hprimary]
    · split at h
      · cases h
      · next second hfallback =>
        cases h
        refine ⟨⟨_, rfl⟩, fun strategy hstrategy => ?_⟩
        rcases List.mem_pair.1 hstrategy with rfl | rfl
        · exact ⟨failure, hprimary⟩
        · exact ⟨second, hfallback⟩

/-! ## What a conversion consists of -/

/-- Lookup tables come from one strategy, which makes one of whatever it is applied to. -/
theorem Renders.table_iff (h : Renders c inner t strategy rendition) :
    (∃ name keyType values, .lookupTable name keyType values ∈ rendition.supplements) ↔
      strategy = .lookupTable := by
  cases h with
  | columns =>
    refine ⟨fun ⟨_, _, _, htable⟩ => ?_, by rintro ⟨⟩⟩
    obtain ⟨_, -, ⟨⟩⟩ := List.mem_map.1 htable
  | table => exact ⟨fun _ => rfl, fun _ => ⟨_, _, _, List.mem_singleton_self _⟩⟩
  | base =>
    refine ⟨fun ⟨_, _, _, htable⟩ => ?_, by rintro ⟨⟩⟩
    obtain ⟨_, _, ⟨⟩⟩ := domainConstraints_constraint htable
  | single _ hne _ hconstraints =>
    refine ⟨fun ⟨_, _, _, htable⟩ => ?_, fun htable => absurd htable hne.2.1⟩
    obtain ⟨_, _, ⟨⟩⟩ := hconstraints _ htable

/-- A native type is created by a statement under its own name, and it needs no answer. -/
theorem asNative_definition {resolve : CustomType → Except ConversionError CustomConversion}
    (h : c.asNative resolve t = .ok rendition) :
    rendition.requiresUserInput = false ∧ ∀ statement, rendition.definition = some statement →
      rendition.convertedType = some t.name := by
  obtain ⟨filling, -, ⟨⟩⟩ := bind_eq_ok.1 h
  refine ⟨rfl, fun statement hstatement => ?_⟩
  dsimp only at hstatement ⊢
  by_cases hcreates : filling.template.isStatement = true
  · rw [if_pos hcreates]
  · rw [if_neg hcreates] at hstatement
    cases hstatement

theorem asConstrainedString_standsAlone (h : c.asConstrainedString t = .ok rendition) :
    rendition.StandsAlone := by
  obtain ⟨column, x, notes, -, rfl⟩ := asConstrainedString_eq h
  exact ⟨rfl, rfl⟩

theorem asPlainString_standsAlone (h : c.asPlainString t = .ok rendition) :
    rendition.StandsAlone := by
  obtain ⟨column, -, ⟨⟩⟩ := bind_eq_ok.1 h
  exact ⟨rfl, rfl⟩

theorem asJsonColumn_standsAlone (h : c.asJsonColumn t = .ok rendition) :
    rendition.StandsAlone := by
  obtain ⟨column, -, ⟨⟩⟩ := bind_eq_ok.1 h
  exact ⟨rfl, rfl⟩

/-- **Native types alone need a statement**, and lookup tables alone an answer by the user. -/
theorem rendition_demandsBy (h : c.rendition inner strategy t = .ok rendition) :
    rendition.DemandsBy strategy t := by
  have hrenders := rendition_renders h
  cases strategy with
  | direct =>
    obtain ⟨hinput, hdefinition⟩ := asNative_definition (explained_eq_ok.1 h)
    refine ⟨?_, fun statement hstatement => ⟨rfl, hdefinition statement hstatement⟩⟩
    rw [hinput]
    exact ⟨nofun, nofun⟩
  | emulateWithConstraint => exact (asConstrainedString_standsAlone h).demandsBy t (by decide)
  | asString => exact (asPlainString_standsAlone h).demandsBy t (by decide)
  | asJson => exact (asJsonColumn_standsAlone h).demandsBy t (by decide)
  | lookupTable =>
    cases hrenders with
    | table => exact ⟨⟨fun _ => rfl, fun _ => rfl⟩, nofun⟩
    | single _ hne => exact absurd rfl hne.2.1
  | flatten =>
    cases hrenders with
    | columns => exact Rendition.StandsAlone.demandsBy ⟨rfl, rfl⟩ t (by decide)
    | single _ hne => exact absurd rfl hne.1
  | checkConstraint =>
    cases hrenders with
    | base => exact Rendition.StandsAlone.demandsBy ⟨rfl, rfl⟩ t (by decide)
    | single _ hne => exact absurd rfl hne.2.2
  | unsupported => cases h

/-- **The parts of a conversion belong to its strategy.** To fall back only adds a warning. -/
theorem resolve_isShaped (h : c.resolve t = .ok r) : r.IsShaped t := by
  obtain ⟨left, -, hwith⟩ := resolve_eq_ok h
  -- but for the warnings the conversion is what its strategy makes of the type
  obtain ⟨rendition, more, hr, heq, -⟩ := resolveWith_rendition hwith
  have htable := (rendition_renders hr).table_iff
  obtain ⟨hinput, hdefinition⟩ := rendition_demandsBy hr
  refine ⟨⟨fun hnone => ?_, fun hflat => (resolve_flatten h hflat).1⟩,
    fun hflat => (resolve_flatten h hflat).2, fun spec => strategy_of_column h, ?_, ?_, ?_⟩
  · by_contra hflat
    obtain ⟨⟨dataType, hsome⟩, -⟩ := resolve_single h hflat
    rw [hnone] at hsome
    cases hsome
  all_goals rw [heq]
  · exact htable
  · exact hinput
  · exact hdefinition

/-- **The shape of a conversion and the discipline of falling back.** Whatever a type is made of and
whatever it refers to, its conversion is made by the primary strategy if that applies and by the
other one if not, and it consists of what belongs to this strategy. It fails as the conversion of
this type, if neither strategy applies. -/
theorem resolve_shape (types : TypeConverter) (catalog : List CustomType) (depth : Nat)
    (t : CustomType) :
    let c := withDepth types catalog depth
    (∀ r, c.resolve t = .ok r → c.KeepsToChoice (c.below 0) t r ∧ r.IsShaped t) ∧
      ∀ e, c.resolve t = .error e →
        (∃ reason, e = .customTypeConversion t.name reason) ∧
          ∀ strategy ∈ [(StrategyChoice.of t.definition c.target).primary,
              (StrategyChoice.of t.definition c.target).fallback],
            ∃ failure, c.apply (c.below 0) strategy t = .error failure := by
  intro c
  have hwith := resolve_eq_with (levels_withDepth types catalog depth) t
  constructor
  · intro r h
    exact ⟨resolveWith_keepsToChoice (hwith ▸ h), resolve_isShaped h⟩
  · intro e h
    exact resolveWith_eq_error (hwith ▸ h)

/-- A price cannot be archived as JSON and is flattened instead. With one level alone, the amount
that it is made of is too deep for both. -/
theorem price_flattened_instead :
    (∃ r, (withDepth Shop.toArchive [Shop.amount []] 2).resolve Shop.price = .ok r ∧
      r.strategy = .flatten ∧ r.usedFallback = true ∧ r.rendition.convertedType = none ∧
      "as_json strategy failed: Strategy as_json failed for type 'price': archive has no JSON type"
        ∈ r.rendition.warnings) ∧
      ∃ e reason, (withDepth Shop.toArchive [Shop.amount []] 1).resolve Shop.price = .error e ∧
        e = .customTypeConversion "price" reason := by
  have htest : ((withDepth Shop.toArchive [Shop.amount []] 2).resolve Shop.price).toOption.any
      (fun r => r.strategy = .flatten) = true := by decide +kernel
  obtain ⟨r, h, hflat⟩ := exists_ok htest
  obtain ⟨hchoice, hshape⟩ := (resolve_shape _ _ 2 Shop.price).1 r h
  have hprimary : r.primaryStrategy = .asJson := hchoice.primary_eq
  have hfailed : (withDepth Shop.toArchive [Shop.amount []] 2).apply
      ((withDepth Shop.toArchive [Shop.amount []] 2).below 0) .asJson Shop.price =
        .error (.strategyFailed "price" "as_json" "archive has no JSON type") := by rfl
  rw [← hprimary] at hfailed
  obtain ⟨-, -, hfallback, hwarning⟩ := hchoice.failed _ hfailed
  rw [hprimary] at hwarning
  refine ⟨⟨r, h, of_decide_eq_true hflat, hfallback,
    hshape.convertedType_iff.2 (of_decide_eq_true hflat), hwarning⟩, ?_⟩
  cases hone : (withDepth Shop.toArchive [Shop.amount []] 1).resolve Shop.price with
  | ok r =>
    have hnone : ((withDepth Shop.toArchive [Shop.amount []] 1).resolve
      Shop.price).toOption.isNone = true := by decide +kernel
    rw [hone] at hnone
    cases hnone
  | error e =>
    obtain ⟨⟨reason, he⟩, -⟩ := (resolve_shape _ _ 1 Shop.price).2 e hone
    exact ⟨e, reason, rfl, he⟩

/-! ## Degradation -/

/-- A target that holds some kind of text has a column for strings, of whatever length. -/
theorem stringColumn_of_holdsText (h : c.target.HoldsText) (length? : Option Nat) :
    ∃ column, c.stringColumn length? = .ok column := by
  unfold stringColumn
  cases hvarchar : c.target.nativeFor? .varchar with
  | some info => exact ⟨_, rfl⟩
  | none =>
    cases hfirst : c.firstNative? [.string, .text, .clob] with
    | some name => exact ⟨name, rfl⟩
    | none =>
      -- none of the kinds of text has a native type, not even the one that is there
      obtain ⟨t, ht, hnative⟩ := h
      have hothers := List.findSome?_eq_none_iff.1 hfirst
      have hnone : c.target.nativeFor? t = none := by
        simp only [CanonicalType.texts, List.mem_cons, List.not_mem_nil, or_false] at ht
        rcases ht with rfl | rfl | rfl | rfl
        · exact Option.map_eq_none_iff.1 (hothers _ (by decide))
        · exact Option.map_eq_none_iff.1 (hothers _ (by decide))
        · exact hvarchar
        · exact Option.map_eq_none_iff.1 (hothers _ (by decide))
      rw [hnone] at hnative
      cases hnative

/-- Where there is some kind of text, every type can be stored as plain strings. -/
theorem apply_asString_of_holdsText (h : c.target.HoldsText) (inner : Nested) (t : CustomType) :
    ∃ rendition, c.apply inner .asString t = .ok rendition := by
  unfold apply rendition asPlainString
  obtain ⟨column, hcolumn⟩ := stringColumn_of_holdsText h _
  exact ⟨_, mapError_eq_ok.2 (bind_eq_ok.2 ⟨column, hcolumn, rfl⟩)⟩

/-- What is neither a composite nor an array falls back on plain strings. -/
theorem fallback_eq_asString (hcomposite : t.category ≠ .composite) (harray : t.category ≠ .array) :
    (StrategyChoice.of t.definition c.target).fallback = .asString := by
  show StrategyChoice.fallbackFor t.category = .asString
  cases hcategory : t.category with
  | composite => exact absurd hcategory hcomposite
  | array => exact absurd hcategory harray
  | _ => rfl

/-- What has fallen back and is neither a composite nor an array is stored as plain strings. -/
theorem strategy_of_usedFallback (hcomposite : t.category ≠ .composite)
    (harray : t.category ≠ .array) (h : c.resolveWith inner t = .ok r)
    (hfallback : r.usedFallback = true) : r.strategy = .asString := by
  obtain ⟨rendition, -, ⟨hprimary, -⟩ | ⟨-, hstrategy, -⟩⟩ := resolveWith_cases h
  · rw [hprimary] at hfallback
    cases hfallback
  · exact hstrategy.trans (fallback_eq_asString (c := c) hcomposite harray)

/-- The number of characters that a string column for the type needs, if its definition tells. -/
def characters? (t : CustomType) : Option Nat :=
  match t.definition with
  | .enum values => longest? values
  | _ => none

/-- Plain strings are kept in a string column for as many characters as the type needs. -/
theorem asPlainString_column (h : c.asPlainString t = .ok rendition) :
    ∃ column, c.stringColumn (characters? t) = .ok column ∧
      rendition.convertedType = some column := by
  unfold asPlainString at h
  unfold characters?
  -- an enumeration alone tells how long its values are
  cases hdefinition : t.definition with
  | enum values =>
    rw [hdefinition] at h
    obtain ⟨column, hcolumn, ⟨⟩⟩ := bind_eq_ok.1 h
    exact ⟨column, hcolumn, rfl⟩
  | _ =>
    rw [hdefinition] at h
    obtain ⟨column, hcolumn, ⟨⟩⟩ := bind_eq_ok.1 h
    exact ⟨column, hcolumn, rfl⟩

/-- A type that is stored as plain strings has the type of their column. -/
theorem stringColumn_of_asString {dataType : String} (h : c.resolveWith inner t = .ok r)
    (hstrategy : r.strategy = .asString) (hconverted : r.rendition.convertedType = some dataType) :
    c.stringColumn (characters? t) = .ok dataType := by
  obtain ⟨rendition, more, hr, heq, -⟩ := resolveWith_rendition h
  rw [hstrategy] at hr
  obtain ⟨column, hcolumn, hsome⟩ := asPlainString_column hr
  rw [heq] at hconverted
  rw [hcolumn, Option.some.inj (hsome.symm.trans hconverted)]

/-- **Conversion degrades gracefully.** If the target has a native type for some kind of text, then
every type that is neither a composite nor an array becomes a single type there, whatever it is made
of, whatever else is in the catalog and however deep types may nest. If the strategy for it fails,
this is the type of a string column. -/
theorem resolve_degrades (types : TypeConverter) (catalog : List CustomType) (depth : Nat)
    (t : CustomType) (htext : types.target.HoldsText) (hcomposite : t.category ≠ .composite)
    (harray : t.category ≠ .array) :
    ∃ r dataType, (withDepth types catalog depth).resolve t = .ok r ∧
      r.rendition.convertedType = some dataType ∧
      (r.usedFallback = true → r.strategy = .asString) ∧
      (r.strategy = .asString →
        (withDepth types catalog depth).stringColumn (characters? t) = .ok dataType) := by
  have hwith := resolve_eq_with (levels_withDepth types catalog depth) t
  cases h : (withDepth types catalog depth).resolve t with
  | error e =>
    rw [hwith] at h
    -- plain strings would have failed, too
    obtain ⟨-, hfails⟩ := resolveWith_eq_error h
    obtain ⟨failure, hfailed⟩ := hfails _ (List.mem_pair.2 (.inr rfl))
    rw [fallback_eq_asString hcomposite harray] at hfailed
    obtain ⟨rendition, happlied⟩ := apply_asString_of_holdsText
      (c := withDepth types catalog depth) htext _ t
    rw [happlied] at hfailed
    cases hfailed
  | ok r =>
    have hflat : r.strategy ≠ .flatten := by
      intro hflat
      obtain ⟨-, fields, -, hdefinition, -⟩ := resolve_columns h hflat
      exact hcomposite (congrArg CustomDefinition.category hdefinition)
    obtain ⟨⟨dataType, hconverted⟩, -⟩ := resolve_single h hflat
    rw [hwith] at h
    exact ⟨r, dataType, rfl, hconverted, strategy_of_usedFallback hcomposite harray h,
      fun hstrategy => stringColumn_of_asString h hstrategy hconverted⟩

/-- An amount of an unknown unit with a condition that must not be carried out is stored as a
string. -/
theorem unsafe_amount_degrades :
    ∃ r dataType,
      (withDepth (TypeConverter.between Databases.postgresql Databases.mysql) [] 1).resolve
        ⟨"amount", .domain "coins" ["VALUE > 0; DROP TABLE orders"]⟩ = .ok r ∧
      r.rendition.convertedType = some dataType ∧ r.strategy = .asString ∧
      (withDepth (TypeConverter.between Databases.postgresql Databases.mysql) [] 1).stringColumn
        none = .ok dataType := by
  have htest : ((withDepth (TypeConverter.between Databases.postgresql Databases.mysql) [] 1).resolve
      ⟨"amount", .domain "coins" ["VALUE > 0; DROP TABLE orders"]⟩).toOption.any
        (fun r => r.usedFallback) = true := by decide +kernel
  obtain ⟨r, h, hfallback⟩ := exists_ok htest
  obtain ⟨r', dataType, h', hconverted, hstrategy, hcolumn⟩ :=
    resolve_degrades (TypeConverter.between Databases.postgresql Databases.mysql) [] 1
      ⟨"amount", .domain "coins" ["VALUE > 0; DROP TABLE orders"]⟩
      ⟨.varchar, by decide, by decide +kernel⟩ (by decide) (by decide)
  obtain rfl : r' = r := Except.ok.inj (h'.symm.trans h)
  exact ⟨r', dataType, h', hconverted, hstrategy hfallback, hcolumn (hstrategy hfallback)⟩

end CustomConverter

end SchemaConversion
