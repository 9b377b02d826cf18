import SchemaConversion.Proofs.CustomType.Columns
import SchemaConversion.Proofs.CustomType.Resolution

/-!
# What the strategies make of a custom type

`CustomConverter.Renders` lists what a strategy may lead to: columns in the place of the type, a
lookup table next to a string, a base type with the conditions of a domain, or some other single
type, next to which at most constraints stand. Which one it is depends on the strategy alone:

> `rendition_renders`: what a strategy makes of a type is of the form that belongs to it.

> `resolve_renders`: so is the conversion of a type, up to a warning that it has fallen back.

So columns stand for a type only if it has been flattened, and then there is at least one.
-/

namespace SchemaConversion

/-- The supplement is a condition for a column. -/
def Supplement.IsConstraint (x : Supplement) : Prop :=
  ∃ name expression, x = .constraint name expression

namespace CustomConverter

variable {c : CustomConverter} {inner : Nested} {t : CustomType}

/-- What a strategy may make of a type. -/
inductive Renders (c : CustomConverter) (inner : Nested) (t : CustomType) :
    CustomStrategy → Rendition → Prop
  /-- A composite becomes the columns of its fields and nothing else. -/
  | columns {fields : List CompositeField} {specs : List ColumnSpec} (notes : List String)
      (definition_eq : t.definition = .composite fields)
      (specs_eq : c.columns inner fields = .ok specs) :
      Renders c inner t .flatten { supplements := specs.map .column, notes }
  /-- An enumeration becomes a reference to a table that is named after it. -/
  | table (keyType : String) (values warnings : List String) :
      Renders c inner t .lookupTable
        { convertedType := some keyType
          supplements := [.lookupTable (Identifier.derived t.name "values") keyType values]
          requiresUserInput := true
          warnings }
  /-- A domain becomes its base type, and all that the conversion of that has to tell is told. -/
  | base {baseType : String} {conditions : List String} {base : TypeConversion}
      (definition_eq : t.definition = .domain baseType conditions)
      (base_eq : c.types.resolve baseType = .ok base) :
      Renders c inner t .checkConstraint
        { convertedType := some base.converted
          supplements := domainConstraints t.name conditions
          warnings := base.warnings }
  /-- By any other strategy a type becomes a single one, perhaps with constraints. -/
  | single {strategy : CustomStrategy} {r : Rendition} (dataType : String)
      (strategy_ne : strategy ≠ .flatten ∧ strategy ≠ .lookupTable ∧ strategy ≠ .checkConstraint)
      (convertedType_eq : r.convertedType = some dataType)
      (supplements_eq : ∀ x ∈ r.supplements, x.IsConstraint) :
      Renders c inner t strategy r

/-- The conditions of a domain become constraints. -/
theorem domainConstraints_constraint {domain : String} {conditions : List String} {x : Supplement}
    (hx : x ∈ domainConstraints domain conditions) : x.IsConstraint := by
  obtain ⟨_, -, rfl⟩ := List.mem_map.1 hx
  exact ⟨_, _, rfl⟩

/-- A strategy moves the conditions of a domain to the columns that have it. -/
def movesConditions (c : CustomConverter) : CustomStrategy → Bool
  | .checkConstraint => true
  | .direct =>
    c.target.constraints.check &&
      (StrategyChoice.native? c.target .domain).any fun template =>
        !template.hasPlaceholder "checks"
  | _ => false

/-- What fills the template of a domain leaves constraints for its conditions to be made, if they
are moved. -/
theorem domainFilling_supplements {name baseType : String} {conditions : List String}
    {filling : Filling} (h : c.domainFilling name baseType conditions = .ok filling) :
    filling.supplements =
      if c.movesConditions .direct then domainConstraints name conditions else [] := by
  unfold domainFilling at h
  simp only [bind_eq_ok] at h
  obtain ⟨template, htemplate, _, -, _, -, h⟩ := h
  have hnative : StrategyChoice.native? c.target .domain = some template := by
    unfold CustomConverter.template at htemplate
    split at htemplate
    · next hnative => rw [hnative, Except.ok.inj htemplate]
    · cases htemplate
  unfold movesConditions
  rw [hnative, Option.any_some]
  -- conditions that have a place in the template are not moved
  split at h
  · next hplaced =>
    cases h
    simp [hplaced]
  · next hplaced =>
    split at h
    · next hempty =>
      cases h
      rw [List.isEmpty_iff.1 hempty]
      exact (ite_self _).symm
    · split at h
      -- this is where they are moved
      · next hcheck =>
        cases h
        simp [hplaced, hcheck]
      · next hcheck =>
        cases h
        simp [hcheck]

/-- **What fills a template** leaves nothing to be made but constraints for the conditions of a
domain. -/
theorem filling_supplements {resolve : CustomType → Except ConversionError CustomConversion}
    {filling : Filling} (h : c.filling resolve t = .ok filling) :
    filling.supplements =
      match t.definition with
      | .domain _ conditions =>
        if c.movesConditions .direct then domainConstraints t.name conditions else []
      | _ => [] := by
  unfold CustomConverter.filling at h
  cases hd : t.definition with
  | domain baseType conditions =>
    rw [hd] at h
    exact domainFilling_supplements h
  | enum values =>
    rw [hd] at h
    dsimp only at h
    split at h
    · cases h
    · obtain ⟨_, -, ⟨⟩⟩ := bind_eq_ok.1 h
      rfl
  | composite fields =>
    rw [hd] at h
    dsimp only at h
    split at h
    · cases h
    · simp only [bind_eq_ok] at h
      obtain ⟨_, -, _, -, ⟨⟩⟩ := h
      rfl
  | array elementType =>
    rw [hd] at h
    simp only [bind_eq_ok] at h
    obtain ⟨_, -, _, -, ⟨⟩⟩ := h
    rfl
  | range subtype =>
    rw [hd] at h
    dsimp only at h
    split at h
    · cases h
    · obtain ⟨_, -, ⟨⟩⟩ := bind_eq_ok.1 h
      rfl
  | spatial geometry srid =>
    rw [hd] at h
    obtain ⟨_, -, ⟨⟩⟩ := bind_eq_ok.1 h
    rfl
  | temporal baseType => rw [hd] at h; cases h
  | binary maxLength => rw [hd] at h; cases h
  | other definition => rw [hd] at h; cases h

/-- What fills a template leaves only constraints to be made. -/
theorem filling_constraint {resolve : CustomType → Except ConversionError CustomConversion}
    {filling : Filling} (h : c.filling resolve t = .ok filling) :
    ∀ x ∈ filling.supplements, x.IsConstraint := by
  intro x hx
  rw [filling_supplements h] at hx
  split at hx
  · split at hx
    · exact domainConstraints_constraint hx
    · cases hx
  · cases hx

/-! ## The strategies one by one -/

/-- A native type is a single one. -/
theorem asNative_renders {resolve : CustomType → Except ConversionError CustomConversion}
    {r : Rendition} (h : c.asNative resolve t = .ok r) : Renders c inner t .direct r := by
  obtain ⟨filling, hfilling, ⟨⟩⟩ := bind_eq_ok.1 h
  exact .single _ (by decide) rfl (filling_constraint hfilling)

/-- Strings that are checked have a column with a constraint, and that is all. -/
theorem asConstrainedString_eq {r : Rendition} (h : c.asConstrainedString t = .ok r) :
    ∃ column x notes, x.IsConstraint ∧
      r = { convertedType := some column, supplements := [x], notes } := by
  unfold asConstrainedString at h
  split at h
  · split at h
    · cases h
    · split at h
      · cases h
      · obtain ⟨column, -, ⟨⟩⟩ := bind_eq_ok.1 h
        exact ⟨column, _, _, ⟨_, _, rfl⟩, rfl⟩
  · cases h

theorem asConstrainedString_renders {r : Rendition} (h : c.asConstrainedString t = .ok r) :
    Renders c inner t .emulateWithConstraint r := by
  obtain ⟨column, x, notes, hx, rfl⟩ := asConstrainedString_eq h
  exact .single column (by decide) rfl fun y hy => List.mem_singleton.1 hy ▸ hx

theorem asConstrainedBase_renders {r : Rendition} (h : c.asConstrainedBase t = .ok r) :
    Renders c inner t .checkConstraint r := by
  unfold asConstrainedBase at h
  split at h
  · next baseType conditions hd =>
    split at h
    · cases h
    · simp only [bind_eq_ok, about_eq_ok] at h
      obtain ⟨base, hbase, _, -, ⟨⟩⟩ := h
      exact .base hd hbase
  · cases h

theorem asPlainString_renders {r : Rendition} (h : c.asPlainString t = .ok r) :
    Renders c inner t .asString r := by
  obtain ⟨column, -, ⟨⟩⟩ := bind_eq_ok.1 h
  exact .single column (by decide) rfl fun x hx => absurd hx List.not_mem_nil

theorem asJsonColumn_renders {r : Rendition} (h : c.asJsonColumn t = .ok r) :
    Renders c inner t .asJson r := by
  obtain ⟨column, -, ⟨⟩⟩ := bind_eq_ok.1 h
  exact .single column (by decide) rfl fun x hx => absurd hx List.not_mem_nil

theorem asLookupTable_renders {r : Rendition} (h : c.asLookupTable t = .ok r) :
    Renders c inner t .lookupTable r := by
  unfold asLookupTable at h
  split at h
  · split at h
    · cases h
    · obtain ⟨keyType, -, ⟨⟩⟩ := bind_eq_ok.1 h
      exact .table keyType _ _
  · cases h

theorem asColumns_renders {r : Rendition} (h : asColumns (c.columns inner) t = .ok r) :
    Renders c inner t .flatten r := by
  unfold asColumns at h
  split at h
  · next fields hd =>
    obtain ⟨specs, hspecs, ⟨⟩⟩ := bind_eq_ok.1 h
    exact .columns _ hd hspecs
  · cases h

/-- **What a strategy makes of a type is of the form that belongs to it.** -/
theorem rendition_renders {strategy : CustomStrategy} {r : Rendition}
    (h : c.rendition inner strategy t = .ok r) : Renders c inner t strategy r := by
  cases strategy with
  | direct => exact asNative_renders (explained_eq_ok.1 h)
  | emulateWithConstraint => exact asConstrainedString_renders h
  | asString => exact asPlainString_renders h
  | asJson => exact asJsonColumn_renders h
  | lookupTable => exact asLookupTable_renders h
  | flatten => exact asColumns_renders h
  | checkConstraint => exact asConstrainedBase_renders h
  | unsupported => cases h

/-! ## The whole conversion -/

/-- A conversion is what its strategy has made of the type. Only falling back adds a warning. -/
theorem resolveWith_rendition {conversion : CustomConversion}
    (h : c.resolveWith inner t = .ok conversion) :
    ∃ r more, c.rendition inner conversion.strategy t = .ok r ∧
      conversion.rendition = { r with warnings := r.warnings ++ more } ∧
      (conversion.usedFallback = false → more = []) := by
  unfold resolveWith at h
  dsimp only at h
  split at h
  · next r hr =>
    cases h
    exact ⟨r, [], mapError_eq_ok.1 hr, by rw [List.append_nil], fun _ => rfl⟩
  · split at h
    · cases h
    · next hdiffer =>
      split at h
      · next r hr =>
        cases h
        refine ⟨r, _, mapError_eq_ok.1 hr, rfl, fun hprimary => ?_⟩
        -- the strategy to fall back on is another one
        exact absurd (by simpa using hprimary : _ = _).symm hdiffer
      · cases h

/-- What has been made of a type is of the form that belongs to the strategy of the conversion. -/
theorem resolveWith_renders {conversion : CustomConversion}
    (h : c.resolveWith inner t = .ok conversion) :
    ∃ r more, Renders c inner t conversion.strategy r ∧
      conversion.rendition = { r with warnings := r.warnings ++ more } ∧
      (conversion.usedFallback = false → more = []) := by
  obtain ⟨r, more, hr, hrest⟩ := resolveWith_rendition h
  exact ⟨r, more, rendition_renders hr, hrest⟩

/-- **What is made of a type is of the form that belongs to the strategy it was converted by**, at
the uppermost of the levels that there are. -/
theorem resolve_renders {conversion : CustomConversion} (h : c.resolve t = .ok conversion) :
    ∃ left, c.levels = left + 1 ∧
      ∃ r more, Renders c ⟨c.resolveAt left, c.columnsAt left⟩ t conversion.strategy r ∧
        conversion.rendition = { r with warnings := r.warnings ++ more } ∧
        (conversion.usedFallback = false → more = []) := by
  obtain ⟨left, hlevels, hwith⟩ := resolve_eq_ok h
  exact ⟨left, hlevels, resolveWith_renders hwith⟩

/-- A type that is flattened is a composite, and it becomes the columns of its fields. -/
theorem resolve_columns {conversion : CustomConversion} (h : c.resolve t = .ok conversion)
    (hflat : conversion.strategy = .flatten) :
    conversion.rendition.convertedType = none ∧
      ∃ fields specs, t.definition = .composite fields ∧ c.columnsAt c.levels fields = .ok specs ∧
        conversion.rendition.supplements = specs.map .column := by
  obtain ⟨left, hlevels, r, more, hr, heq, -⟩ := resolve_renders h
  rw [hflat] at hr
  rw [heq, hlevels]
  cases hr with
  | columns notes hdefinition hspecs =>
    rw [← columnsAt] at hspecs
    exact ⟨rfl, _, _, hdefinition, hspecs, rfl⟩
  | single _ hne => exact absurd rfl hne.1

/-- There is at least one column for a type that is flattened. -/
theorem resolve_flatten {conversion : CustomConversion} (h : c.resolve t = .ok conversion)
    (hflat : conversion.strategy = .flatten) :
    conversion.rendition.convertedType = none ∧
      ∃ specs : List ColumnSpec, specs ≠ [] ∧
        conversion.rendition.supplements = specs.map .column := by
  obtain ⟨hnone, fields, specs, -, hspecs, hsupplements⟩ := resolve_columns h hflat
  exact ⟨hnone, specs, columnsAt_ne_nil hspecs, hsupplements⟩

/-- A type that is not flattened becomes a single one, and no column stands for it. -/
theorem resolve_single {conversion : CustomConversion} (h : c.resolve t = .ok conversion)
    (hflat : conversion.strategy ≠ .flatten) :
    (∃ dataType, conversion.rendition.convertedType = some dataType) ∧
      ∀ spec, .column spec ∉ conversion.rendition.supplements := by
  obtain ⟨left, -, r, more, hr, heq, -⟩ := resolve_renders h
  have hnone {l : List Supplement}
      (hl : ∀ x ∈ l, x.IsConstraint) (spec : ColumnSpec) : .column spec ∉ l := by
    intro hspec
    obtain ⟨_, _, ⟨⟩⟩ := hl _ hspec
  rw [heq]
  generalize conversion.strategy = strategy at hr hflat
  cases hr with
  | columns => exact absurd rfl hflat
  | table keyType values warnings => exact ⟨⟨_, rfl⟩, fun spec hspec => by simp at hspec⟩
  | base => exact ⟨⟨_, rfl⟩, hnone fun x hx => domainConstraints_constraint hx⟩
  | single dataType _ hconverted hsupplements =>
    exact ⟨⟨_, hconverted⟩, hnone hsupplements⟩

/-- Columns come from flattening alone. -/
theorem strategy_of_column {conversion : CustomConversion} (h : c.resolve t = .ok conversion)
    {spec : ColumnSpec} (hspec : .column spec ∈ conversion.rendition.supplements) :
    conversion.strategy = .flatten := by
  by_contra hflat
  exact (resolve_single h hflat).2 spec hspec

/-- A lookup table has the name of its enumeration and a suffix. -/
theorem resolve_table {conversion : CustomConversion} (h : c.resolve t = .ok conversion)
    {name keyType : String} {values : List String}
    (htable : .lookupTable name keyType values ∈ conversion.rendition.supplements) :
    name = Identifier.derived t.name "values" := by
  obtain ⟨left, -, r, more, hr, heq, -⟩ := resolve_renders h
  rw [heq] at htable
  change .lookupTable name keyType values ∈ r.supplements at htable
  generalize conversion.strategy = strategy at hr
  cases hr with
  | columns => obtain ⟨_, -, ⟨⟩⟩ := List.mem_map.1 htable
  | table =>
    cases List.mem_singleton.1 htable
    rfl
  | base => obtain ⟨_, _, ⟨⟩⟩ := domainConstraints_constraint htable
  | single _ _ _ hsupplements => obtain ⟨_, _, ⟨⟩⟩ := hsupplements _ htable

end CustomConverter

end SchemaConversion
