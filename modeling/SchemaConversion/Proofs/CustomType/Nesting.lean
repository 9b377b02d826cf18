import SchemaConversion.Databases
import SchemaConversion.Proofs.CustomType.Rendition

/-!
# What nested conversions have to tell

A composite is spelled by the conversions of the types that its fields name, and an array by that of
its elements. Such a conversion may carry constraints and warnings of its own, but only its spelling
goes up. Whatever the levels below have to tell, the enclosing conversion tells nothing but its own:

> `resolveAt_own`: it carries no constraint, and its warnings are the limitations of its template
> or, if it has fallen back, the reason for that.

> `resolveAt_retains_iff`: so it retains what a nested conversion has to tell exactly if that is no
> constraint and none but these warnings, or if one of these happens to say that something is not
> enforced.

> `price_drops_condition`: an amount that must not be negative loses this condition as part of a
> price, and nothing says so.
-/

namespace SchemaConversion

namespace CustomConversion

/-- A warning says that something is not enforced. -/
def TellsUnenforced (r : CustomConversion) : Prop :=
  ∃ w ∈ r.rendition.warnings, Text.containsText "not enforced" w = true

/-- All constraints and warnings of a nested conversion are those of the enclosing one too, or a
warning says that something is not enforced. -/
def Retains (r nested : CustomConversion) : Prop :=
  r.TellsUnenforced ∨
    (∀ x ∈ nested.rendition.supplements, x.IsConstraint → x ∈ r.rendition.supplements) ∧
      ∀ w ∈ nested.rendition.warnings, w ∈ r.rendition.warnings

end CustomConversion

namespace CustomConverter

variable {c : CustomConverter} {t u : CustomType} {left : Nat} {r nested : CustomConversion}

/-! ## Where nested conversions are used -/

/-- A column of a composite that is flattened with this many levels left has the type to which
another type of the catalog is converted. -/
inductive SpellsColumn (c : CustomConverter) : Nat → List CompositeField → CustomConversion → Prop
  /-- A field names a type that is not flattened into it. -/
  | field {left : Nat} {fields : List CompositeField} {field : CompositeField} {u : CustomType}
      {nested : CustomConversion} (mem : field ∈ fields)
      (names : CustomType.find? c.catalog field.dataType = some u)
      (single : u.category ≠ .composite) (resolves : c.resolveAt left u = .ok nested) :
      SpellsColumn c (left + 1) fields nested
  /-- A field names another composite, and a column of that is spelled so. -/
  | composite {left : Nat} {fields inner : List CompositeField} {field : CompositeField}
      {u : CustomType} {nested : CustomConversion} (mem : field ∈ fields)
      (names : CustomType.find? c.catalog field.dataType = some u)
      (definition_eq : u.definition = .composite inner) (spells : SpellsColumn c left inner nested) :
      SpellsColumn c (left + 1) fields nested

/-- The conversion of a type by a strategy, with this many levels below it, spells a field or the
element by the conversion of another type of the catalog. -/
inductive Spells (c : CustomConverter) (left : Nat) (t : CustomType) :
    CustomStrategy → CustomConversion → Prop
  | field {fields : List CompositeField} {field : CompositeField} {u : CustomType}
      {nested : CustomConversion} (definition_eq : t.definition = .composite fields)
      (mem : field ∈ fields) (names : CustomType.find? c.catalog field.dataType = some u)
      (resolves : c.resolveAt left u = .ok nested) : Spells c left t .direct nested
  | element {reference : String} {u : CustomType} {nested : CustomConversion}
      (definition_eq : t.definition = .array reference)
      (names : CustomType.find? c.catalog reference = some u)
      (resolves : c.resolveAt left u = .ok nested) : Spells c left t .direct nested
  | column {fields : List CompositeField} {nested : CustomConversion}
      (definition_eq : t.definition = .composite fields)
      (spells : c.SpellsColumn (left + 1) fields nested) : Spells c left t .flatten nested

/-! ## What goes up -/

/-- A reference to another type is spelled by what that is converted to. -/
theorem spelling_named {resolve : CustomType → Except ConversionError CustomConversion}
    {reference spelling : String} (names : CustomType.find? c.catalog reference = some u)
    (resolves : resolve u = .ok nested) (h : c.spelling resolve reference = .ok spelling) :
    nested.rendition.convertedType = some spelling := by
  unfold CustomConverter.spelling at h
  rw [names] at h
  dsimp only at h
  rw [resolves] at h
  cases hc : nested.rendition.convertedType with
  | none =>
    rw [bind_eq_ok] at h
    obtain ⟨_, ⟨⟩, h⟩ := h
    rw [hc] at h
    cases h
  | some name =>
    rw [bind_eq_ok] at h
    obtain ⟨_, ⟨⟩, h⟩ := h
    rw [hc] at h
    cases h
    rfl

/-- What a nested conversion is spelled by is the type of a column. -/
theorem SpellsColumn.mem_columns {fields : List CompositeField} {specs : List ColumnSpec}
    (hn : c.SpellsColumn left fields nested) (h : c.columnsAt left fields = .ok specs) :
    ∃ spec ∈ specs, nested.rendition.convertedType = some spec.dataType := by
  induction hn generalizing specs with
  | field hmem names single resolves =>
    rw [columnsAt] at h
    obtain ⟨part, hpart, hsubset⟩ := fieldColumns_subset h hmem
    rcases fieldColumns_cases hpart with
      ⟨u, _, _, hu, hdefinition, -⟩ | ⟨-, dataType, hspelling, rfl⟩
    · obtain rfl := Option.some.inj (names.symm.trans hu)
      exact absurd (congrArg CustomDefinition.category hdefinition) single
    · exact ⟨_, hsubset List.mem_cons_self, spelling_named names resolves hspelling⟩
  | composite hmem names hdefinition _ ih =>
    rw [columnsAt] at h
    obtain ⟨part, hpart, hsubset⟩ := fieldColumns_subset h hmem
    rcases fieldColumns_cases hpart with
      ⟨u, inner, specs, hu, hinner, hspecs, rfl⟩ | ⟨hsingle, -⟩
    · obtain rfl := Option.some.inj (names.symm.trans hu)
      obtain rfl := CustomDefinition.composite.inj (hdefinition.symm.trans hinner)
      obtain ⟨spec, hspec, hspelling⟩ := ih hspecs
      exact ⟨_, hsubset (List.mem_map_of_mem hspec), hspelling⟩
    · exact absurd (congrArg CustomDefinition.category hdefinition) (hsingle _ names)

/-- A native type for a composite spells the type of each of its fields. -/
theorem spelling_of_composite {inner : Nested} {rendition : Rendition}
    {fields : List CompositeField} {field : CompositeField}
    (hr : c.rendition inner .direct t = .ok rendition)
    (hdefinition : t.definition = .composite fields) (hmem : field ∈ fields) :
    ∃ spelling, c.spelling inner.resolve field.dataType = .ok spelling := by
  obtain ⟨filling, hfilling, -⟩ := bind_eq_ok.1 (explained_eq_ok.1 hr)
  unfold CustomConverter.filling at hfilling
  rw [hdefinition] at hfilling
  dsimp only at hfilling
  split at hfilling
  · cases hfilling
  · obtain ⟨typed, htyped, -⟩ := bind_eq_ok.1 hfilling
    obtain ⟨_, -, htext⟩ := ok_of_mapM htyped hmem
    unfold typedField at htext
    split at htext
    · next spelling hspelling => exact ⟨spelling, about_eq_ok.1 hspelling⟩
    · cases htext

/-- What a nested conversion is spelled by goes up. -/
theorem Spells.convertedType {strategy : CustomStrategy} {rendition : Rendition}
    (hn : c.Spells left t strategy nested)
    (hr : c.rendition ⟨c.resolveAt left, c.columnsAt left⟩ strategy t = .ok rendition) :
    ∃ spelling, nested.rendition.convertedType = some spelling ∧
      (strategy = .flatten → ∃ suffix, .column ⟨suffix, spelling⟩ ∈ rendition.supplements) := by
  cases hn with
  | field hdefinition hmem names resolves =>
    obtain ⟨spelling, hspelling⟩ := spelling_of_composite hr hdefinition hmem
    exact ⟨spelling, spelling_named names resolves hspelling, nofun⟩
  | element hdefinition names resolves =>
    obtain ⟨filling, hfilling, -⟩ := bind_eq_ok.1 (explained_eq_ok.1 hr)
    unfold CustomConverter.filling at hfilling
    rw [hdefinition] at hfilling
    obtain ⟨spelling, hspelling, -⟩ := bind_eq_ok.1 hfilling
    exact ⟨spelling, spelling_named names resolves hspelling, nofun⟩
  | column hdefinition hspells =>
    cases rendition_renders hr with
    | columns notes hfields hspecs =>
      obtain rfl := CustomDefinition.composite.inj (hdefinition.symm.trans hfields)
      rw [← columnsAt] at hspecs
      obtain ⟨⟨suffix, dataType⟩, hspec, hspelling⟩ := hspells.mem_columns hspecs
      exact ⟨dataType, hspelling, fun _ => ⟨suffix, List.mem_map_of_mem hspec⟩⟩
    | single _ hne => exact absurd rfl hne.1

/-! ## What an enclosing conversion tells -/

/-- There is a template for a category exactly if the target expresses it. -/
theorem template_eq_ok {category : CustomCategory} {template : NativeTemplate} :
    c.template category = .ok template ↔
      StrategyChoice.native? c.target category = some template := by
  unfold CustomConverter.template
  cases StrategyChoice.native? c.target category <;> simp

/-- What fills the template of a composite or an array is a spelling and nothing else. -/
theorem filling_spelled {resolve : CustomType → Except ConversionError CustomConversion}
    {filling : Filling} (h : c.filling resolve t = .ok filling)
    (hmade : t.category = .composite ∨ t.category = .array) :
    filling.supplements = [] ∧ filling.warnings = [] ∧
      StrategyChoice.native? c.target t.category = some filling.template := by
  unfold CustomConverter.filling at h
  unfold CustomType.category at hmade ⊢
  cases hd : t.definition with
  | composite fields =>
    rw [hd] at h
    dsimp only at h
    split at h
    · cases h
    · simp only [bind_eq_ok] at h
      obtain ⟨_, -, template, htemplate, ⟨⟩⟩ := h
      exact ⟨rfl, rfl, template_eq_ok.1 htemplate⟩
  | array reference =>
    rw [hd] at h
    simp only [bind_eq_ok] at h
    obtain ⟨_, -, template, htemplate, ⟨⟩⟩ := h
    exact ⟨rfl, rfl, template_eq_ok.1 htemplate⟩
  | _ => simp [hd, CustomDefinition.category] at hmade

/-- The limitations of the template by which a strategy expresses a type, if it uses one. -/
def limitations (c : CustomConverter) (strategy : CustomStrategy) (t : CustomType) : List String :=
  if strategy = .direct then
    ((StrategyChoice.native? c.target t.category).map NativeTemplate.limitations).getD []
  else []

/-- A rendition that spells parts by other conversions carries no constraint, and it warns of the
limitations of its template alone. -/
theorem rendition_own {strategy : CustomStrategy} {rendition : Rendition}
    (hr : c.rendition ⟨c.resolveAt left, c.columnsAt left⟩ strategy t = .ok rendition)
    (hn : c.Spells left t strategy nested) :
    (∀ x ∈ rendition.supplements, ¬x.IsConstraint) ∧
      rendition.warnings = c.limitations strategy t := by
  have hnative (hmade : t.category = .composite ∨ t.category = .array)
      (hr : explained (c.asNative (c.resolveAt left) t) = .ok rendition) :
      (∀ x ∈ rendition.supplements, ¬x.IsConstraint) ∧
        rendition.warnings = c.limitations .direct t := by
    obtain ⟨filling, hfilling, ⟨⟩⟩ := bind_eq_ok.1 (explained_eq_ok.1 hr)
    obtain ⟨hsupplements, hwarnings, htemplate⟩ := filling_spelled hfilling hmade
    unfold limitations
    dsimp only
    rw [hsupplements, hwarnings, if_pos rfl, htemplate]
    exact ⟨fun x hx => absurd hx List.not_mem_nil, rfl⟩
  cases hn with
  | field hdefinition => exact hnative (.inl (congrArg CustomDefinition.category hdefinition)) hr
  | element hdefinition => exact hnative (.inr (congrArg CustomDefinition.category hdefinition)) hr
  | column =>
    cases rendition_renders hr with
    | columns =>
      refine ⟨fun x hx => ?_, rfl⟩
      obtain ⟨_, -, rfl⟩ := List.mem_map.1 hx
      rintro ⟨_, _, ⟨⟩⟩
    | single _ hne => exact absurd rfl hne.1

/-- A conversion has been made by the primary strategy, or by the one to fall back on after that
failed, with a warning that says why. -/
theorem resolveWith_cases {inner : Nested} (h : c.resolveWith inner t = .ok r) :
    ∃ rendition, c.rendition inner r.strategy t = .ok rendition ∧
      ((r.usedFallback = false ∧ r.rendition = rendition) ∨
        (r.usedFallback = true ∧ r.strategy = StrategyChoice.fallbackFor t.category ∧
          ∃ failure, c.apply inner r.primaryStrategy t = .error failure ∧
            r.rendition = { rendition with warnings := rendition.warnings ++
              [r.primaryStrategy.name ++ " strategy failed: " ++ failure.message] })) := by
  unfold resolveWith at h
  dsimp only at h
  split at h
  · next rendition hr =>
    cases h
    exact ⟨rendition, mapError_eq_ok.1 hr, .inl ⟨by simp, rfl⟩⟩
  · next failure hfailed =>
    split at h
    · cases h
    · next hdiffer =>
      split at h
      · next rendition hr =>
        cases h
        exact ⟨rendition, mapError_eq_ok.1 hr,
          .inr ⟨by simpa using fun hsame => hdiffer hsame.symm, rfl, failure, hfailed, rfl⟩⟩
      · cases h

/-- A conversion with this many levels below it has no constraint to tell of, and it warns of the
limitations of its template or, if it has fallen back on columns, of what failed before. -/
structure TellsOwn (c : CustomConverter) (left : Nat) (t : CustomType) (r : CustomConversion) :
    Prop where
  unconstrained : ∀ x ∈ r.rendition.supplements, ¬x.IsConstraint
  warnings_eq :
    (r.usedFallback = false ∧ r.rendition.warnings = c.limitations r.strategy t) ∨
      (r.usedFallback = true ∧ r.strategy = .flatten ∧ ∃ failure,
        c.apply ⟨c.resolveAt left, c.columnsAt left⟩ r.primaryStrategy t = .error failure ∧
          r.rendition.warnings =
            [r.primaryStrategy.name ++ " strategy failed: " ++ failure.message])

/-- **What an enclosing conversion tells is its own.** -/
theorem resolveAt_own (h : c.resolveAt (left + 1) t = .ok r)
    (hn : c.Spells left t r.strategy nested) : c.TellsOwn left t r := by
  rw [resolveAt] at h
  obtain ⟨rendition, hr, hcases⟩ := resolveWith_cases h
  obtain ⟨hnone, hwarnings⟩ := rendition_own hr hn
  rcases hcases with ⟨hprimary, heq⟩ | ⟨hfallback, hstrategy, failure, hfailed, heq⟩
  · refine ⟨?_, .inl ⟨hprimary, ?_⟩⟩ <;> rw [heq]
    · exact hnone
    · exact hwarnings
  · -- nothing falls back on a native template, so that there are no limitations
    have hflat : r.strategy = .flatten := by
      generalize r.strategy = strategy at hn hstrategy
      cases hn with
      | column => rfl
      | _ => cases hc : t.category <;> rw [hc] at hstrategy <;> cases hstrategy
    rw [hflat] at hwarnings
    refine ⟨?_, .inr ⟨hfallback, hflat, failure, hfailed, ?_⟩⟩ <;> rw [heq]
    · exact hnone
    · dsimp only
      rw [hwarnings]
      rfl

/-- **What is retained of nested conversions.** Whenever the conversion of a composite or an array
spells a part by the conversion of another type, it takes over the spelling and tells nothing but
its own. So it retains what that conversion has to tell only if this is no constraint and no warning
that it does not give itself, unless it happens to warn of something that is not enforced. -/
theorem resolveAt_retains_iff (h : c.resolveAt (left + 1) t = .ok r)
    (hn : c.Spells left t r.strategy nested) :
    (∃ spelling, nested.rendition.convertedType = some spelling ∧
        (r.strategy = .flatten → ∃ suffix, .column ⟨suffix, spelling⟩ ∈ r.rendition.supplements)) ∧
      c.TellsOwn left t r ∧
      (r.Retains nested ↔ r.TellsUnenforced ∨
        (∀ x ∈ nested.rendition.supplements, ¬x.IsConstraint) ∧
          ∀ w ∈ nested.rendition.warnings, w ∈ r.rendition.warnings) := by
  have hown := resolveAt_own h hn
  refine ⟨?_, hown, or_congr_right (and_congr_left' ?_)⟩
  · rw [resolveAt] at h
    obtain ⟨rendition, more, hr, heq, -⟩ := resolveWith_rendition h
    obtain ⟨spelling, hspelling, hcolumn⟩ := hn.convertedType hr
    rw [heq]
    exact ⟨spelling, hspelling, hcolumn⟩
  · constructor
    · exact fun hretained x hx hconstraint => hown.unconstrained x (hretained x hx hconstraint)
        hconstraint
    · exact fun hnone x hx hconstraint => absurd hconstraint (hnone x hx)

end CustomConverter

/-! ## A price -/

namespace Shop

/-- An amount in whole units under some conditions. -/
def amount (conditions : List String) : CustomType where
  name := "amount"
  definition := .domain "integer" conditions

/-- A price, which is made of an amount. -/
def price : CustomType where
  name := "price"
  definition := .composite [⟨"amount", "amount"⟩]

/-- A conversion of prices to a database that has composites but no domains. -/
def converter (conditions : List String) : CustomConverter :=
  .withDepth { source := Databases.postgresql.types, target := Databases.oracle.types }
    [amount conditions, price] 8

end Shop

namespace CustomConverter

/-- Without a condition on the amount nothing is lost. -/
theorem price_retains_amount :
    ∃ r nested, (Shop.converter []).resolveAt 8 Shop.price = .ok r ∧
      (Shop.converter []).Spells 7 Shop.price r.strategy nested ∧ r.Retains nested := by
  have htest : ((Shop.converter []).resolveAt 8 Shop.price).toOption.any (fun r =>
      ((Shop.converter []).resolveAt 7 (Shop.amount [])).toOption.any fun nested =>
        decide (r.strategy = .direct ∧ nested.rendition.supplements = [] ∧
          nested.rendition.warnings = [])) = true := by decide +kernel
  obtain ⟨r, h, htest⟩ := exists_ok htest
  obtain ⟨nested, hnested, hfacts⟩ := exists_ok htest
  obtain ⟨hdirect, hsupplements, hwarnings⟩ := of_decide_eq_true hfacts
  have hn : (Shop.converter []).Spells 7 Shop.price r.strategy nested := by
    rw [hdirect]
    exact .field rfl List.mem_cons_self rfl hnested
  refine ⟨r, nested, h, hn, (resolveAt_retains_iff h hn).2.2.2 (.inr ?_)⟩
  rw [hsupplements, hwarnings]
  exact ⟨fun x hx => absurd hx List.not_mem_nil, fun w hw => absurd hw List.not_mem_nil⟩

/-- The condition that an amount is not negative becomes a constraint where an amount stands alone.
A price is spelled by the amount and has neither the constraint nor any warning. -/
theorem price_drops_condition :
    ∃ r nested, (Shop.converter ["VALUE >= 0"]).resolve Shop.price = .ok r ∧
      (Shop.converter ["VALUE >= 0"]).Spells 7 Shop.price r.strategy nested ∧
      nested.rendition.supplements =
        [.constraint "amount_check" (Expression.columnPlaceholder ++ " >= 0")] ∧
      r.rendition.supplements = [] ∧ r.rendition.warnings = [] ∧ ¬r.Retains nested := by
  have htest : ((Shop.converter ["VALUE >= 0"]).resolve Shop.price).toOption.any (fun r =>
      ((Shop.converter ["VALUE >= 0"]).resolveAt 7 (Shop.amount ["VALUE >= 0"])).toOption.any
        fun nested => decide (r.strategy = .direct ∧
          nested.rendition.supplements =
            [.constraint "amount_check" (Expression.columnPlaceholder ++ " >= 0")] ∧
          r.rendition.supplements = [] ∧ r.rendition.warnings = [])) = true := by decide +kernel
  obtain ⟨r, h, htest⟩ := exists_ok htest
  obtain ⟨nested, hnested, hfacts⟩ := exists_ok htest
  obtain ⟨hdirect, hcondition, hsupplements, hwarnings⟩ := of_decide_eq_true hfacts
  have hn : (Shop.converter ["VALUE >= 0"]).Spells 7 Shop.price r.strategy nested := by
    rw [hdirect]
    exact .field rfl List.mem_cons_self rfl hnested
  refine ⟨r, nested, h, hn, hcondition, hsupplements, hwarnings, ?_⟩
  rintro (⟨w, hw, -⟩ | ⟨hconstraints, -⟩)
  · rw [hwarnings] at hw
    cases hw
  · rw [hcondition, hsupplements] at hconstraints
    cases hconstraints _ List.mem_cons_self ⟨_, _, rfl⟩

end CustomConverter

end SchemaConversion
