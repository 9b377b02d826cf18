import SchemaConversion.Proofs.CustomType.Outcomes

/-!
# What the strategies have to tell

A strategy may have something to tell of itself: that a template has limitations, that conditions
are given up, that strings are not checked, or that a table needs a column for it. `Remark` lists
these remarks. None of them depends on the types that a type is made of, and all else that is told
of a conversion comes from two places:

> `rendition_tells_iff`: what is converted to the base of a domain takes over what the conversion of
> the base has to tell. No other strategy takes over anything.

> `resolve_tells_iff`: besides, there is one warning if another strategy has failed before.

So the columns of a flattened composite have the types to which those of its fields are converted,
whatever that loses, and nothing of it goes up:

> `HasColumn.mem_columns`: each field that has a native type becomes a column of the converted type.
-/

namespace SchemaConversion

namespace CustomConverter

variable {c : CustomConverter} {inner : Nested} {t : CustomType} {message : String}

/-! ## Remarks -/

/-- The conditions of a domain are given up: the template for domains has no place for them, and the
target enforces none on columns. -/
def GivesUp (c : CustomConverter) (conditions : List String) : Prop :=
  conditions ≠ [] ∧ c.target.constraints.check = false ∧
    ∃ template, StrategyChoice.native? c.target .domain = some template ∧
      template.hasPlaceholder "checks" = false

/-- What a strategy has to tell of itself about a type, whatever that is made of. -/
inductive Remark (c : CustomConverter) (t : CustomType) : CustomStrategy → String → Prop
  /-- The template for the category of the type has limitations. -/
  | limitation {message : String} {template : NativeTemplate}
      (native_eq : StrategyChoice.native? c.target t.category = some template)
      (mem : message ∈ template.limitations) : Remark c t .direct message
  /-- The conditions of a domain have no place in the target. -/
  | unenforced {baseType : String} {conditions : List String}
      (definition_eq : t.definition = .domain baseType conditions)
      (givesUp : c.GivesUp conditions) :
      Remark c t .direct ("domain constraints not enforced: " ++ " AND ".intercalate conditions)
  /-- Plain strings hold any text. -/
  | unchecked : Remark c t .asString
      ("type safety reduced: " ++ t.category.name ++ " " ++ t.name ++ " stored as a plain string")
  /-- The values of an enumeration are in a table, and fields have to refer to it. -/
  | moved {values : List String} (definition_eq : t.definition = .enum values) :
      Remark c t .lookupTable (toString values.length ++ " values moved to lookup table "
        ++ Identifier.derived t.name "values" ++ "; confirm the reference column")

/-- The conversion of the base of a domain has this to tell. -/
def TellsBase (c : CustomConverter) (t : CustomType) (message : String) : Prop :=
  ∃ baseType conditions base, t.definition = .domain baseType conditions ∧
    c.types.resolve baseType = .ok base ∧ message ∈ base.warnings

/-! ## The strategies one by one -/

/-- What fills the template of a domain has nothing to tell unless the conditions are given up. -/
theorem domainFilling_tells_iff {name baseType : String} {conditions : List String}
    {filling : Filling} (h : c.domainFilling name baseType conditions = .ok filling) :
    StrategyChoice.native? c.target .domain = some filling.template ∧
      ∀ message, message ∈ filling.warnings ↔ c.GivesUp conditions ∧
        message = "domain constraints not enforced: " ++ " AND ".intercalate conditions := by
  unfold domainFilling at h
  simp only [bind_eq_ok] at h
  obtain ⟨template, htemplate, _, -, _, -, h⟩ := h
  have hnative := template_eq_ok.1 htemplate
  -- each branch but the last one keeps the conditions somewhere, if there are any
  split at h
  · next hplaced =>
    cases h
    refine ⟨hnative, fun message => iff_of_false List.not_mem_nil ?_⟩
    rintro ⟨⟨-, -, other, hother, hunplaced⟩, -⟩
    rw [Option.some.inj (hother.symm.trans hnative), hplaced] at hunplaced
    cases hunplaced
  · next hunplaced =>
    split at h
    · next hempty =>
      cases h
      exact ⟨hnative, fun message => iff_of_false List.not_mem_nil fun hgivesUp =>
        hgivesUp.1.1 (List.isEmpty_iff.1 hempty)⟩
    · next hsome =>
      split at h
      · next hchecks =>
        cases h
        refine ⟨hnative, fun message => iff_of_false List.not_mem_nil ?_⟩
        rintro ⟨⟨-, hunchecked, -⟩, -⟩
        rw [hchecks] at hunchecked
        cases hunchecked
      · next hunchecked =>
        cases h
        refine ⟨hnative, fun message => ⟨fun hmem => ⟨⟨?_, ?_, template, hnative, ?_⟩, ?_⟩, ?_⟩⟩
        · exact fun hnil => hsome (List.isEmpty_iff.2 hnil)
        · exact Bool.eq_false_iff.2 hunchecked
        · exact Bool.eq_false_iff.2 hunplaced
        · exact List.mem_singleton.1 hmem
        · exact fun hgivesUp => List.mem_singleton.2 hgivesUp.2

/-- **What fills a template** has nothing to tell but of conditions that are given up. -/
theorem filling_tells_iff {resolve : CustomType → Except ConversionError CustomConversion}
    {filling : Filling} (h : c.filling resolve t = .ok filling) :
    StrategyChoice.native? c.target t.category = some filling.template ∧
      ∀ message, message ∈ filling.warnings ↔ ∃ baseType conditions,
        t.definition = .domain baseType conditions ∧ c.GivesUp conditions ∧
          message = "domain constraints not enforced: " ++ " AND ".intercalate conditions := by
  unfold CustomConverter.filling at h
  unfold CustomType.category
  cases hd : t.definition with
  | domain baseType conditions =>
    rw [hd] at h
    obtain ⟨hnative, htells⟩ := domainFilling_tells_iff h
    refine ⟨hnative, fun message => (htells message).trans
      ⟨fun hgivesUp => ⟨_, _, rfl, hgivesUp⟩, ?_⟩⟩
    rintro ⟨_, _, ⟨⟩, hgivesUp⟩
    exact hgivesUp
  | enum values =>
    rw [hd] at h
    dsimp only at h
    split at h
    · cases h
    · obtain ⟨template, htemplate, ⟨⟩⟩ := bind_eq_ok.1 h
      exact ⟨template_eq_ok.1 htemplate, fun _ => iff_of_false List.not_mem_nil nofun⟩
  | composite fields =>
    rw [hd] at h
    dsimp only at h
    split at h
    · cases h
    · simp only [bind_eq_ok] at h
      obtain ⟨_, -, template, htemplate, ⟨⟩⟩ := h
      exact ⟨template_eq_ok.1 htemplate, fun _ => iff_of_false List.not_mem_nil nofun⟩
  | array elementType =>
    rw [hd] at h
    simp only [bind_eq_ok] at h
    obtain ⟨_, -, template, htemplate, ⟨⟩⟩ := h
    exact ⟨template_eq_ok.1 htemplate, fun _ => iff_of_false List.not_mem_nil nofun⟩
  | range subtype =>
    rw [hd] at h
    dsimp only at h
    split at h
    · cases h
    · obtain ⟨template, htemplate, ⟨⟩⟩ := bind_eq_ok.1 h
      exact ⟨template_eq_ok.1 htemplate, fun _ => iff_of_false List.not_mem_nil nofun⟩
  | spatial geometry srid =>
    rw [hd] at h
    obtain ⟨template, htemplate, ⟨⟩⟩ := bind_eq_ok.1 h
    exact ⟨template_eq_ok.1 htemplate, fun _ => iff_of_false List.not_mem_nil nofun⟩
  | temporal baseType => rw [hd] at h; cases h
  | binary maxLength => rw [hd] at h; cases h
  | other definition => rw [hd] at h; cases h

/-- A native type comes with the limitations of its template and with conditions that are given up.
-/
theorem asNative_tells_iff {resolve : CustomType → Except ConversionError CustomConversion}
    {r : Rendition} (h : c.asNative resolve t = .ok r) :
    message ∈ r.warnings ↔ c.Remark t .direct message := by
  obtain ⟨filling, hfilling, ⟨⟩⟩ := bind_eq_ok.1 h
  obtain ⟨hnative, htells⟩ := filling_tells_iff hfilling
  rw [List.mem_append, htells message]
  constructor
  · rintro (⟨baseType, conditions, hdefinition, hgivesUp, rfl⟩ | hlimitation)
    · exact .unenforced hdefinition hgivesUp
    · exact .limitation hnative hlimitation
  · intro hremark
    cases hremark with
    | limitation hother hlimitation =>
      rw [Option.some.inj (hother.symm.trans hnative)] at hlimitation
      exact .inr hlimitation
    | unenforced hdefinition hgivesUp => exact .inl ⟨_, _, hdefinition, hgivesUp, rfl⟩

/-- Strings that are checked lose nothing. -/
theorem asConstrainedString_silent {r : Rendition} (h : c.asConstrainedString t = .ok r) :
    r.warnings = [] := by
  obtain ⟨column, x, notes, -, rfl⟩ := asConstrainedString_eq h
  rfl

/-- Strings that are not checked come with one remark. -/
theorem asPlainString_tells_iff {r : Rendition} (h : c.asPlainString t = .ok r) :
    message ∈ r.warnings ↔ c.Remark t .asString message := by
  obtain ⟨column, -, ⟨⟩⟩ := bind_eq_ok.1 h
  rw [List.mem_singleton]
  constructor
  · rintro rfl
    exact .unchecked
  · intro hremark
    cases hremark
    rfl

theorem asLookupTable_tells_iff {r : Rendition} (h : c.asLookupTable t = .ok r) :
    message ∈ r.warnings ↔ c.Remark t .lookupTable message := by
  unfold asLookupTable at h
  split at h
  · next values hdefinition =>
    split at h
    · cases h
    · obtain ⟨keyType, -, ⟨⟩⟩ := bind_eq_ok.1 h
      rw [List.mem_singleton]
      constructor
      · rintro rfl
        exact .moved hdefinition
      · intro hremark
        cases hremark with
        | moved hother =>
          rw [CustomDefinition.enum.inj (hother.symm.trans hdefinition)]
  · cases h

/-- The base of a domain brings along all that its conversion has to tell, and nothing else. -/
theorem asConstrainedBase_tells_iff {r : Rendition} (h : c.asConstrainedBase t = .ok r) :
    message ∈ r.warnings ↔ c.TellsBase t message := by
  unfold asConstrainedBase at h
  split at h
  · next baseType conditions hdefinition =>
    split at h
    · cases h
    · simp only [bind_eq_ok, about_eq_ok] at h
      obtain ⟨base, hbase, _, -, ⟨⟩⟩ := h
      constructor
      · exact fun hmessage => ⟨_, _, base, hdefinition, hbase, hmessage⟩
      · rintro ⟨_, _, other, hother, hresolve, hmessage⟩
        obtain ⟨rfl, -⟩ := CustomDefinition.domain.inj (hother.symm.trans hdefinition)
        obtain rfl := Except.ok.inj (hresolve.symm.trans hbase)
        exact hmessage
  · cases h

/-! ## The whole conversion -/

/-- **What is told of what a strategy makes**: its own remarks, and if it is the base of a domain,
what the conversion of the base has to tell. -/
theorem rendition_tells_iff {strategy : CustomStrategy} {r : Rendition}
    (h : c.rendition inner strategy t = .ok r) :
    message ∈ r.warnings ↔
      c.Remark t strategy message ∨ strategy = .checkConstraint ∧ c.TellsBase t message := by
  have hrenders := rendition_renders h
  have hsilent (hnone : r.warnings = []) (hown : ¬c.Remark t strategy message)
      (hother : strategy ≠ .checkConstraint) : message ∈ r.warnings ↔
        c.Remark t strategy message ∨ strategy = .checkConstraint ∧ c.TellsBase t message := by
    rw [hnone]
    exact iff_of_false List.not_mem_nil (not_or.2 ⟨hown, fun hbase => hother hbase.1⟩)
  cases strategy with
  | direct => exact (asNative_tells_iff (explained_eq_ok.1 h)).trans (by simp)
  | asString => exact (asPlainString_tells_iff h).trans (by simp)
  | lookupTable => exact (asLookupTable_tells_iff h).trans (by simp)
  | checkConstraint =>
    refine (asConstrainedBase_tells_iff h).trans ⟨fun htells => .inr ⟨rfl, htells⟩, ?_⟩
    rintro (hremark | ⟨-, htells⟩)
    · cases hremark
    · exact htells
  -- the other strategies are silent
  | emulateWithConstraint => exact hsilent (asConstrainedString_silent h) nofun nofun
  | asJson =>
    obtain ⟨column, -, ⟨⟩⟩ := bind_eq_ok.1 h
    exact hsilent rfl nofun nofun
  | flatten =>
    cases hrenders with
    | columns => exact hsilent rfl nofun nofun
    | single _ hne => exact absurd rfl hne.1
  | unsupported => cases h

/-- A type is converted with the levels below the uppermost one. -/
theorem resolve_below {r : CustomConversion} (h : c.resolve t = .ok r) :
    c.resolveWith (c.below 0) t = .ok r := by
  obtain ⟨left, hlevels, hwith⟩ := resolve_eq_ok h
  unfold below
  rw [hlevels]
  exact hwith

/-- The failure of another strategy has this to tell of a conversion that has fallen back. -/
def TellsFailure (c : CustomConverter) (t : CustomType) (r : CustomConversion) (message : String) :
    Prop :=
  r.usedFallback = true ∧ ∃ failure, c.apply (c.below 0) r.primaryStrategy t = .error failure ∧
    message = r.primaryStrategy.name ++ " strategy failed: " ++ failure.message

/-- **What is told of the conversion of a type**: the remarks of its strategy, what the conversion
of a base has to tell if that strategy takes it over, and the failure of another strategy before. -/
theorem resolve_tells_iff {r : CustomConversion} (h : c.resolve t = .ok r) :
    message ∈ r.rendition.warnings ↔
      (c.Remark t r.strategy message ∨ c.TellsFailure t r message) ∨
        r.strategy = .checkConstraint ∧ c.TellsBase t message := by
  obtain ⟨rendition, hr, hcases⟩ := resolveWith_cases (resolve_below h)
  rcases hcases with ⟨hprimary, heq⟩ | ⟨hfallback, -, failure, hfailed, heq⟩
  · have hnone : ¬c.TellsFailure t r message := by
      rintro ⟨hfallback, -⟩
      rw [hprimary] at hfallback
      cases hfallback
    rw [heq, rendition_tells_iff hr, or_iff_left hnone]
  · -- there is one failure only, and the warning of it is the last one
    have hfailure : message ∈ [r.primaryStrategy.name ++ " strategy failed: " ++ failure.message] ↔
        c.TellsFailure t r message := by
      rw [List.mem_singleton]
      constructor
      · exact fun hmessage => ⟨hfallback, failure, hfailed, hmessage⟩
      · rintro ⟨-, other, hother, hmessage⟩
        rw [Except.error.inj (hfailed.symm.trans hother)]
        exact hmessage
    rw [heq, List.mem_append, rendition_tells_iff hr, hfailure]
    exact or_right_comm

/-! ## Parts of native types -/

/-- A type is made of a native type that is converted like this: the base of a domain, the element
of an array, the subtype of a range or the type of a field of a composite. -/
inductive HasPart (c : CustomConverter) (t : CustomType) : TypeConversion → Prop
  | base {baseType : String} {conditions : List String} {b : TypeConversion}
      (definition_eq : t.definition = .domain baseType conditions)
      (resolves : c.types.resolve baseType = .ok b) : HasPart c t b
  | element {elementType : String} {b : TypeConversion}
      (definition_eq : t.definition = .array elementType)
      (native : CustomType.find? c.catalog elementType = none)
      (resolves : c.types.resolve elementType = .ok b) : HasPart c t b
  | subtype {subtype : String} {b : TypeConversion} (definition_eq : t.definition = .range subtype)
      (resolves : c.types.resolve subtype = .ok b) : HasPart c t b
  | field {fields : List CompositeField} {field : CompositeField} {b : TypeConversion}
      (definition_eq : t.definition = .composite fields) (mem : field ∈ fields)
      (native : CustomType.find? c.catalog field.dataType = none)
      (resolves : c.types.resolve field.dataType = .ok b) : HasPart c t b

/-- The template with the values in their places, and the name of the type. -/
def Filling.rendered (filling : Filling) (t : CustomType) : String :=
  filling.template.render (("name", t.name) :: filling.values)

/-- A type that a native template expresses is spelled by the filled template, or it keeps its name
and is created by that. Nobody has to consent. -/
theorem resolve_direct {r : CustomConversion} (h : c.resolve t = .ok r)
    (hstrategy : r.strategy = .direct) :
    r.rendition.requiresUserInput = false ∧
      ∃ filling, c.filling (c.below 0).resolve t = .ok filling ∧
        r.rendition.convertedType =
          some (if filling.template.isStatement then t.name else filling.rendered t) ∧
        r.rendition.definition =
          if filling.template.isStatement then some (filling.rendered t) else none := by
  obtain ⟨rendition, more, hr, heq, -⟩ := resolveWith_rendition (resolve_below h)
  rw [hstrategy] at hr
  obtain ⟨filling, hfilling, ⟨⟩⟩ := bind_eq_ok.1 (explained_eq_ok.1 hr)
  rw [heq]
  exact ⟨rfl, filling, hfilling, rfl, rfl⟩

/-- A reference that names no type of the catalog is spelled by the converted native type. -/
theorem spelling_native {reference spelling : String} {b : TypeConversion}
    {resolve : CustomType → Except ConversionError CustomConversion}
    (native : CustomType.find? c.catalog reference = none)
    (resolves : c.types.resolve reference = .ok b)
    (h : c.spelling resolve reference = .ok spelling) : spelling = b.converted := by
  unfold CustomConverter.spelling at h
  rw [native, resolves] at h
  exact (Except.ok.inj h).symm

/-- A text stands in a list of texts. -/
theorem infix_intercalate {text : String} {texts : List String} (separator : String)
    (h : text ∈ texts) : text.toList <:+: (separator.intercalate texts).toList := by
  rw [String.toList_intercalate]
  induction texts with
  | nil => cases h
  | cons first rest ih =>
    cases rest with
    | nil =>
      rw [List.mem_singleton.1 h]
      simp
    | cons next rest =>
      rw [List.map_cons, List.map_cons, List.intercalate_cons_cons]
      rcases List.mem_cons.1 h with rfl | h
      · exact ((List.prefix_append _ _).trans (List.prefix_append _ _)).isInfix
      · exact (ih h).trans (List.suffix_append _ _).isInfix

/-- **A template is filled with the native types of a type**, as these are converted. -/
theorem HasPart.fills {resolve : CustomType → Except ConversionError CustomConversion}
    {filling : Filling} {b : TypeConversion} (hb : c.HasPart t b)
    (h : c.filling resolve t = .ok filling) :
    ∃ value ∈ filling.values.map Prod.snd, b.converted.toList <:+: value.toList := by
  unfold CustomConverter.filling at h
  cases hb with
  | base hdefinition resolves =>
    rw [hdefinition] at h
    unfold domainFilling at h
    simp only [bind_eq_ok] at h
    obtain ⟨template, -, base, hbase, _, -, h⟩ := h
    rw [resolves] at hbase
    obtain rfl := Except.ok.inj hbase
    -- wherever the conditions go, the base comes first
    have hfirst : ∃ rest, filling.values = ("base", b.converted) :: rest := by
      split at h
      · cases h; exact ⟨_, rfl⟩
      · split at h
        · cases h; exact ⟨_, rfl⟩
        · split at h <;> (cases h; exact ⟨_, rfl⟩)
    obtain ⟨rest, hvalues⟩ := hfirst
    rw [hvalues]
    exact ⟨_, List.mem_cons_self, List.infix_rfl⟩
  | element hdefinition native resolves =>
    rw [hdefinition] at h
    simp only [bind_eq_ok] at h
    obtain ⟨spelling, hspelling, _, -, ⟨⟩⟩ := h
    rw [spelling_native native resolves hspelling]
    exact ⟨_, List.mem_cons_self, List.infix_rfl⟩
  | subtype hdefinition resolves =>
    rw [hdefinition] at h
    dsimp only at h
    rw [resolves] at h
    obtain ⟨_, -, ⟨⟩⟩ := bind_eq_ok.1 h
    exact ⟨_, List.mem_cons_self, List.infix_rfl⟩
  | field hdefinition hmem native resolves =>
    rw [hdefinition] at h
    dsimp only at h
    split at h
    · cases h
    · simp only [bind_eq_ok] at h
      obtain ⟨typed, htyped, _, -, ⟨⟩⟩ := h
      obtain ⟨text, htext, hfield⟩ := ok_of_mapM htyped hmem
      refine ⟨_, List.mem_cons_self, ?_⟩
      -- the type stands behind the name of its field
      have hspelled : b.converted.toList <:+: text.toList := by
        unfold typedField at hfield
        split at hfield
        · next spelling hspelling =>
          cases hfield
          rw [spelling_native native resolves (about_eq_ok.1 hspelling), String.toList_append]
          exact (List.suffix_append _ _).isInfix
        · cases hfield
      exact hspelled.trans (infix_intercalate ", " htext)

/-! ## Columns of native types -/

/-- A composite that is flattened has a column that is converted like this: for a field of its own
that names no type of the catalog, or for one of a composite to which a field refers. -/
inductive HasColumn (c : CustomConverter) : List CompositeField → TypeConversion → Prop
  | field {fields : List CompositeField} {field : CompositeField} {b : TypeConversion}
      (mem : field ∈ fields) (native : CustomType.find? c.catalog field.dataType = none)
      (resolves : c.types.resolve field.dataType = .ok b) : HasColumn c fields b
  | composite {fields nested : List CompositeField} {field : CompositeField} {u : CustomType}
      {b : TypeConversion} (mem : field ∈ fields)
      (names : CustomType.find? c.catalog field.dataType = some u)
      (definition_eq : u.definition = .composite nested) (inner : HasColumn c nested b) :
      HasColumn c fields b

/-- **The columns of native types have the types to which these are converted**, however many levels
further down. -/
theorem HasColumn.mem_columns {left : Nat} {fields : List CompositeField} {b : TypeConversion}
    {specs : List ColumnSpec} (hb : c.HasColumn fields b)
    (h : c.columnsAt left fields = .ok specs) :
    ∃ spec ∈ specs, spec.dataType = b.converted := by
  induction hb generalizing left specs with
  | field hmem native resolves =>
    cases left with
    | zero => rw [columnsAt] at h; cases h
    | succ left =>
      rw [columnsAt] at h
      obtain ⟨part, hpart, hsubset⟩ := fieldColumns_subset h hmem
      rcases fieldColumns_cases hpart with ⟨u, _, _, hu, -⟩ | ⟨-, dataType, hspelling, rfl⟩
      · rw [native] at hu
        cases hu
      · exact ⟨_, hsubset List.mem_cons_self, spelling_native native resolves hspelling⟩
  | composite hmem names hdefinition _ ih =>
    cases left with
    | zero => rw [columnsAt] at h; cases h
    | succ left =>
      rw [columnsAt] at h
      obtain ⟨part, hpart, hsubset⟩ := fieldColumns_subset h hmem
      rcases fieldColumns_cases hpart with ⟨u, inner, specs, hu, hinner, hspecs, rfl⟩ | ⟨hsingle, -⟩
      · obtain rfl := Option.some.inj (names.symm.trans hu)
        obtain rfl := CustomDefinition.composite.inj (hdefinition.symm.trans hinner)
        obtain ⟨spec, hspec, hconverted⟩ := ih hspecs
        exact ⟨_, hsubset (List.mem_map_of_mem hspec), hconverted⟩
      · exact absurd (congrArg CustomDefinition.category hdefinition) (hsingle _ names)

end CustomConverter

end SchemaConversion
