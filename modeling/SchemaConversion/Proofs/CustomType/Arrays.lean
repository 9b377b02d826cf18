import SchemaConversion.Proofs.Template
import SchemaConversion.Proofs.CustomType.Nesting
import SchemaConversion.Proofs.TypeConversion.Brackets

/-!
# Two ways to an array

An array is spelled by its element with brackets behind it, or it is a custom type that names its
element. Either way finds by itself what the element is converted into, and both fill one template
with it:

> `resolve_array_agrees`: a custom array is a native type, spelled like its element with brackets.
-/

namespace SchemaConversion

namespace CustomConverter

variable {c : CustomConverter} {template : NativeTemplate} {element name : String}
  {inner : TypeConversion}

/-- A type that a native template expresses is converted by it. -/
theorem resolve_native {t : CustomType} {rendition : Rendition} (hlevels : 0 < c.levels)
    (htemplate : StrategyChoice.native? c.target t.category = some template)
    (hnative : ∀ resolve, c.asNative resolve t = .ok rendition) :
    ∃ conversion, c.resolve t = .ok conversion ∧ conversion.strategy = .direct ∧
      conversion.primaryStrategy = .direct ∧ conversion.usedFallback = false ∧
      conversion.rendition = rendition := by
  obtain ⟨left, hleft⟩ := Nat.exists_eq_add_one_of_ne_zero hlevels.ne'
  -- a native template comes first wherever there is one
  have hprimary : (StrategyChoice.of t.definition c.target).primary = .direct := by
    unfold StrategyChoice.of
    unfold CustomType.category at htemplate
    rw [htemplate]
    rfl
  have hdirect (inner : Nested) : c.apply inner .direct t = .ok rendition := by
    unfold apply
    show ((explained (c.asNative inner.resolve t)).mapError _) = _
    rw [hnative]
    rfl
  unfold resolve
  rw [hleft, resolveAt]
  unfold resolveWith
  simp only [hprimary, hdirect]
  exact ⟨_, rfl, rfl, rfl, rfl, rfl⟩

/-- A custom array fills the template with its converted element. -/
theorem asNative_array (htemplate : c.target.customTypes.arrays = some template)
    (hinline : template.isStatement = false)
    (hcatalog : CustomType.find? c.catalog element = none)
    (hinner : c.types.resolve element = .ok inner)
    (resolve : CustomType → Except ConversionError CustomConversion) :
    c.asNative resolve ⟨name, .array element⟩ =
      .ok
        { convertedType := some (template.render [("name", name), ("element", inner.converted)])
          warnings := template.limitations } := by
  have hspelling : c.spelling resolve element = .ok inner.converted := by
    unfold CustomConverter.spelling
    rw [hcatalog]
    show (c.types.resolve element).map TypeConversion.converted = _
    rw [hinner]
    rfl
  have hfilling : c.filling resolve ⟨name, .array element⟩ =
      .ok { template, values := [("element", inner.converted)] } := by
    unfold CustomConverter.filling
    show (c.spelling resolve element >>= fun _ => c.template .array >>= fun _ => _) = _
    have hnative : StrategyChoice.native? c.target .array = some template := htemplate
    rw [hspelling, template_eq_ok.2 hnative]
    rfl
  unfold asNative
  rw [hfilling]
  simp only [bind, Except.bind, hinline]
  rfl

/-- A template that stands for an array by its element spells arrays. -/
theorem arrayTemplate?_of_inline {types : TypeConverter}
    (htemplate : types.target.customTypes.arrays = some template)
    (hinline : template.isStatement = false)
    (helement : template.hasPlaceholder "element" = true) :
    types.arrayTemplate? = some template := by
  unfold TypeConverter.arrayTemplate?
  rw [htemplate, Option.filter_some, helement, hinline]
  rfl

/-- **Both ways to an array agree.** Where a target spells arrays by their elements, a custom array
of a type that is converted and that is no type of the catalog is a native type, whatever its name
and without falling back, and its spelling is the conversion of the element with brackets behind it,
which is converted too. The exception are brackets for which something is prescribed, so there is
none in a conversion without prescriptions. -/
theorem resolve_array_agrees {types : TypeConverter}
    (htemplate : types.target.customTypes.arrays = some template)
    (hinline : template.isStatement = false) (helement : template.hasPlaceholder "element" = true)
    (hname : template.hasPlaceholder "name" = false) {catalog : List CustomType}
    (hcatalog : CustomType.find? catalog element = none)
    (hnative : types.replacement? (TypeName.normalize (element ++ "[]")) = none)
    (hinner : types.resolve element = .ok inner) (depth : Nat) (name : String) :
    ∃ conversion b,
      (withDepth types catalog depth).resolve ⟨name, .array element⟩ = .ok conversion ∧
      conversion.strategy = .direct ∧ conversion.primaryStrategy = .direct ∧
      conversion.usedFallback = false ∧ types.resolve (element ++ "[]") = .ok b ∧
      conversion.rendition.convertedType = some b.converted := by
  obtain ⟨b, hb, hconverted⟩ := TypeConverter.resolve_brackets
    (arrayTemplate?_of_inline htemplate hinline helement) hnative hinner
  have hlevels : 0 < (withDepth types catalog depth).levels := Nat.le_max_left 1 depth
  obtain ⟨conversion, hconversion, hstrategy, hprimary, hfallback, hrendition⟩ :=
    resolve_native hlevels (t := ⟨name, .array element⟩) htemplate
      (asNative_array htemplate hinline hcatalog hinner)
  refine ⟨conversion, b, hconversion, hstrategy, hprimary, hfallback, hb, ?_⟩
  -- the template has no place for a name, so the name of the custom type is not used
  rw [hrendition, hconverted, NativeTemplate.render_cons_of_absent hname]

/-- Lists of lists of amounts are the same in both ways. -/
theorem amount_lists_agree :
    let types := TypeConverter.between Databases.postgresql Databases.neo4j
    let catalog : List CustomType := [⟨"amount", .domain "numeric(10,2)" ["VALUE >= 0"]⟩]
    ∃ conversion b,
      (withDepth types catalog 0).resolve ⟨"amounts", .array "NUMERIC ( 10, 2 ) [] "⟩ =
        .ok conversion ∧
      conversion.strategy = .direct ∧ conversion.usedFallback = false ∧
      types.resolve ("NUMERIC ( 10, 2 ) [] " ++ "[]") = .ok b ∧
      b.converted = "LIST<LIST<float>>" ∧
      conversion.rendition.convertedType = some b.converted := by
  intro types catalog
  obtain ⟨template, htemplate, hinline, helement, hname, hlist⟩ :
      ∃ template, types.target.customTypes.arrays = some template ∧ template.isStatement = false ∧
        template.hasPlaceholder "element" = true ∧ template.hasPlaceholder "name" = false ∧
        template.render [("element", "LIST<float>")] = "LIST<LIST<float>>" :=
    ⟨_, rfl, by decide +kernel⟩
  have hcatalog : CustomType.find? catalog "NUMERIC ( 10, 2 ) [] " = none := by decide +kernel
  have hnative := TypeConverter.replacement?_eq_none (c := types) rfl
  have htest : (types.resolve "NUMERIC ( 10, 2 ) [] ").toOption.any
      (fun inner => inner.converted = "LIST<float>") = true := by decide +kernel
  obtain ⟨inner, hinner, hspelled⟩ := exists_ok htest
  obtain ⟨conversion, b, hconversion, hstrategy, -, hfallback, hb, hagree⟩ :=
    resolve_array_agrees htemplate hinline helement hname hcatalog (hnative _) hinner 0 "amounts"
  have harrays : types.arrayTemplate? = some template := arrayTemplate?_of_inline htemplate hinline
    helement
  obtain ⟨b', hb', hfilled⟩ := TypeConverter.resolve_brackets harrays (hnative _) hinner
  obtain rfl := Except.ok.inj (hb.symm.trans hb')
  rw [of_decide_eq_true hspelled, hlist] at hfilled
  exact ⟨conversion, b, hconversion, hstrategy, hfallback, hb, hfilled, hagree⟩

end CustomConverter

end SchemaConversion
