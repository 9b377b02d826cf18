import SchemaConversion.Proofs.Conversion.Fields
import SchemaConversion.Proofs.Expression.Placeholder

/-!
# Constraints that come with types

Where the target has no such type, the values of an enumeration and the conditions of a domain
become constraints of the objects whose fields have the type. They pass two places: the conversion
of the type writes them with a placeholder for the column, and each field puts its name there.

> `rendition_expressions`: which expressions a strategy leaves to be put on columns.

> `attaches_convertField`: what a field makes of them.

Neither place touches quoted text by itself. Together they do, if the source has written the
placeholder:

> `convert_attaches_iff`: a constraint lists the values, or is the condition with the name of the
> field for `VALUE`, exactly if the placeholder is in none of them or is the name of the field.

> `shop_literal_replaced`: a text between quotes that becomes another one.
-/

namespace SchemaConversion

open Expression (columnPlaceholder forColumn listing naming HoldsPlaceholder)

/-- The expression with a placeholder that a supplement puts on columns. -/
def Supplement.expression? : Supplement → Option String
  | .constraint _ expression => some expression
  | _ => none

/-- A supplement constrains a field by its condition with the name of the field in it. -/
theorem Field.constraintOf?_eq (f : Field) (x : Supplement) :
    f.constraintOf? x = x.expression?.map (Text.replaceText columnPlaceholder f.name) := by
  cases x <;> rfl

namespace CustomConverter

variable {c : CustomConverter} {inner : Nested} {t : CustomType}

/-- The expressions that a strategy leaves to be put on the columns of a type. -/
def expressions (c : CustomConverter) (strategy : CustomStrategy) (t : CustomType) : List String :=
  match t.definition with
  | .enum values =>
    if strategy = .emulateWithConstraint then [listing columnPlaceholder values] else []
  | .domain _ conditions => if c.movesConditions strategy then conditions.map forColumn else []
  | _ => []

/-- The constraints for a domain hold its conditions, written for a column. -/
theorem domainConstraints_expressions (domain : String) (conditions : List String) :
    (domainConstraints domain conditions).filterMap Supplement.expression? =
      conditions.map forColumn := by
  have hfirst : (domainConstraints domain conditions).filterMap Supplement.expression? =
      conditions.zipIdx.filterMap (some ∘ forColumn ∘ Prod.fst) := by
    unfold domainConstraints
    rw [List.filterMap_map]
    rfl
  rw [hfirst, List.filterMap_eq_map, ← List.map_map, List.zipIdx_map_fst]

/-- Any other strategy leaves nothing to be put on columns. -/
theorem expressions_eq_nil {strategy : CustomStrategy} (hlist : strategy ≠ .emulateWithConstraint)
    (hmove : c.movesConditions strategy = false) : c.expressions strategy t = [] := by
  unfold expressions
  split
  · exact if_neg hlist
  · rw [hmove]
    rfl
  · rfl

/-- **What a strategy leaves to be put on columns**: the list of the values, if it emulates an
enumeration with a constraint, and the conditions of a domain, if it moves them. -/
theorem rendition_expressions {strategy : CustomStrategy} {r : Rendition}
    (h : c.rendition inner strategy t = .ok r) :
    r.supplements.filterMap Supplement.expression? = c.expressions strategy t := by
  cases strategy with
  | direct =>
    obtain ⟨filling, hfilling, ⟨⟩⟩ := bind_eq_ok.1 (explained_eq_ok.1 h)
    show filling.supplements.filterMap _ = _
    rw [filling_supplements hfilling]
    unfold expressions
    cases t.definition with
    | domain baseType conditions =>
      dsimp only
      split
      · exact domainConstraints_expressions _ _
      · rfl
    | _ => rfl
  | emulateWithConstraint =>
    change c.asConstrainedString t = .ok r at h
    unfold asConstrainedString at h
    split at h
    · next values hdefinition =>
      split at h
      · cases h
      · split at h
        · cases h
        · obtain ⟨_, -, ⟨⟩⟩ := bind_eq_ok.1 h
          unfold expressions
          rw [hdefinition]
          rfl
    · cases h
  | asString =>
    obtain ⟨_, -, ⟨⟩⟩ := bind_eq_ok.1 h
    exact (expressions_eq_nil (by decide) rfl).symm
  | asJson =>
    obtain ⟨_, -, ⟨⟩⟩ := bind_eq_ok.1 h
    exact (expressions_eq_nil (by decide) rfl).symm
  | lookupTable =>
    change c.asLookupTable t = .ok r at h
    unfold asLookupTable at h
    split at h
    · split at h
      · cases h
      · obtain ⟨_, -, ⟨⟩⟩ := bind_eq_ok.1 h
        exact (expressions_eq_nil (by decide) rfl).symm
    · cases h
  | flatten =>
    change asColumns (c.columns inner) t = .ok r at h
    unfold asColumns at h
    split at h
    · obtain ⟨specs, -, ⟨⟩⟩ := bind_eq_ok.1 h
      rw [expressions_eq_nil (by decide) rfl, List.filterMap_eq_nil_iff]
      intro x hx
      obtain ⟨_, -, rfl⟩ := List.mem_map.1 hx
      rfl
    · cases h
  | checkConstraint =>
    change c.asConstrainedBase t = .ok r at h
    unfold asConstrainedBase at h
    split at h
    · next hdefinition =>
      split at h
      · cases h
      · simp only [bind_eq_ok] at h
        obtain ⟨_, -, _, -, ⟨⟩⟩ := h
        unfold expressions
        rw [hdefinition]
        exact domainConstraints_expressions _ _
    · cases h
  | unsupported => cases h

/-- The conversion of a type leaves what its strategy leaves. -/
theorem resolve_expressions {conversion : CustomConversion} (h : c.resolve t = .ok conversion) :
    conversion.rendition.supplements.filterMap Supplement.expression? =
      c.expressions conversion.strategy t := by
  obtain ⟨left, -, hwith⟩ := resolve_eq_ok h
  obtain ⟨r, more, hr, heq, -⟩ := resolveWith_rendition hwith
  rw [heq]
  show r.supplements.filterMap _ = _
  exact rendition_expressions hr

end CustomConverter

namespace Plan

variable {p : Plan} {s : Schema} {f : Field} {u : CustomType} {c : CustomConversion}

/-- A field that has a type puts its name into the expressions that are left for it. -/
theorem constraints_of_names (hs : s.validate = .ok ()) (hu : u ∈ s.types) (hnames : f.Names u)
    (hfate : (p.convertType u).fate = .converted c) (k : ObjectType) (objectName : String) :
    (p.convertField (p.fates s) k objectName f).constraints =
      (p.custom.expressions c.strategy u).map (Text.replaceText columnPlaceholder f.name) := by
  have hfollows : p.Follows s f c := ⟨u, hu, hnames, hfate⟩
  rw [hfollows.convertField hs,
    ← CustomConverter.resolve_expressions (convertType_converted hfate).2]
  show c.rendition.supplements.filterMap f.constraintOf? = _
  rw [List.map_filterMap]
  exact congrArg (List.filterMap · _) (funext f.constraintOf?_eq)

/-- The type leaves something to be put on columns: it is an enumeration that is emulated with a
constraint or a domain whose conditions are moved. -/
def Constrains (p : Plan) (u : CustomType) (c : CustomConversion) : Prop :=
  (∃ values, u.definition = .enum values ∧ c.strategy = .emulateWithConstraint) ∨
    ∃ baseType conditions, u.definition = .domain baseType conditions ∧
      p.custom.movesConditions c.strategy = true

/-- What a field adds to the constraints of its object. -/
structure Attaches (p : Plan) (s : Schema) (f : Field) (constraints : List String) : Prop where
  /-- One for an enumeration that is emulated with a constraint. It lists the values exactly if the
  placeholder is in none of them or is the name of the field. -/
  listed : ∀ u ∈ s.types, f.Names u → ∀ c values, (p.convertType u).fate = .converted c →
    c.strategy = .emulateWithConstraint → u.definition = .enum values →
      ∃ constraint, constraints = [constraint] ∧ (constraint = listing f.name values ↔
        f.name = columnPlaceholder ∨ ∀ value ∈ values, ¬HoldsPlaceholder value)
  /-- One for each condition of a domain whose conditions are moved. It is the condition with the
  name of the field for `VALUE` exactly if the placeholder is not in the condition or is the name
  of the field. -/
  moved : ∀ u ∈ s.types, f.Names u → ∀ c baseType conditions,
    (p.convertType u).fate = .converted c → p.custom.movesConditions c.strategy = true →
      u.definition = .domain baseType conditions →
        List.Forall₂ (fun condition constraint => constraint = naming f.name condition ↔
          f.name = columnPlaceholder ∨ ¬HoldsPlaceholder condition) conditions constraints
  /-- Nothing for any other type. -/
  source : constraints ≠ [] → ∃ u ∈ s.types, f.Names u ∧
    ∃ c, (p.convertType u).fate = .converted c ∧ p.Constrains u c

/-- An expression is left only by a type that constrains its columns. -/
theorem constrains_of_expressions (h : p.custom.expressions c.strategy u ≠ []) :
    p.Constrains u c := by
  unfold CustomConverter.expressions at h
  split at h
  · next values hdefinition =>
    split at h
    · next hstrategy => exact .inl ⟨values, hdefinition, hstrategy⟩
    · exact absurd rfl h
  · next baseType conditions hdefinition =>
    split at h
    · next hmoves => exact .inr ⟨baseType, conditions, hdefinition, hmoves⟩
    · exact absurd rfl h
  · exact absurd rfl h

/-- **What a field attaches.** -/
theorem attaches_convertField (hs : s.validate = .ok ()) (k : ObjectType) (objectName : String)
    (f : Field) : p.Attaches s f (p.convertField (p.fates s) k objectName f).constraints where
  listed u hu hnames c values hfate hstrategy hdefinition := by
    refine ⟨_, ?_, Expression.replaceText_listing⟩
    rw [constraints_of_names hs hu hnames hfate]
    unfold CustomConverter.expressions
    rw [hdefinition]
    simp [hstrategy]
  moved u hu hnames c baseType conditions hfate hmoves hdefinition := by
    rw [constraints_of_names hs hu hnames hfate]
    unfold CustomConverter.expressions
    rw [hdefinition]
    simp only [hmoves, if_true]
    rw [List.forall₂_map_right_iff, List.forall₂_map_right_iff, List.forall₂_same]
    exact fun _ _ => Expression.replaceText_forColumn
  source h := by
    rcases convertField_cases hs k objectName with
      ⟨c, ⟨u, hu, hnames, hfate⟩, -⟩ | ⟨u, -, -, reason, -, heq⟩ | ⟨-, heq⟩
    -- of the three ways to convert a field, that of a converted custom type alone attaches anything
    · rw [constraints_of_names hs hu hnames hfate] at h
      exact ⟨u, hu, hnames, c, hfate, constrains_of_expressions fun hnil => h (by rw [hnil]; rfl)⟩
    · rw [heq] at h
      exact absurd rfl h
    · rw [heq] at h
      rcases convertPrimitive_cases p k objectName f with ⟨b, -, hfields⟩ | ⟨error, -, hfields⟩
      · rw [hfields] at h
        exact absurd rfl h
      · rw [hfields] at h
        exact absurd rfl h

/-- The conversion of an object has the constraints of the object and what its fields attach, one
field after the other. -/
def AttachesConstraints (p : Plan) (s : Schema) (o conversion : SchemaObject) : Prop :=
  conversion.name = o.name ∧ ∃ parts : List (List String),
    conversion.constraints = o.constraints ++ parts.flatten ∧
      List.Forall₂ (p.Attaches s) o.fields parts

/-- An object gets the constraints of the custom types that its fields have. -/
theorem converted_attaches (hs : s.validate = .ok ()) (k : ContainerKind) (o : SchemaObject) :
    p.AttachesConstraints s o (p.converted (p.fates s) k o) := by
  refine ⟨converted_name o, o.fields.map fun f =>
    (p.convertField (p.fates s) k.objectType o.name f).constraints, ?_, ?_⟩
  · show o.constraints ++ (o.fields.map (p.convertField (p.fates s) k.objectType o.name)).flatMap
      FieldConversion.constraints = _
    rw [List.flatMap_map, List.flatMap_def]
  -- what a field attaches does not depend on the fields beside it
  · rw [List.forall₂_map_right_iff, List.forall₂_same]
    exact fun f _ => attaches_convertField hs k.objectType o.name f

end Plan

/-! ## Requests -/

namespace Shop

/-- An engine for two databases with tables, one of which knows no domains. -/
def checkEngine : ConversionEngine where
  registry := (Registry.empty.withDatabase Databases.postgresql).withDatabase Databases.sqlite

/-- A text under a condition. -/
def code (condition : String) : CustomType where
  name := "code"
  definition := .domain "text" [condition]

/-- Orders with a code. -/
def coded (condition : String) : Schema where
  name := "shop"
  objects := fun
    | .table => [{ name := "orders", fields := [{ name := "code", dataType := "code" }] }]
    | _ => []
  types := [code condition]

/-- A conversion of these orders to the database without domains. -/
def codeRequest (condition : String) : ConversionRequest where
  schema := some (coded condition)
  source := "postgresql"
  target := "sqlite"
  mode := some .automatic

end Shop

namespace ConversionEngine

variable {e : ConversionEngine} {r : ConversionRequest} {c : CompletedConversion}

/-- **Constraints with their literals.** Besides lookup tables the converted schema holds the
conversions of the objects that go somewhere. Each has the constraints of its object and then, field
by field, those that come with the types of the fields: for an enumeration that is emulated with a
constraint one, which lists its values, and for a domain whose conditions are moved one for each,
which is the condition with the name of the field for `VALUE` outside of quotes. So they are exactly
if the source has not written the placeholder there, unless the field has its name. -/
theorem convert_attaches_iff (h : e.convert r = .ok c) (hx : c.report.mode.executes = true) :
    ∃ p s t, e.prepare r = .ok (p, s) ∧ r.schema = some s ∧ c.schema = some t ∧
      (∀ d, t.objects d = p.tablesIn s d ++ ContainerKind.all.flatMap (p.arrivals s d)) ∧
      ∀ d k, p.destination? k = some d →
        List.Forall₂ (p.AttachesConstraints s) (p.chosen (s.objects k)) (p.arrivals s d k) :=
  convert_forall₂ (R := fun p s _ => p.AttachesConstraints s) h hx fun _ _ hprepare k o _ =>
    Plan.converted_attaches (prepare_schema hprepare).2 k o

/-- The word between quotes is kept where it is not the word `VALUE`. -/
theorem shop_literal_kept :
    ∃ c p s o, Shop.checkEngine.convert (Shop.codeRequest "VALUE <> 'value'") = .ok c ∧
      c.report.mode.executes = true ∧
      Shop.checkEngine.prepare (Shop.codeRequest "VALUE <> 'value'") = .ok (p, s) ∧
      p.arrivals s .table .table = [o] ∧ o.constraints = [naming "code" "VALUE <> 'value'"] ∧
      naming "code" "VALUE <> 'value'" = "code <> 'value'" := by
  have htest : (Shop.checkEngine.prepare (Shop.codeRequest "VALUE <> 'value'")).toOption.any
      (fun x => decide (x.1.mode.executes = true ∧ x.1.destination? .table = some .table ∧
        x.1.chosen (x.2.objects .table) =
          [{ name := "orders", fields := [{ name := "code", dataType := "code" }] }]) &&
        (x.1.convertType (Shop.code "VALUE <> 'value'")).conversion?.any fun c =>
          x.1.custom.movesConditions c.strategy) = true := by decide +kernel
  obtain ⟨⟨p, s⟩, hprepare, hfacts⟩ := exists_ok htest
  obtain ⟨hplan, hconversion⟩ := Bool.and_eq_true_iff.1 hfacts
  obtain ⟨hx, hd, hchosen⟩ := of_decide_eq_true hplan
  obtain ⟨conversion, hfate, hmoves⟩ := (Option.any_eq_true _ _).1 hconversion
  have hs : s = Shop.coded "VALUE <> 'value'" :=
    (Option.some.inj (prepare_schema hprepare).1).symm
  have h := convert_eq_ok.2 ⟨p, s, hprepare, rfl⟩
  obtain ⟨p', s', t, hprepare', -, -, -, hall⟩ := convert_attaches_iff h hx
  obtain ⟨rfl, rfl⟩ := prepare_unique hprepare hprepare'
  have harrive := hall .table .table hd
  rw [hchosen] at harrive
  obtain ⟨o, rest, ⟨-, parts, hconstraints, hparts⟩, hrest, ho⟩ :=
    List.forall₂_cons_left_iff.1 harrive
  obtain ⟨part, more, hpart, hmore, rfl⟩ := List.forall₂_cons_left_iff.1 hparts
  rw [List.forall₂_nil_left_iff.1 hrest] at ho
  rw [List.forall₂_nil_left_iff.1 hmore] at hconstraints
  have hnames : (Shop.code "VALUE <> 'value'").key = Text.lowerCase (Text.trim "code") := by
    decide +kernel
  have hmoved := hpart.moved (Shop.code "VALUE <> 'value'") (hs ▸ List.mem_singleton_self _)
    hnames conversion "text" ["VALUE <> 'value'"] (TypeResult.conversion?_eq_some.1 hfate) hmoves
    rfl
  obtain ⟨constraint, none, hiff, hnone, rfl⟩ := List.forall₂_cons_left_iff.1 hmoved
  rw [List.forall₂_nil_left_iff.1 hnone] at hconstraints
  refine ⟨_, p, s, o, h, hx, hprepare, ho, ?_, by decide +kernel⟩
  rw [hconstraints, hiff.2 (.inr (by decide +kernel))]
  rfl

/-- A text between quotes becomes another one if it is the placeholder. -/
theorem shop_literal_replaced :
    ∃ c t, Shop.checkEngine.convert (Shop.codeRequest "VALUE <> '\x7bcolumn\x7d'") = .ok c ∧
      c.report.mode.executes = true ∧ c.schema = some t ∧
      (t.objects .table).map SchemaObject.constraints = [["code <> 'code'"]] ∧
      naming "code" "VALUE <> '\x7bcolumn\x7d'" = "code <> '\x7bcolumn\x7d'" := by
  have htest : (Shop.checkEngine.convert
      (Shop.codeRequest "VALUE <> '\x7bcolumn\x7d'")).toOption.any (fun c =>
        decide (c.report.mode.executes = true) && c.schema.any fun t =>
          decide ((t.objects .table).map SchemaObject.constraints = [["code <> 'code'"]])) =
      true := by decide +kernel
  obtain ⟨c, h, hfacts⟩ := exists_ok htest
  obtain ⟨hx, hschema⟩ := Bool.and_eq_true_iff.1 hfacts
  obtain ⟨t, ht, hconstraints⟩ := (Option.any_eq_true _ _).1 hschema
  exact ⟨c, t, h, of_decide_eq_true hx, ht, of_decide_eq_true hconstraints, by decide +kernel⟩

end ConversionEngine

end SchemaConversion
