import Mathlib.Logic.Relation
import SchemaConversion.Proofs.CustomType.Expansion
import SchemaConversion.Proofs.CustomType.Termination

/-!
# Composites that come back to themselves

A composite may have a field of another composite, which has a field of the first one. A catalog
like that is valid, and the limit on nesting alone keeps its conversion from going round for ever.

The composites on a circle have no expansion, since the expansion of each of them would have fewer
levels than the one before (`not_expansion`). So they cannot be flattened, however many levels there
are. Nor are they native types in the target: for that each would need the next one to be converted
to a single type, until no levels are left. What remains is JSON, which asks for nothing:

> `resolveAt_cyclic`: a composite on a circle is converted by JSON or not at all.

> `resolve_cyclic`: the conversion of any type comes to an end, and that of a composite on a circle
> fails exactly if the target has composites, or no JSON, or no type for a column of it.
-/

namespace SchemaConversion

namespace CustomType

variable {catalog : List CustomType} {t u : CustomType} {fields inner : List CompositeField}

/-- The type is a composite with a field that names another composite of the catalog. -/
def Contains (catalog : List CustomType) (t u : CustomType) : Prop :=
  ∃ fields, t.definition = .composite fields ∧
    ∃ field ∈ fields, find? catalog field.dataType = some u ∧ u.category = .composite

/-- The type is a composite that comes back to itself by fields that name composites. -/
def IsCyclic (catalog : List CustomType) (t : CustomType) : Prop :=
  Relation.TransGen (Contains catalog) t t

/-- A composite is defined by its fields. -/
theorem definition_of_category (h : t.category = .composite) :
    ∃ fields, t.definition = .composite fields := by
  unfold category at h
  cases hdefinition : t.definition with
  | composite fields => exact ⟨fields, rfl⟩
  | _ => simp [hdefinition, CustomDefinition.category] at h

/-- A composite that a field names is the root of a part of every expansion. -/
theorem mem_nestedComposites {field : CompositeField} (tree : Expansion catalog fields)
    (hmem : field ∈ fields) (names : find? catalog field.dataType = some u)
    (hdefinition : u.definition = .composite inner) : inner ∈ tree.nestedComposites := by
  induction tree with
  | nil => cases hmem
  | leaf first single others ih =>
    rcases List.mem_cons.1 hmem with rfl | hmem
    · exact absurd (congrArg CustomDefinition.category hdefinition) (single _ names)
    · exact ih hmem
  | nested first names' definition_eq tree others _ ih =>
    rcases List.mem_cons.1 hmem with rfl | hmem
    · obtain rfl := Option.some.inj (names.symm.trans names')
      obtain rfl := CustomDefinition.composite.inj (hdefinition.symm.trans definition_eq)
      exact List.mem_append_left _ List.mem_cons_self
    · exact List.mem_append_right _ (ih hmem)

/-- Whatever a composite contains has an expansion with fewer levels. -/
theorem exists_lower_of_contains (h : Relation.TransGen (Contains catalog) t u)
    (hdefinition : t.definition = .composite fields) (tree : Expansion catalog fields) :
    ∃ inner, u.definition = .composite inner ∧
      ∃ lower : Expansion catalog inner, lower.levels < tree.levels := by
  -- one step down, from whatever composite has been reached
  have hstep {t u : CustomType} {fields : List CompositeField} (h : Contains catalog t u)
      (hdefinition : t.definition = .composite fields) (tree : Expansion catalog fields) :
      ∃ inner, u.definition = .composite inner ∧
        ∃ lower : Expansion catalog inner, lower.levels < tree.levels := by
    obtain ⟨_, hfields, field, hmem, names, hcategory⟩ := h
    obtain rfl := CustomDefinition.composite.inj (hdefinition.symm.trans hfields)
    obtain ⟨inner, hinner⟩ := definition_of_category hcategory
    exact ⟨inner, hinner, tree.exists_lower (mem_nestedComposites tree hmem names hinner)⟩
  induction h with
  | single h => exact hstep h hdefinition tree
  | tail _ h ih =>
    obtain ⟨_, hmiddle, middle, hlower⟩ := ih
    obtain ⟨inner, hinner, lower, hlowest⟩ := hstep h hmiddle middle
    exact ⟨inner, hinner, lower, hlowest.trans hlower⟩

/-- **A composite on a circle has no expansion**: it would have another one with fewer levels. -/
theorem IsCyclic.not_expansion (h : IsCyclic catalog t)
    (hdefinition : t.definition = .composite fields) : IsEmpty (Expansion catalog fields) := by
  refine ⟨fun tree => ?_⟩
  obtain ⟨inner, hinner, lower, hlower⟩ := exists_lower_of_contains h hdefinition tree
  obtain rfl := CustomDefinition.composite.inj (hdefinition.symm.trans hinner)
  rw [Subsingleton.elim lower tree] at hlower
  exact Nat.lt_irrefl _ hlower

/-- A composite on a circle contains another one that is on a circle. -/
theorem IsCyclic.next (h : IsCyclic catalog t) :
    ∃ u, Contains catalog t u ∧ IsCyclic catalog u := by
  obtain ⟨u, hu, hback⟩ := Relation.TransGen.head'_iff.1 h
  exact ⟨u, hu, Relation.TransGen.tail' hback hu⟩

/-- Only composites are flattened into themselves. -/
theorem IsCyclic.category (h : IsCyclic catalog t) : t.category = .composite := by
  obtain ⟨_, ⟨fields, hdefinition, -⟩, -⟩ := h.next
  exact congrArg CustomDefinition.category hdefinition

end CustomType

namespace CustomConverter

variable {c : CustomConverter} {t u : CustomType} {left : Nat} {r : CustomConversion}
  {rendition : Rendition}

/-! ## The strategies on a circle -/

/-- A composite on a circle cannot be flattened, however many levels are left. -/
theorem rendition_flatten_cyclic (h : t.IsCyclic c.catalog)
    (hr : c.rendition ⟨c.resolveAt left, c.columnsAt left⟩ .flatten t = .ok rendition) : False := by
  cases rendition_renders hr with
  | columns notes hdefinition hspecs =>
    rw [← columnsAt] at hspecs
    obtain ⟨-, tree, -⟩ := columnsAt_expanded hspecs
    exact (h.not_expansion hdefinition).false tree
  | single _ hne => exact hne.1 rfl

/-- A native type for a composite needs the conversion of every composite that it contains. -/
theorem rendition_direct_contains {inner : Nested} (h : t.Contains c.catalog u)
    (hr : c.rendition inner .direct t = .ok rendition) :
    ∃ nested, inner.resolve u = .ok nested := by
  obtain ⟨fields, hdefinition, field, hmem, names, -⟩ := h
  obtain ⟨_, hspelling⟩ := spelling_of_composite hr hdefinition hmem
  unfold CustomConverter.spelling at hspelling
  rw [names] at hspelling
  obtain ⟨nested, hnested, -⟩ := bind_eq_ok.1 hspelling
  exact ⟨nested, hnested⟩

/-- The primary strategy for a composite: a native type if the target has composites, else JSON if
it has that, else columns. -/
theorem primary_of_composite (h : t.category = .composite) :
    (StrategyChoice.of t.definition c.target).primary =
      if c.target.customTypes.composites.isSome then .direct
      else if c.target.customTypes.json.isSome then .asJson else .flatten := by
  obtain ⟨fields, hdefinition⟩ := CustomType.definition_of_category h
  rw [hdefinition]
  rfl

/-- A composite is converted by its primary strategy or flattened. -/
theorem strategy_of_composite {inner : Nested} (h : t.category = .composite)
    (hr : c.resolveWith inner t = .ok r) :
    r.strategy = .flatten ∨ r.strategy = (StrategyChoice.of t.definition c.target).primary := by
  obtain ⟨hprimary, hmark⟩ := resolveWith_strategy hr
  obtain ⟨_, -, ⟨hnone, -⟩ | ⟨-, hstrategy, -⟩⟩ := resolveWith_cases hr
  · rw [hnone] at hmark
    rw [← hprimary]
    exact .inr (by simpa using hmark)
  · rw [h] at hstrategy
    exact .inl hstrategy

/-- **On a circle there is no way but JSON**: by induction on the levels that are left, since a
native type would need the next composite to be converted one level further down. -/
theorem resolveAt_cyclic (h : t.IsCyclic c.catalog) (hr : c.resolveAt left t = .ok r) :
    r.strategy = .asJson ∧ c.target.customTypes.composites = none ∧
      c.target.customTypes.json.isSome := by
  induction left generalizing t r with
  | zero =>
    rw [resolveAt] at hr
    cases hr
  | succ left ih =>
    rw [resolveAt] at hr
    obtain ⟨rendition, _, hrendition, -⟩ := resolveWith_rendition hr
    rcases strategy_of_composite h.category hr with hflat | hprimary
    · rw [hflat] at hrendition
      exact (rendition_flatten_cyclic h hrendition).elim
    rw [primary_of_composite h.category] at hprimary
    split at hprimary
    · next hcomposites =>
      -- the next composite on the circle would have been converted where there are composites
      obtain ⟨u, hcontains, hcyclic⟩ := h.next
      rw [hprimary] at hrendition
      obtain ⟨nested, hnested⟩ := rendition_direct_contains hcontains hrendition
      obtain ⟨-, hnone, -⟩ := ih hcyclic hnested
      rw [hnone] at hcomposites
      cases hcomposites
    · next hcomposites =>
      split at hprimary
      · next hjson => exact ⟨hprimary, by simpa using hcomposites, hjson⟩
      · rw [hprimary] at hrendition
        exact (rendition_flatten_cyclic h hrendition).elim

/-- A composite becomes JSON where there are no composites and a column can hold it. -/
theorem resolveWith_asJson {inner : Nested} {column : String} (h : t.category = .composite)
    (hcomposites : c.target.customTypes.composites = none)
    (hjson : c.target.customTypes.json.isSome) (hcolumn : c.jsonColumn = .ok column) :
    ∃ r, c.resolveWith inner t = .ok r := by
  have hprimary : (StrategyChoice.of t.definition c.target).primary = .asJson := by
    rw [primary_of_composite h, hcomposites, if_pos hjson]
    rfl
  have happlied : ∃ rendition, c.apply inner .asJson t = .ok rendition :=
    ⟨_, mapError_eq_ok.2 (bind_eq_ok.2 ⟨column, hcolumn, rfl⟩)⟩
  obtain ⟨rendition, happlied⟩ := happlied
  unfold resolveWith
  dsimp only
  rw [hprimary, happlied]
  exact ⟨_, rfl⟩

/-- **Circles come to an end and are never expanded.** Whatever the catalog and the limit, the
conversion of a type settles, with what is computed as the only answer. If the type is a composite
on a circle, it can only become JSON. It does so exactly if the target has no composites, claims to
hold JSON and has a type for it; if not, the conversion fails as that of the type, in particular
where there are composites or no JSON. -/
theorem resolve_cyclic (types : TypeConverter) (catalog : List CustomType) (depth : Nat)
    (t : CustomType) :
    let c := withDepth types catalog depth
    (∀ answer, c.Settles 0 (.type t) answer ↔ answer = c.resolve t) ∧
      (t.IsCyclic catalog →
        (∀ r, c.resolve t = .ok r → r.strategy = .asJson) ∧
        ((∃ r, c.resolve t = .ok r) ↔ c.target.customTypes.composites = none ∧
          c.target.customTypes.json.isSome ∧ ∃ column, c.jsonColumn = .ok column) ∧
        (c.target.customTypes.composites.isSome ∨ c.target.customTypes.json = none →
          ∃ reason, c.resolve t = .error (.customTypeConversion t.name reason))) := by
  intro c
  have hwith := resolve_eq_with (levels_withDepth types catalog depth) t
  refine ⟨fun answer => settles_iff, fun h => ⟨fun r hr => (resolveAt_cyclic h hr).1, ?_, ?_⟩⟩
  · constructor
    · rintro ⟨r, hr⟩
      obtain ⟨hstrategy, hcomposites, hjson⟩ := resolveAt_cyclic h hr
      rw [hwith] at hr
      obtain ⟨rendition, _, hrendition, -⟩ := resolveWith_rendition hr
      rw [hstrategy] at hrendition
      obtain ⟨column, hcolumn, -⟩ := bind_eq_ok.1 hrendition
      exact ⟨hcomposites, hjson, column, hcolumn⟩
    · rintro ⟨hcomposites, hjson, column, hcolumn⟩
      rw [hwith]
      exact resolveWith_asJson h.category hcomposites hjson hcolumn
  · intro hunfit
    cases hr : c.resolve t with
    | ok r =>
      obtain ⟨-, hcomposites, hjson⟩ := resolveAt_cyclic h hr
      rcases hunfit with hsome | hnone
      · rw [hcomposites] at hsome
        cases hsome
      · rw [hnone] at hjson
        cases hjson
    | error e =>
      rw [hwith] at hr
      obtain ⟨⟨reason, rfl⟩, -⟩ := resolveWith_eq_error hr
      exact ⟨reason, rfl⟩

end CustomConverter

/-! ## Customers and orders -/

namespace Shop

/-- A customer, with the order that was placed last. -/
def customer : CustomType where
  name := "customer"
  definition := .composite [⟨"name", "text"⟩, ⟨"last_order", "purchase"⟩]

/-- An order, with the customer who placed it. -/
def purchase : CustomType where
  name := "purchase"
  definition := .composite [⟨"total", "integer"⟩, ⟨"customer", "Customer"⟩]

/-- A catalog in which customers and orders contain each other. -/
def circle : List CustomType := [customer, purchase]

/-- A customer has an account, and that has a customer. -/
theorem customer_isCyclic : customer.IsCyclic circle := by
  refine .tail (b := purchase) (.single ?_) ?_
  · exact ⟨_, rfl, ⟨"last_order", "purchase"⟩, by decide, rfl, rfl⟩
  · exact ⟨_, rfl, ⟨"customer", "Customer"⟩, by decide, rfl, rfl⟩

/-- The conversion of the circle into a database, with this many levels. -/
def circleTo (target : DatabaseDefinition) (levels : Nat) : CustomConverter :=
  .withDepth (TypeConverter.between Databases.postgresql target) circle levels

end Shop

namespace CustomConverter

/-- Customers become JSON in MySQL. With a hundred levels they are no more native types in Oracle or
columns in Neo4j than with one. -/
theorem customer_settles :
    (∃ r, (Shop.circleTo Databases.mysql 8).resolve Shop.customer = .ok r ∧ r.strategy = .asJson) ∧
      (∃ reason, (Shop.circleTo Databases.oracle 100).resolve Shop.customer =
        .error (.customTypeConversion "customer" reason)) ∧
      ∃ reason, (Shop.circleTo Databases.neo4j 100).resolve Shop.customer =
        .error (.customTypeConversion "customer" reason) := by
  have hcyclic (target : DatabaseDefinition) (levels : Nat) :=
    (resolve_cyclic (TypeConverter.between Databases.postgresql target) Shop.circle levels
      Shop.customer).2 Shop.customer_isCyclic
  refine ⟨?_, (hcyclic _ 100).2.2 (.inl rfl), (hcyclic _ 100).2.2 (.inr rfl)⟩
  obtain ⟨hjson, hexactly, -⟩ := hcyclic Databases.mysql 8
  have hcolumn : (Shop.circleTo Databases.mysql 8).jsonColumn = .ok "json" := by decide +kernel
  obtain ⟨r, hr⟩ := hexactly.2 ⟨rfl, rfl, "json", hcolumn⟩
  exact ⟨r, hr, hjson r hr⟩

end CustomConverter

end SchemaConversion
