import SchemaConversion.Proofs.Conversion.References
import SchemaConversion.Proofs.Spacing

/-!
# What lookup tables list

A lookup table takes the place of an enumeration with many values. It has the values in one
property, one behind the other with commas between them. A value may contain commas, which look the
same there as those between the values. What the property tells are the parts between all of them:

> `lookupTable_eq_iff`: two enumerations of a name have the same table exactly if their keys have
> the same type and their values have the same parts.

> `listed_lookupTable_iff`: the parts are the values exactly if no value contains a comma.

Which type the keys have depends on the longest value alone. So enumerations can have the same table
and not the same values:

> `shop_lists_collide`: two that become the same table in the same target.
-/

namespace SchemaConversion

namespace Text

variable {s s' : String} {values values' : List String}

/-- What stands between the commas of a text. -/
def commaParts (s : String) : List String := (pieces (· = ',') s.toList).map String.ofList

/-- A text without commas. -/
def IsUndivided (s : String) : Prop := ',' ∉ s.toList

instance (s : String) : Decidable (IsUndivided s) := inferInstanceAs (Decidable (_ ∉ _))

/-- Pieces between the occurrences of a character make up the text again with it. -/
theorem intercalate_pieces (x : Char) (l : List Char) : [x].intercalate (pieces (· = x) l) = l := by
  induction l with
  | nil => rfl
  | cons c l ih =>
    rw [pieces_cons]
    split
    · next hc =>
      rw [List.intercalate_cons_of_ne_nil (pieces_ne_nil _ _), ih, of_decide_eq_true hc]
      rfl
    · obtain ⟨first, rest, hpieces⟩ := List.exists_cons_of_ne_nil (pieces_ne_nil (· = x) l)
      rw [hpieces] at ih ⊢
      rw [← ih]
      cases rest <;> simp [List.intercalate_cons_cons]

/-- The parts between commas tell the text. -/
theorem commaParts_injective (h : commaParts s = commaParts s') : s = s' := by
  have hinjective : Function.Injective (List.map String.ofList) :=
    List.map_injective_iff.2 fun _ _ heq => String.ofList_inj.1 heq
  have hjoined := congrArg [','].intercalate (hinjective h)
  rw [intercalate_pieces, intercalate_pieces] at hjoined
  exact String.toList_inj.1 hjoined

/-- A text without a comma is one part. -/
theorem commaParts_of_isUndivided (h : IsUndivided s) : commaParts s = [s] := by
  have hone : pieces (· = ',') s.toList = [s.toList] :=
    pieces_eq_singleton fun c hc => decide_eq_false fun heq : c = ',' => h (heq ▸ hc)
  unfold commaParts
  rw [hone, List.map_singleton, String.ofList_toList]

/-- No part has a comma. -/
theorem isUndivided_of_mem_commaParts {part : String} (h : part ∈ commaParts s) :
    IsUndivided part := by
  obtain ⟨piece, hpiece, rfl⟩ := List.mem_map.1 h
  intro hcomma
  rw [String.toList_ofList] at hcomma
  exact absurd rfl (of_decide_eq_false (not_cut_of_mem_pieces hpiece hcomma))

/-- **Values one behind the other have their parts one behind the other.** -/
theorem commaParts_intercalate (hne : values ≠ []) :
    commaParts (",".intercalate values) = values.flatMap commaParts := by
  induction values with
  | nil => exact absurd rfl hne
  | cons value values ih =>
    by_cases hvalues : values = []
    · simp [hvalues]
    · rw [String.intercalate_cons_of_ne_nil hvalues, List.flatMap_cons, ← ih hvalues]
      unfold commaParts
      -- the comma between the first value and the rest is a place where the text is cut
      rw [← List.map_append, ← pieces_append (x := ',') (decide_eq_true rfl)]
      simp

/-- Values are told apart by their parts. -/
theorem intercalate_eq_iff (hne : values ≠ []) (hne' : values' ≠ []) :
    ",".intercalate values = ",".intercalate values' ↔
      values.flatMap commaParts = values'.flatMap commaParts := by
  rw [← commaParts_intercalate hne, ← commaParts_intercalate hne']
  exact ⟨congrArg commaParts, commaParts_injective⟩

/-- **The parts are the values** exactly if no value contains a comma. -/
theorem flatMap_commaParts_iff :
    values.flatMap commaParts = values ↔ ∀ value ∈ values, IsUndivided value := by
  constructor
  · intro h value hmem
    rw [← h] at hmem
    -- each value is a part, and a part has no comma
    obtain ⟨_, -, hpart⟩ := List.mem_flatMap.1 hmem
    exact isUndivided_of_mem_commaParts hpart
  · intro h
    induction values with
    | nil => rfl
    | cons value values ih =>
      obtain ⟨hvalue, hvalues⟩ := List.forall_mem_cons.1 h
      rw [List.flatMap_cons, commaParts_of_isUndivided hvalue, ih hvalues]
      rfl

end Text

open Text (commaParts IsUndivided)

/-! ## Tables -/

variable {name keyType keyType' : String} {values values' : List String}

/-- What an object lists in its property for values, read between the commas. -/
def SchemaObject.listed (o : SchemaObject) : List String :=
  ((o.properties.find? "values").map commaParts).getD []

/-- A lookup table lists its values with commas between them. -/
theorem lookupTable_values (name keyType : String) (values : List String) :
    (lookupTable name keyType values).properties.find? "values" =
      some (",".intercalate values) := by
  unfold lookupTable Dictionary.ofList
  simp

/-- **When two tables are the same.** -/
theorem lookupTable_eq_iff (hne : values ≠ []) (hne' : values' ≠ []) :
    lookupTable name keyType values = lookupTable name keyType' values' ↔
      keyType = keyType' ∧ values.flatMap commaParts = values'.flatMap commaParts := by
  rw [← Text.intercalate_eq_iff hne hne']
  constructor
  · intro h
    -- a table has the type of its keys in its fields and the values in a property
    have hfields := congrArg SchemaObject.fields h
    have hlists := congrArg (fun o : SchemaObject => o.properties.find? "values") h
    simp only [lookupTable_values, Option.some.injEq] at hlists
    exact ⟨by simpa [lookupTable] using hfields, hlists⟩
  · rintro ⟨rfl, hlists⟩
    unfold lookupTable
    rw [hlists]

/-- **When a table lists the values.** -/
theorem listed_lookupTable_iff (hne : values ≠ []) :
    (lookupTable name keyType values).listed = values ↔ ∀ value ∈ values, IsUndivided value := by
  unfold SchemaObject.listed
  rw [lookupTable_values, Option.map_some, Option.getD_some, Text.commaParts_intercalate hne,
    Text.flatMap_commaParts_iff]

namespace Plan

variable {p : Plan} {s t : Schema} {u : CustomType}

/-- The conversion of a type moves its values to a lookup table. -/
def Tabulates (p : Plan) (u : CustomType) : Prop :=
  ∃ c, (p.convertType u).fate = .converted c ∧ c.strategy = .lookupTable

/-- The one table that a type brings into the converted schema: if the target has a container for
tables, it is there, and its keys are strings that are long enough for the values. -/
structure Tabled (p : Plan) (t : Schema) (u : CustomType) (keyType : String)
    (values : List String) : Prop where
  definition_eq : u.definition = .enum values
  nonempty : values ≠ []
  keyType_eq : p.custom.stringColumn (CustomConverter.longest? values) = .ok keyType
  tablesOf_eq : p.tablesOf u = [lookupTable u.name keyType values]
  placed : ∀ d, p.tableContainer? = some d → lookupTable u.name keyType values ∈ t.objects d

/-- **Whose values are moved gets its table.** -/
theorem Tabulates.tabled (h : p.Tabulates u) (ht : (p.execute s).schema = some t)
    (hu : u ∈ s.types) : ∃ keyType values, p.Tabled t u keyType values := by
  obtain ⟨c, hfate, hstrategy⟩ := h
  obtain ⟨-, hresolve⟩ := convertType_converted hfate
  obtain ⟨left, -, hwith⟩ := CustomConverter.resolve_eq_ok hresolve
  obtain ⟨r, more, hr, hrendition, -⟩ := CustomConverter.resolveWith_rendition hwith
  rw [hstrategy] at hr
  obtain ⟨values, keyType, hdefinition, hne, hkey, hsupplements⟩ :=
    CustomConverter.asLookupTable_eq_ok hr
  have htables : p.tablesOf u = [lookupTable u.name keyType values] := by
    unfold tablesOf CustomConversion.tables
    rw [hfate]
    dsimp only
    rw [hrendition, hsupplements]
    rfl
  refine ⟨keyType, values, hdefinition, hne, hkey, htables, fun d hd => ?_⟩
  rw [execute_objects ht]
  unfold tablesIn
  rw [if_pos hd]
  refine List.mem_append_left _ (List.mem_flatMap.2 ⟨u, hu, ?_⟩)
  rw [htables]
  exact List.mem_singleton_self _

end Plan

/-! ## Requests -/

namespace Shop

/-- A status that has one of these values. -/
def status (values : List String) : CustomType where
  name := "status"
  definition := .enum values

/-- A conversion to documents of orders with such a status. -/
def statusRequest (values : List String) : ConversionRequest where
  schema := some { schema with types := [status values] }
  source := "postgresql"
  target := "mongodb"
  mode := some .automatic

/-- Numbers, as many as a constraint may list. -/
def numbers : List String := (List.range 64).map toString

/-- Their values are moved to a lookup table, with one more among them. -/
theorem tabulates (value : String) (hvalue : value ∈ ["open", "paid"]) :
    ∃ p s, engine.prepare (statusRequest (value :: numbers)) = .ok (p, s) ∧
      p.mode.executes = true ∧ status (value :: numbers) ∈ s.types ∧
      p.Tabulates (status (value :: numbers)) ∧ p.tableContainer? = some .collection := by
  have hall : ∀ value ∈ ["open", "paid"],
      (engine.prepare (statusRequest (value :: numbers))).toOption.any (fun x =>
        decide (x.1.mode.executes = true ∧ status (value :: numbers) ∈ x.2.types ∧
          x.1.tableContainer? = some .collection) &&
        (x.1.convertType (status (value :: numbers))).conversion?.any
          (·.strategy = .lookupTable)) = true := by decide +kernel
  obtain ⟨⟨p, s⟩, hprepare, hfacts⟩ := exists_ok (hall value hvalue)
  obtain ⟨hplan, hstrategy⟩ := Bool.and_eq_true_iff.1 hfacts
  obtain ⟨hx, hmem, hcontainer⟩ := of_decide_eq_true hplan
  obtain ⟨c, hconversion, htable⟩ := (Option.any_eq_true _ _).1 hstrategy
  exact ⟨p, s, hprepare, hx, hmem,
    ⟨c, TypeResult.conversion?_eq_some.1 hconversion, of_decide_eq_true htable⟩, hcontainer⟩

end Shop

namespace ConversionEngine

variable {e e' : ConversionEngine} {r r' : ConversionRequest} {c c' : CompletedConversion}

/-- **What lookup tables tell of enumerations.** Where two enumerations of a name are each moved to
a lookup table, the tables are the same exactly if their keys have the same type and their values
the same parts between commas. So the tables of different values differ as long as no value
contains a comma, and exactly then the values of each are found in its table. -/
theorem convert_tabulates_iff (h : e.convert r = .ok c) (hx : c.report.mode.executes = true)
    (h' : e'.convert r' = .ok c') (hx' : c'.report.mode.executes = true) :
    ∃ p s t p' s' t', e.prepare r = .ok (p, s) ∧ r.schema = some s ∧ c.schema = some t ∧
      e'.prepare r' = .ok (p', s') ∧ r'.schema = some s' ∧ c'.schema = some t' ∧
      ∀ u ∈ s.types, ∀ u' ∈ s'.types, u'.name = u.name → p.Tabulates u → p'.Tabulates u' →
        ∃ keyType values keyType' values',
          p.Tabled t u keyType values ∧ p'.Tabled t' u' keyType' values' ∧
          (lookupTable u.name keyType values = lookupTable u'.name keyType' values' ↔
            keyType = keyType' ∧ values.flatMap commaParts = values'.flatMap commaParts) ∧
          ((lookupTable u.name keyType values).listed = values ↔
            ∀ value ∈ values, IsUndivided value) ∧
          ((∀ value ∈ values, IsUndivided value) → (∀ value ∈ values', IsUndivided value) →
            values ≠ values' →
              lookupTable u.name keyType values ≠ lookupTable u'.name keyType' values') := by
  obtain ⟨p, s, hprepare, rfl⟩ := convert_eq_ok.1 h
  obtain ⟨p', s', hprepare', rfl⟩ := convert_eq_ok.1 h'
  obtain ⟨t, ht⟩ : ∃ t, (p.execute s).schema = some t := ⟨_, rfl⟩
  obtain ⟨t', ht'⟩ : ∃ t, (p'.execute s').schema = some t := ⟨_, rfl⟩
  rw [carryOut_executing hx, carryOut_executing hx']
  refine ⟨p, s, t, p', s', t', hprepare, (prepare_schema hprepare).1, ht, hprepare',
    (prepare_schema hprepare').1, ht', fun u hu u' hu' hname htabulates htabulates' => ?_⟩
  obtain ⟨keyType, values, htabled⟩ := htabulates.tabled ht hu
  obtain ⟨keyType', values', htabled'⟩ := htabulates'.tabled ht' hu'
  have hsame : lookupTable u.name keyType values = lookupTable u.name keyType' values' ↔ _ :=
    lookupTable_eq_iff htabled.nonempty htabled'.nonempty
  rw [hname]
  refine ⟨keyType, values, keyType', values', htabled, htabled', hsame,
    listed_lookupTable_iff htabled.nonempty, fun hwhole hwhole' hne heq => hne ?_⟩
  -- values without commas are their parts, and the parts are the same
  rw [← Text.flatMap_commaParts_iff.2 hwhole, ← Text.flatMap_commaParts_iff.2 hwhole']
  exact (hsame.1 heq).2

/-- Values without commas, one of them another. -/
theorem shop_lists_differ :
    ∃ c t c' t' table table',
      Shop.engine.convert (Shop.statusRequest ("open" :: Shop.numbers)) = .ok c ∧
      Shop.engine.convert (Shop.statusRequest ("paid" :: Shop.numbers)) = .ok c' ∧
      c.schema = some t ∧ c'.schema = some t' ∧
      table ∈ t.objects .collection ∧ table' ∈ t'.objects .collection ∧
      table.listed = "open" :: Shop.numbers ∧ table ≠ table' := by
  have hwhole : ∀ value ∈ "open" :: "paid" :: Shop.numbers, IsUndivided value := by decide +kernel
  have hopen : ∀ value ∈ "open" :: Shop.numbers, IsUndivided value := fun value hmem =>
    hwhole value (by simp at hmem ⊢; tauto)
  have hpaid : ∀ value ∈ "paid" :: Shop.numbers, IsUndivided value := fun value hmem =>
    hwhole value (List.mem_cons_of_mem _ hmem)
  obtain ⟨p, s, hprepare, hx, htypes, htabulates, hcontainer⟩ := Shop.tabulates "open" (by simp)
  obtain ⟨p', s', hprepare', hx', htypes', htabulates', hcontainer'⟩ :=
    Shop.tabulates "paid" (by simp)
  have h := convert_eq_ok.2 ⟨p, s, hprepare, rfl⟩
  have h' := convert_eq_ok.2 ⟨p', s', hprepare', rfl⟩
  obtain ⟨_, _, t, _, _, t', hplan, -, ht, hplan', -, ht', hall⟩ :=
    convert_tabulates_iff h hx h' hx'
  obtain ⟨rfl, rfl⟩ := prepare_unique hprepare hplan
  obtain ⟨rfl, rfl⟩ := prepare_unique hprepare' hplan'
  obtain ⟨keyType, values, keyType', values', htabled, htabled', -, hlisted, hdiffer⟩ :=
    hall _ htypes _ htypes' rfl htabulates htabulates'
  obtain rfl := CustomDefinition.enum.inj htabled.definition_eq
  obtain rfl := CustomDefinition.enum.inj htabled'.definition_eq
  have hne : "open" :: Shop.numbers ≠ "paid" :: Shop.numbers := by decide
  exact ⟨_, t, _, t', _, _, h, h', ht, ht', htabled.placed _ hcontainer,
    htabled'.placed _ hcontainer', hlisted.2 hopen, hdiffer hopen hpaid hne⟩

/-- Different values, some of them with commas, that become the same objects. -/
theorem shop_lists_collide :
    let values := "a,b" :: "c" :: Shop.numbers
    let values' := "a" :: "b,c" :: Shop.numbers
    ∃ c t c' t', Shop.engine.convert (Shop.statusRequest values) = .ok c ∧
      Shop.engine.convert (Shop.statusRequest values') = .ok c' ∧
      c.schema = some t ∧ c'.schema = some t' ∧ t.Holds "status_values" ∧
      (∀ d, t.objects d = t'.objects d) ∧ values.Nodup ∧ values'.Nodup ∧ values ≠ values' := by
  intro values values'
  have htest : (Shop.engine.convert (Shop.statusRequest values)).toOption.any (fun c =>
      (Shop.engine.convert (Shop.statusRequest values')).toOption.any fun c' =>
        c.schema.any fun t => c'.schema.any fun t' => decide
          ((∃ o ∈ t.objects .collection, o.name = "status_values") ∧
            ∀ d ∈ ContainerKind.all, t.objects d = t'.objects d)) = true := by decide +kernel
  obtain ⟨c, h, hc⟩ := exists_ok htest
  obtain ⟨c', h', hc'⟩ := exists_ok hc
  obtain ⟨t, ht, htables⟩ := (Option.any_eq_true _ _).1 hc'
  obtain ⟨t', ht', hfacts⟩ := (Option.any_eq_true _ _).1 htables
  obtain ⟨⟨o, ho, hname⟩, hsame⟩ := of_decide_eq_true hfacts
  exact ⟨c, t, c', t', h, h', ht, ht', ⟨_, o, ho, hname⟩, fun d => hsame d d.mem_all,
    by decide +kernel, by decide +kernel, by decide⟩

end ConversionEngine

end SchemaConversion
