import SchemaConversion.Conversion.Engine
import SchemaConversion.Databases
import SchemaConversion.Proofs.Outcome

/-!
# What a request leads to before anything is converted

`prepare_eq_ok` lists all that has to go well until a plan stands, and what the plan then consists
of. Two facts follow that later proofs rest on:

> `convert_again`: in another mode and with other answers the same schema is converted, by a plan
> that differs in these two only.

> `rule_of_prepare`: every rule of the plan is the one that the state in the target dictates.
-/

namespace SchemaConversion

/-! ## Checks in front of a computation -/

/-- The computation behind a check succeeds if the check passes and the rest succeeds. -/
theorem guard_eq_ok {ε α : Type} {c : Prop} [Decidable c] {error : ε} {rest : Unit → Except ε α}
    {a : α} : (if c then throw error >>= rest else rest ()) = .ok a ↔ ¬c ∧ rest () = .ok a := by
  by_cases h : c
  · rw [if_pos h]
    constructor
    · intro hthrow
      cases hthrow
    · intro hpass
      exact absurd h hpass.1
  · rw [if_neg h]
    exact ⟨fun hrest => ⟨h, hrest⟩, And.right⟩

/-- What is done to a result does not concern a guard before it. -/
theorem map_guard {ε α β : Type} {c : Prop} [Decidable c] {error : ε} {rest : Unit → Except ε α}
    (f : α → β) :
    (if c then throw error >>= rest else rest ()).map f =
      if c then throw error >>= fun u => (rest u).map f else (rest ()).map f := by
  by_cases h : c
  · rw [if_pos h, if_pos h]
    rfl
  · rw [if_neg h, if_neg h]

/-- A check fails as it says, and the rest in its own ways. -/
theorem FailsOnly.guard {ε α : Type} {ways : ε → Prop} {c : Prop} [Decidable c] {error : ε}
    {rest : Unit → Except ε α} (herror : ways error) (hrest : FailsOnly ways (rest ())) :
    FailsOnly ways (if c then throw error >>= rest else rest ()) := by
  by_cases h : c
  · rw [if_pos h]
    exact FailsOnly.error herror
  · rw [if_neg h]
    exact hrest

/-! ## Another mode and other answers -/

/-- The request once more, in this mode and with these answers to decisions. -/
def ConversionRequest.again (r : ConversionRequest) (mode : ExecutionMode)
    (answers : Dictionary String) : ConversionRequest :=
  { r with mode := some mode, preferences := { r.preferences with decisions := answers } }

/-- The request once more, in this mode. -/
def ConversionRequest.inMode (r : ConversionRequest) (mode : ExecutionMode) : ConversionRequest :=
  { r with mode := some mode }

/-- The plan for another mode and other answers to decisions. -/
def Plan.again (p : Plan) (mode : ExecutionMode) (answers : Dictionary String) : Plan :=
  { p with mode, preferences := { p.preferences with decisions := answers } }

/-- The plan for another mode. -/
def Plan.inMode (p : Plan) (mode : ExecutionMode) : Plan := { p with mode }

theorem ConversionRequest.inMode_eq_again (r : ConversionRequest) (mode : ExecutionMode) :
    r.inMode mode = r.again mode r.preferences.decisions := rfl

theorem Plan.inMode_eq_again (p : Plan) (mode : ExecutionMode) :
    p.inMode mode = p.again mode p.preferences.decisions := rfl

theorem ConversionRequest.again_source (r : ConversionRequest) (mode : ExecutionMode)
    (answers : Dictionary String) : (r.again mode answers).source = r.source := rfl

theorem ConversionRequest.again_target (r : ConversionRequest) (mode : ExecutionMode)
    (answers : Dictionary String) : (r.again mode answers).target = r.target := rfl

/-- Two requests for the same databases, each with a valid schema. -/
structure ConversionRequest.Parallel (r r' : ConversionRequest) (s s' : Schema) : Prop where
  source_eq : r'.source = r.source
  target_eq : r'.target = r.target
  schema_eq : r.schema = some s
  schema_eq' : r'.schema = some s'
  valid : s.validate = .ok ()
  valid' : s'.validate = .ok ()

@[simp] theorem ObjectRule.objectType_of (t : ObjectType) (state? : Option SupportState) :
    (ObjectRule.of t state?).objectType = t := by
  unfold ObjectRule.of
  split
  · rfl
  · dsimp only
    split
    · rfl
    · split <;> rfl

namespace ConversionEngine

variable {e : ConversionEngine} {r : ConversionRequest} {p : Plan} {s : Schema}

/-- Whether a request is valid depends neither on the mode nor on the answers. -/
theorem validate_again (e : ConversionEngine) (r : ConversionRequest) (mode : ExecutionMode)
    (answers : Dictionary String) : e.validate (r.again mode answers) = e.validate r := rfl

/-- A plan takes over the mode and the answers, and nothing else depends on them. -/
theorem plan_again (e : ConversionEngine) (r : ConversionRequest) (mode : ExecutionMode)
    (answers : Dictionary String) (m : ConversionMatrix) (s : Schema) (st tt : TypeProfile)
    (tf : FeatureProfile) :
    e.plan (r.again mode answers) m s st tt tf = (e.plan r m s st tt tf).again mode answers := rfl

/-- Neither the mode nor the answers are looked at before the plan stands. -/
theorem prepare_again (e : ConversionEngine) (r : ConversionRequest) (mode : ExecutionMode)
    (answers : Dictionary String) :
    e.prepare (r.again mode answers) =
      (e.prepare r).map fun x => (x.1.again mode answers, x.2) := by
  unfold prepare
  simp only [map_bind, map_guard, map_pure, validate_again, plan_again,
    ConversionRequest.again_source, ConversionRequest.again_target]

/-! ## What has to go well -/

/-- A matrix passes if it is feasible or the configuration allows any. -/
theorem passes_iff {m : ConversionMatrix} :
    ¬(!m.isFeasible && e.config.engine.failOnImpossible) = true ↔
      m.isFeasible = true ∨ e.config.engine.failOnImpossible = false := by
  cases m.isFeasible <;> simp

/-- A request leads to a plan if it is valid, a matrix stands for its databases, the matrix is
possible or need not be, nobody has given up, and the profiles are there. -/
theorem prepare_eq_ok :
    e.prepare r = .ok (p, s) ↔
      e.validate r = .ok s ∧
      ∃ m, e.matrix (e.registry.normalize r.source) (e.registry.normalize r.target) = .ok m ∧
        (m.isFeasible = true ∨ e.config.engine.failOnImpossible = false) ∧
        e.cancelled = false ∧
        ∃ st tt tf,
          e.registry.requireTypeProfile (e.registry.normalize r.source) = .ok st ∧
          e.registry.requireTypeProfile (e.registry.normalize r.target) = .ok tt ∧
          e.registry.requireFeatureProfile (e.registry.normalize r.target) = .ok tf ∧
          p = e.plan r m s st tt tf := by
  unfold prepare
  simp only [bind_eq_ok, guard_eq_ok]
  constructor
  · rintro ⟨s', hvalid, m, hm, hf, hc, st, hst, tt, htt, tf, htf, heq⟩
    obtain ⟨rfl, rfl⟩ := Prod.mk.inj (Except.ok.inj heq)
    exact ⟨hvalid, m, hm, passes_iff.1 hf, by simpa using hc, st, tt, tf, hst, htt, htf, rfl⟩
  · rintro ⟨hvalid, m, hm, hf, hc, st, tt, tf, hst, htt, htf, rfl⟩
    exact ⟨s, hvalid, m, hm, passes_iff.2 hf, by simpa using hc, st, hst, tt, htt, tf, htf, rfl⟩

/-- A matrix stands only for databases that have the profiles a plan asks for. -/
theorem profiles_of_matrix {source target : String} {m : ConversionMatrix}
    (hm : e.matrix source target = .ok m) :
    ∃ (st tt : TypeProfile) (sf tf : FeatureProfile),
      e.registry.requireTypeProfile source = .ok st ∧
      e.registry.requireTypeProfile target = .ok tt ∧
      e.registry.requireFeatureProfile target = .ok tf ∧
      m.rules = sf.supportedTypes.map fun t => .of t (tf.support t) := by
  unfold matrix ConversionMatrix.generate at hm
  simp only [bind_eq_ok] at hm
  obtain ⟨_, -, _, -, sf, -, tf, htf, st, hst, tt, htt, heq⟩ := hm
  cases heq
  exact ⟨st, tt, sf, tf, hst, htt, htf, rfl⟩

/-- The checks on a request and its matrix are all there is: behind them the plan stands. -/
theorem prepare_of_checks {m : ConversionMatrix} (hs : e.validate r = .ok s)
    (hm : e.matrix (e.registry.normalize r.source) (e.registry.normalize r.target) = .ok m)
    (hf : m.isFeasible = true ∨ e.config.engine.failOnImpossible = false)
    (hc : e.cancelled = false) : ∃ p, e.prepare r = .ok (p, s) := by
  obtain ⟨st, tt, -, tf, hst, htt, htf, -⟩ := profiles_of_matrix hm
  exact ⟨_, prepare_eq_ok.2 ⟨hs, m, hm, hf, hc, st, tt, tf, hst, htt, htf, rfl⟩⟩

/-- A valid request has a schema, and that schema is valid. -/
theorem validate_eq_ok (h : e.validate r = .ok s) : r.schema = some s ∧ s.validate = .ok () := by
  unfold validate at h
  cases hs : r.schema with
  | none =>
    rw [hs] at h
    cases h
  | some schema =>
    rw [hs] at h
    simp only [bind_eq_ok, guard_eq_ok] at h
    obtain ⟨-, _, -, _, -, -, ⟨⟩, hvalid, heq⟩ := h
    cases heq
    exact ⟨rfl, hvalid⟩

/-- What is prepared is the schema of the request, and it is valid. -/
theorem prepare_schema (h : e.prepare r = .ok (p, s)) :
    r.schema = some s ∧ s.validate = .ok () :=
  validate_eq_ok (prepare_eq_ok.1 h).1

/-- A request leads to one plan at most. -/
theorem prepare_unique {p' : Plan} {s' : Schema} (h : e.prepare r = .ok (p, s))
    (h' : e.prepare r = .ok (p', s')) : p = p' ∧ s = s' :=
  Prod.mk.inj (Except.ok.inj (h.symm.trans h'))

/-! ## Another schema -/

/-- Beyond being valid, the schema does not matter for whether a request is. -/
theorem validate_parallel {r' : ConversionRequest} {s' : Schema} (h : r.Parallel r' s s') :
    e.validate r' = (e.validate r).map fun _ => s' := by
  unfold validate
  rw [h.schema_eq, h.schema_eq', h.source_eq, h.target_eq]
  simp only [map_bind, map_guard, map_pure, h.valid, h.valid']

/-- Requests for the same databases lead to plans by the same matrix and profiles, or to none for
the same reason. -/
theorem prepare_parallel {r' : ConversionRequest} {s' : Schema} (h : r.Parallel r' s s') :
    e.prepare r' = (e.prepare r).map fun x =>
      (e.plan r' x.1.matrix s' x.1.types.source x.1.types.target x.1.targetFeatures, s') := by
  unfold prepare
  rw [validate_parallel h, h.source_eq, h.target_eq]
  simp only [map_bind, map_guard, map_pure]
  cases e.validate r <;> rfl

/-! ## What a plan consists of -/

/-- The plan takes the preferences and the mode from the request, and its converter of custom types
works with its converter of types. -/
theorem plan_of_prepare (h : e.prepare r = .ok (p, s)) :
    p.preferences = r.preferences ∧ p.mode = r.mode.getD e.config.engine.defaultMode ∧
      p.custom.types = p.types := by
  obtain ⟨-, m, -, -, -, st, tt, tf, -, -, -, rfl⟩ := prepare_eq_ok.1 h
  exact ⟨rfl, rfl, rfl⟩

/-- The types that others may refer to are those of the schema, and there is a level for them. -/
theorem custom_of_prepare (h : e.prepare r = .ok (p, s)) :
    p.custom.catalog = s.types ∧ 0 < p.custom.levels := by
  obtain ⟨-, m, -, -, -, st, tt, tf, -, -, -, rfl⟩ := prepare_eq_ok.1 h
  exact ⟨rfl, Nat.lt_of_lt_of_le Nat.zero_lt_one (Nat.le_max_left _ _)⟩

/-- The replacements are those that the user prescribes. -/
theorem overrides_of_prepare (h : e.prepare r = .ok (p, s)) :
    p.types.overrides = normalizedOverrides p.preferences := by
  obtain ⟨-, m, -, -, -, st, tt, tf, -, -, -, rfl⟩ := prepare_eq_ok.1 h
  rfl

/-- Every rule of a plan is the one that the state of the object type in the target dictates,
whether the matrix lists it or not. -/
theorem rule_of_prepare (h : e.prepare r = .ok (p, s)) (t : ObjectType) :
    p.rule t = .of t (p.targetFeatures.support t) := by
  obtain ⟨-, m, hm, -, -, st, tt, tf, -, -, htf, rfl⟩ := prepare_eq_ok.1 h
  obtain ⟨_, _, sf, tf', -, -, htf', hrules⟩ := profiles_of_matrix hm
  rw [htf] at htf'
  cases htf'
  show (m.rule? t).getD (.of t (tf.support t)) = .of t (tf.support t)
  cases hr : m.rule? t with
  | none => rfl
  | some rule =>
    -- a listed rule is found under its own type, and the matrix makes it in the same way
    unfold ConversionMatrix.rule? at hr
    have ht : rule.objectType = t := by simpa using List.find?_some hr
    have hmem := List.mem_of_find?_eq_some hr
    rw [hrules] at hmem
    obtain ⟨u, -, rfl⟩ := List.mem_map.1 hmem
    rw [← ht, ObjectRule.objectType_of]
    rfl

/-! ## Outcomes -/

theorem carryOut_executing (h : p.mode.executes = true) :
    e.carryOut p s =
      { schema := (p.execute s).schema, report := e.report p s (p.execute s)
        findings := (p.execute s).findings } := by
  unfold carryOut
  rw [if_pos h]

theorem carryOut_analysing (h : p.mode.executes = false) :
    e.carryOut p s =
      { schema := (p.analyze s).schema, report := e.report p s (p.analyze s)
        findings := (p.analyze s).findings } := by
  unfold carryOut
  rw [if_neg (by simp [h])]

/-- Answering a request is carrying out its plan. -/
theorem convert_eq_map : e.convert r = (e.prepare r).map fun x => e.carryOut x.1 x.2 := by
  unfold convert
  cases e.prepare r <;> rfl

/-- **A request is answered** if a plan for it can be made, and the answer is what this leads to. -/
theorem convert_eq_ok {c : CompletedConversion} :
    e.convert r = .ok c ↔ ∃ p s, e.prepare r = .ok (p, s) ∧ e.carryOut p s = c := by
  rw [convert_eq_map, map_eq_ok]
  constructor
  · rintro ⟨⟨p, s⟩, hprepare, hcarry⟩
    exact ⟨p, s, hprepare, hcarry⟩
  · rintro ⟨p, s, hprepare, hcarry⟩
    exact ⟨(p, s), hprepare, hcarry⟩

/-- **A request fails** exactly if no plan for it can be made, and as that does. -/
theorem convert_eq_error {error : ConversionError} :
    e.convert r = .error error ↔ e.prepare r = .error error := by
  rw [convert_eq_map]
  cases e.prepare r <;> simp [Except.map]

/-- In another mode and with other answers the same schema is converted. -/
theorem convert_again (e : ConversionEngine) (r : ConversionRequest) (mode : ExecutionMode)
    (answers : Dictionary String) :
    e.convert (r.again mode answers) =
      (e.prepare r).map fun x => e.carryOut (x.1.again mode answers) x.2 := by
  rw [convert_eq_map, prepare_again, map_map]

/-- In another mode the same plan is carried through in this mode. -/
theorem convert_inMode (e : ConversionEngine) (r : ConversionRequest) (mode : ExecutionMode) :
    e.convert (r.inMode mode) = (e.prepare r).map fun x => e.carryOut (x.1.inMode mode) x.2 := by
  rw [ConversionRequest.inMode_eq_again, convert_again]
  refine map_congr fun x h => ?_
  -- the answers of the plan are those of the request, so that only the mode changes
  rw [← (plan_of_prepare h).1, ← Plan.inMode_eq_again]

end ConversionEngine

/-! ## A shop -/

namespace Shop

/-- An engine for two databases. -/
def engine : ConversionEngine where
  registry := (Registry.empty.withDatabase Databases.postgresql).withDatabase Databases.mongodb

/-- A table and a trigger, and a type with too many values to be listed in a constraint. -/
def schema : Schema where
  name := "shop"
  objects := fun
    | .table =>
      [{ name := "orders"
         fields :=
           [{ name := "id", dataType := "integer" }, { name := "status", dataType := "status" }] }]
    | .trigger => [{ name := "audit" }]
    | _ => []
  types := [{ name := "status", definition := .enum ((List.range 65).map toString) }]

/-- An interactive conversion of the schema to documents. -/
def request : ConversionRequest where
  schema := some schema
  source := "postgresql"
  target := "mongodb"
  mode := some .interactive

/-- An engine for tables and for a graph. -/
def graphEngine : ConversionEngine where
  registry := (Registry.empty.withDatabase Databases.postgresql).withDatabase Databases.neo4j

/-- Orders with a total that is a price, and a price is a composite of one amount. -/
def priced (amount : CompositeField) : Schema where
  name := "shop"
  objects := fun
    | .table => [{ name := "orders", fields := [{ name := "total", dataType := "price" }] }]
    | _ => []
  types := [{ name := "price", definition := .composite [amount] }]

/-- A conversion of these orders to a graph, where composites are flattened. -/
def graphRequest (amount : CompositeField) : ConversionRequest where
  schema := some (priced amount)
  source := "postgresql"
  target := "neo4j"
  mode := some .automatic

/-- The user is asked about the type and about the table. -/
theorem converts :
    ∃ c, engine.convert request = .ok c ∧ c.report.mode = .interactive ∧
      c.findings.pending.map (fun d => (d.standard, d.options)) =
        [("lookup_table", ["lookup_table", "skip"]), ("collection", ["collection", "drop"])] := by
  have htest : (engine.convert request).toOption.any (fun c => decide
      (c.report.mode = .interactive ∧
        c.findings.pending.map (fun d => (d.standard, d.options)) =
          [("lookup_table", ["lookup_table", "skip"]), ("collection", ["collection", "drop"])])) =
      true := by decide +kernel
  obtain ⟨c, h, hc⟩ := exists_ok htest
  exact ⟨c, h, of_decide_eq_true hc⟩

end Shop

end SchemaConversion
