import SchemaConversion.Proofs.Conversion.Warnings

/-!
# What ends a request and what does not

Spellings may be unknown, types may have no equivalent, strategies may fail at any depth of a
catalog whose types refer to each other in circles or to nothing at all. None of this ends a
request. Failures come in two kinds, and the two do not mix:

> `prepare_failsOnly`: what ends a request is fatal.

> `resolve_failsOnly`: what the conversion of a single type fails by is not.

A request is answered once its plan stands, and the plan stands if the request, the matrix and the
configuration allow it. So nothing but the databases and the validity of the schema decides whether
a request succeeds:

> `convert_succeeds_iff`: this, and that each failure of a single type ends as a warning.
-/

namespace SchemaConversion

namespace ConversionError

/-- The failure ends a request. -/
def Fatal (error : ConversionError) : Prop := error.isFatal = true

/-- The failure concerns a single type. -/
def OfItem (error : ConversionError) : Prop := error.isFatal = false

end ConversionError

open ConversionError

/-! ## Failures of requests -/

namespace Schema

/-- A catalog that is not valid ends the request. -/
theorem catalogError?_fatal {seen : List String} {types : List CustomType} {error : ConversionError}
    (h : catalogError? seen types = some error) : error.Fatal := by
  induction types generalizing seen with
  | nil => cases h
  | cons t rest ih =>
    rw [catalogError?] at h
    split at h
    · cases h
      rfl
    · split at h
      · cases h
        rfl
      · exact ih h

/-- A schema that is not valid ends the request. -/
theorem validate_failsOnly (s : Schema) : FailsOnly Fatal s.validate := by
  unfold validate
  cases h : s.error? with
  | none => exact .ok ()
  | some e =>
    refine .error ?_
    unfold error? at h
    split at h
    · cases h
      rfl
    · exact catalogError?_fatal h

end Schema

namespace Registry

variable (r : Registry) (id : String)

/-- A database without capabilities ends the request. -/
theorem requireCapabilities_failsOnly : FailsOnly Fatal (r.requireCapabilities id) := by
  unfold requireCapabilities
  split
  · exact .ok _
  · exact .error rfl

theorem requireTypeProfile_failsOnly : FailsOnly Fatal (r.requireTypeProfile id) := by
  unfold requireTypeProfile
  split
  · exact .ok _
  · exact .error rfl

theorem requireFeatureProfile_failsOnly : FailsOnly Fatal (r.requireFeatureProfile id) := by
  unfold requireFeatureProfile
  split
  · exact .ok _
  · exact .error rfl

end Registry

namespace ConversionEngine

variable (e : ConversionEngine) (r : ConversionRequest)

/-- A request that is not valid is refused as a whole. -/
theorem validate_failsOnly : FailsOnly Fatal (e.validate r) := by
  unfold validate
  split
  · exact .error rfl
  · next schema _ =>
    refine .guard rfl (.bind (e.registry.requireCapabilities_failsOnly _) fun _ => ?_)
    refine .bind (e.registry.requireCapabilities_failsOnly _) fun _ => ?_
    exact .guard rfl (.bind schema.validate_failsOnly fun _ => .ok _)

/-- A matrix cannot be computed for databases that are not known, and that is fatal. -/
theorem matrix_failsOnly (source target : String) : FailsOnly Fatal (e.matrix source target) := by
  unfold matrix ConversionMatrix.generate
  refine .bind (e.registry.requireCapabilities_failsOnly _) fun _ => ?_
  refine .bind (e.registry.requireCapabilities_failsOnly _) fun _ => ?_
  refine .bind (e.registry.requireFeatureProfile_failsOnly _) fun _ => ?_
  refine .bind (e.registry.requireFeatureProfile_failsOnly _) fun _ => ?_
  refine .bind (e.registry.requireTypeProfile_failsOnly _) fun _ => ?_
  exact .bind (e.registry.requireTypeProfile_failsOnly _) fun _ => .ok _

/-- **What ends a request is fatal.** -/
theorem prepare_failsOnly : FailsOnly Fatal (e.prepare r) := by
  unfold prepare
  refine .bind (e.validate_failsOnly r) fun _ => .bind (e.matrix_failsOnly _ _) fun _ => ?_
  refine .guard rfl (.guard rfl ?_)
  refine .bind (e.registry.requireTypeProfile_failsOnly _) fun _ => ?_
  refine .bind (e.registry.requireTypeProfile_failsOnly _) fun _ => ?_
  exact .bind (e.registry.requireFeatureProfile_failsOnly _) fun _ => .ok _

end ConversionEngine

/-! ## Failures of single types -/

namespace TypeConverter

variable (c : TypeConverter)

/-- A canonical type without an equivalent is the failure of a single type. -/
theorem targetFor_failsOnly (t : CanonicalType) : FailsOnly OfItem (c.targetFor t) := by
  unfold targetFor
  split
  · exact .ok _
  · exact .error rfl

/-- What may go wrong with a spelling that is no array concerns this spelling alone. -/
theorem single_failsOnly (given normal : String) : FailsOnly OfItem (c.single given normal) := by
  unfold single
  split
  · exact .error rfl
  · split
    · exact .ok _
    · exact .bind (c.targetFor_failsOnly _) fun _ => .ok _

/-- An array that the target cannot hold is the failure of a single type. -/
theorem array_failsOnly (given element : String) (inner : TypeConversion) :
    FailsOnly OfItem (c.array given element inner) := by
  unfold array
  split
  · exact .ok _
  · exact .bind (c.targetFor_failsOnly _) fun _ => .ok _

/-- A spelling fails by its innermost element: by induction on the brackets of an array. -/
theorem resolveNormal_failsOnly (given : String) (normal : List Char) :
    FailsOnly OfItem (c.resolveNormal given normal) := by
  induction given, normal using resolveNormal_induction c with
  | blank given =>
    rw [resolveNormal_nil]
    exact .error rfl
  | prescribed given normal replacement hne hnative =>
    rw [resolveNormal_prescribed hne hnative]
    exact .ok _
  | array given normal element hnative harray ih =>
    rw [resolveNormal_array hnative harray]
    exact .bind ih fun inner => c.array_failsOnly _ _ inner
  | single given normal hne hnative harray =>
    rw [resolveNormal_single hne hnative harray]
    exact c.single_failsOnly _ _

/-- **The conversion of a native type** fails as that of a single type. -/
theorem resolve_failsOnly (spelling : String) : FailsOnly OfItem (c.resolve spelling) :=
  c.resolveNormal_failsOnly _ _

end TypeConverter

namespace CustomConverter

variable (c : CustomConverter)

/-- Whatever happens below it, a level fails by the type that is converted there. -/
theorem resolveWith_failsOnly (inner : Nested) (t : CustomType) :
    FailsOnly OfItem (c.resolveWith inner t) := by
  unfold resolveWith
  dsimp only
  split
  · exact .ok _
  · split
    · exact .error rfl
    · split
      · exact .ok _
      · exact .error rfl

/-- **The conversion of a custom type** fails as that of a single type. -/
theorem resolve_failsOnly (t : CustomType) (hlevels : 0 < c.levels) :
    FailsOnly OfItem (c.resolve t) := by
  unfold resolve
  obtain ⟨left, hleft⟩ := Nat.exists_eq_add_one_of_ne_zero hlevels.ne'
  rw [hleft, resolveAt]
  exact c.resolveWith_failsOnly _ t

end CustomConverter

/-! ## What becomes of the failures of single types -/

namespace Plan

variable {p : Plan} {s : Schema}

/-- A plan tolerates the failures of single types: they do not end the request, and there is a
warning about each type of the catalog and each field that cannot be converted. -/
structure ToleratesFailures (p : Plan) (s : Schema) (warnings : List ConversionWarning) :
    Prop where
  spellings : ∀ spelling error, p.types.resolve spelling = .error error → error.isFatal = false
  types : ∀ t error, p.custom.resolve t = .error error → error.isFatal = false
  types_told : ∀ t ∈ s.types, p.excludes t = false → ∀ error,
    p.custom.resolve t = .error error → ∃ w ∈ warnings, TellsOfType t error.message w
  fields_told : ∀ k d, p.destination? k = some d → ∀ o ∈ p.chosen (s.objects k), ∀ f ∈ o.fields,
    p.Inconvertible s f → ∃ w ∈ warnings, IsKeptBy k.objectType o.name f w

/-- **No failure of a single type is lost.** -/
theorem execute_tolerates (hs : s.validate = .ok ()) (hlevels : 0 < p.custom.levels) :
    p.ToleratesFailures s (p.execute s).findings.warnings where
  spellings spelling := p.types.resolve_failsOnly spelling
  types t := p.custom.resolve_failsOnly t hlevels
  types_told t ht hx error herror := by
    have htold : ∃ w ∈ (p.convertType t).findings.warnings, TellsOfType t error.message w := by
      -- the type is dropped, and the warning about this gives the failure as its reason
      rw [convertType_failed hx herror]
      exact ⟨_, List.mem_singleton_self _, rfl, rfl, rfl, rfl⟩
    obtain ⟨w, hw, htells⟩ := htold
    exact ⟨w, mem_warnings_of_type ht hw, htells⟩
  fields_told k d hd o ho f hf hno := by
    -- each field is accounted for, and if it is not converted by the warning that it keeps its type
    have hconserves : p.Conserves s k.objectType o.name (p.execute s).findings.warnings f _ :=
      convertField_conserves hs fun w hw => mem_warnings_of_field hd ho hf hw
    exact (hconserves.reported hno).2

end Plan

/-! ## Requests -/

namespace Shop

/-- Orders with a type that is unknown, one that refers to itself, and one that refers to nothing,
an override and an answer that make no sense. -/
def brokenRequest : ConversionRequest where
  schema := some
    { name := "shop"
      objects := fun
        | .table =>
          [{ name := "orders"
             fields :=
               [{ name := "total", dataType := "numeric((" }, { name := "part", dataType := "loop" },
                 { name := "owner", dataType := "ghost" }] }]
        | _ => []
      types :=
        [{ name := "loop", definition := .composite [⟨"next", "loop"⟩] },
          { name := "ghost", definition := .composite [⟨"body", "nobody"⟩] }] }
  source := "postgresql"
  target := "neo4j"
  preferences :=
    { typeOverrides := .ofList [("integer", "")], decisions := .ofList [("emulate.table", "attic")] }
  mode := some .automatic

end Shop

namespace ConversionEngine

variable {e : ConversionEngine} {r : ConversionRequest}

/-- **What decides whether a request succeeds.** If nobody gives up, a request succeeds exactly if
it is valid, there is a matrix for its databases, and the matrix is possible or need not be. So of
two requests for the same databases, each with a valid schema, both succeed or none does, whatever
types the fields have, how custom types refer to each other, and what the preferences are. A
request fails by what is fatal only, and if it is carried out, failures of single types are told in
warnings. -/
theorem convert_succeeds_iff (hc : e.cancelled = false) :
    ((∃ c, e.convert r = .ok c) ↔
      (∃ s, e.validate r = .ok s) ∧
        ∃ m, e.matrix (e.registry.normalize r.source) (e.registry.normalize r.target) = .ok m ∧
          (m.complexity ≠ .impossible ∨ e.config.engine.failOnImpossible = false)) ∧
    (∀ r' s s', r.Parallel r' s s' →
      ((∃ c, e.convert r' = .ok c) ↔ ∃ c, e.convert r = .ok c)) ∧
    (∀ error, e.convert r = .error error → error.isFatal = true) ∧
    ∀ c, e.convert r = .ok c → c.report.mode.executes = true →
      ∃ p s, e.prepare r = .ok (p, s) ∧ r.schema = some s ∧
        p.ToleratesFailures s c.findings.warnings := by
  have hfeasible (m : ConversionMatrix) : m.isFeasible = true ↔ m.complexity ≠ .impossible := by
    simp [ConversionMatrix.isFeasible]
  refine ⟨⟨?_, ?_⟩, ?_, ?_, ?_⟩
  · rintro ⟨c, h⟩
    obtain ⟨p, s, hprepare, -⟩ := convert_eq_ok.1 h
    obtain ⟨hvalid, m, hm, hpasses, -⟩ := prepare_eq_ok.1 hprepare
    exact ⟨⟨s, hvalid⟩, m, hm, hpasses.imp_left (hfeasible m).1⟩
  · rintro ⟨⟨s, hvalid⟩, m, hm, hpasses⟩
    obtain ⟨p, hprepare⟩ := prepare_of_checks hvalid hm (hpasses.imp_left (hfeasible m).2) hc
    exact ⟨_, convert_eq_ok.2 ⟨p, s, hprepare, rfl⟩⟩
  · intro r' s s' hparallel
    rw [convert_eq_map, convert_eq_map, prepare_parallel hparallel, map_map]
    cases e.prepare r <;> simp [Except.map]
  · intro error h
    exact e.prepare_failsOnly r error (convert_eq_error.1 h)
  · intro c h hx
    obtain ⟨p, s, hprepare, rfl⟩ := convert_eq_ok.1 h
    obtain ⟨hschema, hvalid⟩ := prepare_schema hprepare
    rw [carryOut_executing hx]
    exact ⟨p, s, hprepare, hschema, p.execute_tolerates hvalid (custom_of_prepare hprepare).2⟩

/-- The orders are converted, and what is wrong with the type that refers to itself is told. -/
theorem shop_succeeds :
    Shop.graphEngine.cancelled = false ∧
      ∃ c, Shop.graphEngine.convert Shop.brokenRequest = .ok c ∧
        ∃ w ∈ c.findings.warnings, w.kind = .customType ∧ w.objectName = some "loop" := by
  have hc : Shop.graphEngine.cancelled = false := rfl
  have htest : (Shop.graphEngine.prepare Shop.brokenRequest).toOption.any (fun x =>
      decide (x.1.mode.executes = true) && x.2.types.any fun t =>
        decide (t.name = "loop" ∧ x.1.excludes t = false) &&
          (x.1.custom.resolve t).toOption.isNone) = true := by decide +kernel
  obtain ⟨⟨p, s⟩, hprepare, hfacts⟩ := exists_ok htest
  obtain ⟨hx, hloop⟩ := Bool.and_eq_true_iff.1 hfacts
  obtain ⟨t, ht, hloop⟩ := List.any_eq_true.1 hloop
  obtain ⟨hloop, hfails⟩ := Bool.and_eq_true_iff.1 hloop
  obtain ⟨hname, hincluded⟩ := of_decide_eq_true hloop
  obtain ⟨hvalid, m, hm, hpasses, -⟩ := prepare_eq_ok.1 hprepare
  obtain ⟨hsucceeds, -, -, htolerates⟩ := convert_succeeds_iff (r := Shop.brokenRequest) hc
  obtain ⟨c, h⟩ := hsucceeds.2 ⟨⟨s, hvalid⟩, m, hm,
    hpasses.imp_left fun hfeasible => by simpa [ConversionMatrix.isFeasible] using hfeasible⟩
  have hexecutes : c.report.mode.executes = true := by
    obtain ⟨p', s', hprepare', rfl⟩ := convert_eq_ok.1 h
    obtain ⟨rfl, rfl⟩ := prepare_unique hprepare hprepare'
    exact of_decide_eq_true hx
  obtain ⟨p', s', hprepare', -, htold⟩ := htolerates c h hexecutes
  obtain ⟨rfl, rfl⟩ := prepare_unique hprepare hprepare'
  cases hresolve : p.custom.resolve t with
  | ok conversion =>
    rw [hresolve] at hfails
    cases hfails
  | error error =>
    obtain ⟨w, hw, hkind, -, hsubject, -⟩ := htold.types_told t ht hincluded error hresolve
    exact ⟨hc, c, h, w, hw, hkind, hname ▸ hsubject⟩

end ConversionEngine

end SchemaConversion
