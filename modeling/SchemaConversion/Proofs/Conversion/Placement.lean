import SchemaConversion.Proofs.Conversion.Answers
import SchemaConversion.Proofs.Conversion.Fields

/-!
# Where objects are put

The objects of a container stay there if the target supports them. Otherwise another container may
stand in for theirs, and which one it is depends on the rule for their type and on what the user
answered, freely written. Only answers that were offered count, and only containers that the target
supports are offered, so there are three ways in which objects are placed (`Plan.Settles`):

> `destination?_settles`: they stay because the target supports them, they go to an alternative of
> their rule that it supports, or they stay because it supports none of the alternatives.

Lookup tables are put into a supported container too. So a container that the target does not
support holds its own objects only, and each of them is reported:

> `convert_places_safely`: the placement of a conversion is safe, whatever was answered.
-/

namespace SchemaConversion

/-- A rule lets objects through as they are exactly if the target supports their type. -/
theorem ObjectRule.action_of_eq_direct {t : ObjectType} {state? : Option SupportState} :
    (ObjectRule.of t state?).action = .direct ↔
      (state?.map SupportState.isSupported).getD false = true := by
  cases state? with
  | none => simp [ObjectRule.of]
  | some state =>
    unfold ObjectRule.of
    dsimp only
    by_cases hsupported : state.isSupported = true
    · simp [hsupported]
    · rw [if_neg hsupported]
      split <;> simp [hsupported]

/-- A warning that an object of a container is emulated. -/
def ConversionWarning.TellsEmulation (k : ContainerKind) (name : String)
    (w : ConversionWarning) : Prop :=
  w.kind = .emulation ∧ w.objectType = some k.objectType ∧ w.objectName = some name

namespace Plan

variable {p : Plan} {s t : Schema} {k d : ContainerKind}

/-! ## Decisions -/

/-- Whatever is answered, a decision falls on one of its options. -/
theorem decide_mem_options {question : PendingDecision}
    (h : question.standard ∈ question.options) :
    (p.decide question).answer ∈ question.options := by
  unfold decide
  split
  · dsimp only
    split
    · next hoption => exact List.contains_iff_mem.1 hoption
    · exact h
  · exact h

/-- The containers that are offered are alternatives that the target supports. -/
theorem mem_supportedContainers {alternatives : List ObjectType} :
    d ∈ p.supportedContainers alternatives ↔
      d.objectType ∈ alternatives ∧ p.targetFeatures.supports d.objectType = true := by
  unfold supportedContainers
  simp only [List.mem_filterMap, List.mem_filter]
  constructor
  · rintro ⟨t, hmem, hcontainer⟩
    rw [ContainerKind.objectType_eq_iff.2 hcontainer]
    exact hmem
  · intro hmem
    exact ⟨d.objectType, hmem, d.container?_objectType⟩

/-- An option sends objects to a container that was offered; if none was, they stay. -/
theorem answered_of_option {containers : List ContainerKind} {answer : String}
    (hoption : answer ∈ (p.emulationDecision k containers).options)
    (h : answered k containers answer = some d) :
    d ∈ containers ∨ (containers = [] ∧ d = k) := by
  unfold answered at h
  split at h
  · cases h
  · next hkept =>
    have hfound := Option.some.inj h
    cases hc : containers.find? (·.name == answer) with
    | some c =>
      rw [hc] at hfound
      obtain rfl : c = d := hfound
      exact .inl (List.mem_of_find?_eq_some hc)
    | none =>
      rw [hc] at hfound
      refine .inr ⟨?_, hfound.symm⟩
      -- an option that is no name of a container is there only if there are no containers
      by_contra hne
      have hnames : answer ∈ containers.map ContainerKind.name := by
        unfold emulationDecision at hoption
        dsimp only at hoption
        rw [if_neg (by simpa using hne)] at hoption
        rcases List.mem_append.1 hoption with hname | hdrop
        · exact hname
        · exact absurd (List.mem_singleton.1 hdrop) hkept
      obtain ⟨c, hmem, hname⟩ := List.mem_map.1 hnames
      exact absurd (List.find?_eq_none.1 hc c hmem) (by simp [hname])

/-! ## Containers -/

/-- Where the objects of a container may go in the target. -/
inductive Settles (p : Plan) (k : ContainerKind) : ContainerKind → Prop
  /-- They stay: the target supports them. -/
  | native (supported : p.targetFeatures.supports k.objectType = true) : Settles p k k
  /-- They go to an alternative that the target supports. -/
  | moved {d : ContainerKind} (action_eq : (p.rule k.objectType).action = .emulate)
      (listed : d.objectType ∈ (p.rule k.objectType).alternatives)
      (supported : p.targetFeatures.supports d.objectType = true) : Settles p k d
  /-- They stay: the target has no container for any alternative. -/
  | kept (action_eq : (p.rule k.objectType).action = .emulate)
      (none_supported : ∀ d : ContainerKind, d.objectType ∈ (p.rule k.objectType).alternatives →
        p.targetFeatures.supports d.objectType = false) : Settles p k k

/-- The rules of a plan are those that the states of the object types in the target dictate. -/
def HasTargetRules (p : Plan) : Prop := ∀ t, p.rule t = .of t (p.targetFeatures.support t)

/-- **Where objects go.** They stay because the target supports them, or they are emulated, by an
alternative that it supports or, if there is none, where they are. -/
theorem destination?_settles (hrules : p.HasTargetRules) (h : p.destination? k = some d) :
    p.Settles k d := by
  obtain ⟨-, hplaced⟩ := destination?_eq_some.1 h
  cases ha : (p.rule k.objectType).action with
  | direct =>
    rw [placement_direct ha] at hplaced
    obtain rfl : k = d := Option.some.inj hplaced
    rw [hrules k.objectType] at ha
    exact .native (ObjectRule.action_of_eq_direct.1 ha)
  | drop =>
    rw [placement_drop ha] at hplaced
    cases hplaced
  | emulate =>
    rw [placement_emulate ha] at hplaced
    have hoption := decide_mem_options (p := p)
      (p.emulationDecision_isSound k
        (p.supportedContainers (p.rule k.objectType).alternatives)).standard_mem
    rcases answered_of_option hoption hplaced with hd | ⟨hnone, rfl⟩
    · obtain ⟨hlisted, hsupported⟩ := mem_supportedContainers.1 hd
      exact .moved ha hlisted hsupported
    · refine .kept ha fun c hc => ?_
      by_contra hsupported
      have hmem := mem_supportedContainers.2 ⟨hc, by simpa using hsupported⟩
      rw [hnone] at hmem
      cases hmem

/-- Objects that are moved go to an alternative of their rule that the target supports. -/
theorem destination?_moved (hrules : p.HasTargetRules) (h : p.destination? k = some d)
    (hne : d ≠ k) :
    (p.rule k.objectType).action = .emulate ∧
      d.objectType ∈ (p.rule k.objectType).alternatives ∧
      p.targetFeatures.supports d.objectType = true := by
  cases destination?_settles hrules h with
  | native => exact absurd rfl hne
  | moved ha hlisted hsupported => exact ⟨ha, hlisted, hsupported⟩
  | kept => exact absurd rfl hne

/-- The target supports the container for lookup tables. -/
theorem tableContainer?_supported (h : p.tableContainer? = some d) :
    p.targetFeatures.supports d.objectType = true := by
  have hfound := List.find?_some (p := fun k : ContainerKind =>
    k.objectType.isFieldContainer && p.targetFeatures.supports k.objectType) h
  exact (Bool.and_eq_true_iff.1 hfound).2

/-- The emulated objects of a container are told about one by one. -/
theorem emulation_warnings_sublist (ha : (p.rule k.objectType).action = .emulate)
    (hd : p.destination? k = some d) :
    ((p.chosen (s.objects k)).map (p.emulationWarning k d (p.rule k.objectType))).Sublist
      (p.execute s).findings.warnings := by
  refine List.Sublist.trans ?_ (object_warnings_sublist hd)
  rw [← List.flatMap_singleton' ((p.chosen (s.objects k)).map _), List.flatMap_map]
  refine List.Sublist.flatMap_right _ fun o _ => ?_
  unfold moveObject
  dsimp only
  rw [if_pos ha]
  exact List.singleton_sublist.2 List.mem_cons_self

/-! ## The converted schema -/

/-- A container of a converted schema is fit for its objects: the target supports them, or it has
no container for any alternative and they are what becomes of the objects of the same container of
the source, with a warning for each. -/
inductive Fits (p : Plan) (s t : Schema) (warnings : List ConversionWarning) (d : ContainerKind) :
    Prop
  | supported (h : p.targetFeatures.supports d.objectType = true)
  | kept (action_eq : (p.rule d.objectType).action = .emulate)
      (none_supported : ∀ k : ContainerKind, k.objectType ∈ (p.rule d.objectType).alternatives →
        p.targetFeatures.supports k.objectType = false)
      (objects_eq : t.objects d = (p.chosen (s.objects d)).map (p.converted (p.fates s) d))
      (told : ∃ remarks : List ConversionWarning, remarks.Sublist warnings ∧
        List.Forall₂ (fun o w => w.TellsEmulation d o.name) (t.objects d) remarks)

/-- Nothing but its own objects comes to a container that the target does not support. -/
theorem arrivals_eq_nil (hrules : p.HasTargetRules)
    (hno : p.targetFeatures.supports d.objectType = false) (hne : k ≠ d) :
    p.arrivals s d k = [] := by
  unfold arrivals
  rw [if_neg]
  intro h
  rw [(destination?_moved hrules h hne.symm).2.2] at hno
  cases hno

/-- What arrives in a container that the target does not support. -/
theorem flatMap_arrivals_own (hrules : p.HasTargetRules)
    (hno : p.targetFeatures.supports d.objectType = false) :
    ContainerKind.all.flatMap (p.arrivals s d) = p.arrivals s d d := by
  have hdistinct : ContainerKind.all.Nodup := by decide
  obtain ⟨before, after, hall⟩ := List.append_of_mem d.mem_all
  rw [hall] at hdistinct ⊢
  have hno_arrival : ∀ k ∈ before ++ after, p.arrivals s d k = [] := by
    intro k hk
    refine arrivals_eq_nil hrules hno ?_
    rintro rfl
    exact (List.nodup_middle.1 hdistinct).notMem hk
  have hbefore : before.flatMap (p.arrivals s d) = [] :=
    List.flatMap_eq_nil_iff.2 fun k hk => hno_arrival k (List.mem_append_left _ hk)
  have hafter : after.flatMap (p.arrivals s d) = [] :=
    List.flatMap_eq_nil_iff.2 fun k hk => hno_arrival k (List.mem_append_right _ hk)
  rw [List.flatMap_append, List.flatMap_cons, hbefore, hafter, List.nil_append, List.append_nil]

/-- **Every container is fit for what is put into it.** -/
theorem execute_fits (hrules : p.HasTargetRules) (h : (p.execute s).schema = some t)
    (hne : t.objects d ≠ []) : p.Fits s t (p.execute s).findings.warnings d := by
  cases hsupported : p.targetFeatures.supports d.objectType with
  | true => exact .supported hsupported
  | false =>
    have htables : p.tablesIn s d = [] := by
      unfold tablesIn
      rw [if_neg]
      intro htable
      rw [tableContainer?_supported htable] at hsupported
      cases hsupported
    have hobjects : t.objects d = p.arrivals s d d := by
      rw [execute_objects h, htables, flatMap_arrivals_own hrules hsupported, List.nil_append]
    rw [hobjects] at hne
    -- since something arrives, the container is its own destination
    have hd : p.destination? d = some d := by
      by_contra hno
      exact hne (if_neg hno)
    have hown : t.objects d = (p.chosen (s.objects d)).map (p.converted (p.fates s) d) :=
      hobjects.trans (if_pos hd)
    obtain ⟨ha, hnone⟩ : (p.rule d.objectType).action = .emulate ∧
        ∀ k : ContainerKind, k.objectType ∈ (p.rule d.objectType).alternatives →
          p.targetFeatures.supports k.objectType = false := by
      cases destination?_settles hrules hd with
      | native hyes =>
        rw [hsupported] at hyes
        cases hyes
      | moved _ _ hyes =>
        rw [hsupported] at hyes
        cases hyes
      | kept ha hnone => exact ⟨ha, hnone⟩
    refine .kept ha hnone hown ⟨_, emulation_warnings_sublist ha hd, ?_⟩
    rw [hown, List.forall₂_map_left_iff, List.forall₂_map_right_iff, List.forall₂_same]
    exact fun o _ => ⟨rfl, rfl, rfl⟩

end Plan

/-! ## Requests -/

namespace Shop

/-- Orders and sessions, to be converted to a graph, which has no tables and no keyspaces. For the
orders the user wants something that is not offered. -/
def sessionsRequest : ConversionRequest where
  schema := some
    { schema with
      objects := fun
        | .table => [{ name := "orders", fields := [{ name := "status", dataType := "status" }] }]
        | .keyspace => [{ name := "sessions" }]
        | _ => [] }
  source := "postgresql"
  target := "neo4j"
  preferences := { decisions := .ofList [("emulate.table", "keyspace")] }
  mode := some .automatic

end Shop

namespace ConversionEngine

variable {e : ConversionEngine} {r : ConversionRequest} {c : CompletedConversion}

/-- **Safe placement.** What stands in a container of the converted schema are lookup tables and
the objects that go there. Either the target supports the container, or it has no container for any
alternative to it, and what stands there are the objects of the same container of the source, each
of which is reported as emulated. Objects go to a container other than their own only if their rule
lists it as an alternative and the target supports it, whatever the answers to decisions are. -/
theorem convert_places_safely (h : e.convert r = .ok c) (hx : c.report.mode.executes = true) :
    ∃ p s t, e.prepare r = .ok (p, s) ∧ r.schema = some s ∧ c.schema = some t ∧
      e.registry.requireFeatureProfile (e.registry.normalize r.target) = .ok p.targetFeatures ∧
      (∀ d, t.objects d = p.tablesIn s d ++ ContainerKind.all.flatMap (p.arrivals s d)) ∧
      (∀ d, t.objects d ≠ [] → p.Fits s t c.findings.warnings d) ∧
      ∀ k d, p.destination? k = some d → d ≠ k →
        (p.rule k.objectType).action = .emulate ∧
          d.objectType ∈ (p.rule k.objectType).alternatives ∧
          p.targetFeatures.supports d.objectType = true := by
  obtain ⟨p, s, hprepare, rfl⟩ := convert_eq_ok.1 h
  obtain ⟨t, ht⟩ : ∃ t, (p.execute s).schema = some t := ⟨_, rfl⟩
  have hrules : p.HasTargetRules := rule_of_prepare hprepare
  have hfeatures : e.registry.requireFeatureProfile (e.registry.normalize r.target) =
      .ok p.targetFeatures := by
    obtain ⟨-, _, -, -, -, _, _, _, -, -, htf, rfl⟩ := prepare_eq_ok.1 hprepare
    exact htf
  rw [carryOut_executing hx]
  exact ⟨p, s, t, hprepare, (prepare_schema hprepare).1, ht, hfeatures, p.execute_objects ht,
    fun d hne => p.execute_fits hrules ht hne, fun k d hd hne => p.destination?_moved hrules hd hne⟩

/-- The orders become nodes in spite of the answer, and the sessions stay where they are. -/
theorem shop_places_safely :
    ∃ c p s t, Shop.graphEngine.convert Shop.sessionsRequest = .ok c ∧
      c.report.mode.executes = true ∧ Shop.graphEngine.prepare Shop.sessionsRequest = .ok (p, s) ∧
      c.schema = some t ∧ p.destination? .table = some .node ∧
      p.targetFeatures.supports .node = true ∧ p.targetFeatures.supports .keyspace = false ∧
      t.objects .keyspace ≠ [] ∧ p.Fits s t c.findings.warnings .keyspace := by
  have htest : (Shop.graphEngine.prepare Shop.sessionsRequest).toOption.any (fun x =>
      decide (x.1.mode.executes = true ∧ x.1.destination? .table = some .node ∧
        x.1.targetFeatures.supports .keyspace = false ∧
        (x.1.arrivals x.2 .keyspace .keyspace).map SchemaObject.name = ["sessions"])) = true := by
    decide +kernel
  obtain ⟨⟨p, s⟩, hprepare, hfacts⟩ := exists_ok htest
  obtain ⟨hx, htable, hno, hsessions⟩ := of_decide_eq_true hfacts
  have h := convert_eq_ok.2 ⟨p, s, hprepare, rfl⟩
  obtain ⟨p', s', t, hprepare', -, ht, -, hobjects, hfits, hmoved⟩ := convert_places_safely h hx
  obtain ⟨rfl, rfl⟩ := prepare_unique hprepare hprepare'
  have hne : t.objects .keyspace ≠ [] := by
    rw [hobjects]
    intro hnil
    have harrivals := List.flatMap_eq_nil_iff.1 (List.append_eq_nil_iff.1 hnil).2 _
      (ContainerKind.mem_all .keyspace)
    rw [harrivals] at hsessions
    cases hsessions
  exact ⟨_, p, s, t, h, hx, hprepare, ht, htable, (hmoved .table .node htable (by decide)).2.2, hno,
    hne, hfits .keyspace hne⟩

end ConversionEngine

end SchemaConversion
