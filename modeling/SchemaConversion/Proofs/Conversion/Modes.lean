import SchemaConversion.Proofs.Conversion.Preparation
import SchemaConversion.Proofs.Conversion.Questions

/-!
# Conversions that settle their questions alike

A conversion depends on the mode and on the answers through its questions only:

> `execute_settled`: two plans that differ in mode and answers, and that settle each question alike,
> lead to the same conversion up to the questions that they leave open.

Both plans run side by side, and what one step needs of the question that belongs to it is an
assumption about that question alone; `settled` forgets the one thing in which the steps may differ.
The modes are a case of this, since a question is settled alike in all of them.
-/

namespace SchemaConversion

/-! ## Results without open questions -/

/-- The decision without the question that it leaves open. -/
def Plan.Decision.settled (d : Plan.Decision) : Plan.Decision :=
  { d with findings := d.findings.settled }

theorem Plan.Decision.answer_eq {a b : Plan.Decision} (h : a.settled = b.settled) :
    a.answer = b.answer := (congrArg Plan.Decision.answer h :)

theorem Plan.Decision.findings_eq {a b : Plan.Decision} (h : a.settled = b.settled) :
    a.findings.settled = b.findings.settled := (congrArg Plan.Decision.findings h :)

/-- The result without the question that it leaves open. -/
def TypeResult.settled (r : TypeResult) : TypeResult := { r with findings := r.findings.settled }

@[simp] theorem TypeResult.settled_type (r : TypeResult) : r.settled.type = r.type := rfl

@[simp] theorem TypeResult.settled_conversion? (r : TypeResult) :
    r.settled.conversion? = r.conversion? := rfl

@[simp] theorem TypeResult.settled_isSkipped (r : TypeResult) :
    r.settled.isSkipped = r.isSkipped := rfl

@[simp] theorem TypeResult.settled_isDropped (r : TypeResult) :
    r.settled.isDropped = r.isDropped := rfl

@[simp] theorem TypeResult.settled_isKept (r : TypeResult) : r.settled.isKept = r.isKept := rfl

@[simp] theorem TypeResult.settled_requiresUserInput (r : TypeResult) :
    r.settled.requiresUserInput = r.requiresUserInput := rfl

@[simp] theorem TypeResult.settled_findings (r : TypeResult) :
    r.settled.findings = r.findings.settled := rfl

/-- The result without the question that it leaves open. -/
def ContainerResult.settled (r : ContainerResult) : ContainerResult :=
  { r with findings := r.findings.settled }

@[simp] theorem ContainerResult.settled_kind (r : ContainerResult) : r.settled.kind = r.kind := rfl

@[simp] theorem ContainerResult.settled_stats (r : ContainerResult) :
    r.settled.stats = r.stats := rfl

@[simp] theorem ContainerResult.settled_destination (r : ContainerResult) :
    r.settled.destination = r.destination := rfl

@[simp] theorem ContainerResult.settled_objects (r : ContainerResult) :
    r.settled.objects = r.objects := rfl

@[simp] theorem ContainerResult.settled_findings (r : ContainerResult) :
    r.settled.findings = r.findings.settled := rfl

/-- The execution without the questions that it leaves open. -/
def Execution.settled (x : Execution) : Execution := { x with findings := x.findings.settled }

/-- Executions that differ in open questions only have all other parts in common. -/
theorem Execution.parts_eq {x y : Execution} (h : x.settled = y.settled) :
    x.schema = y.schema ∧ x.findings.warnings = y.findings.warnings ∧
      x.findings.unsupported = y.findings.unsupported ∧ x.stats = y.stats ∧
      x.strategies = y.strategies := by
  obtain ⟨hschema, hstats, hstrategies, hfindings, -⟩ := Execution.mk.inj h
  obtain ⟨hwarnings, hunsupported, -⟩ := Findings.mk.inj hfindings
  exact ⟨hschema, hwarnings, hunsupported, hstats, hstrategies⟩

namespace Plan

/-! ## Plans that settle every question alike -/

/-- The same questions come up whatever the mode is and whatever has been answered. -/
theorem questions_again (p : Plan) (s : Schema) (mode : ExecutionMode)
    (answers : Dictionary String) : (p.again mode answers).questions s = p.questions s := rfl

variable {p : Plan} {s : Schema} {mode : ExecutionMode} {answers : Dictionary String}

/-- A type is converted alike if the question about it is settled alike. -/
theorem convertType_again {t : CustomType}
    (h : ∀ d, p.typeQuestion? t = some d →
      ((p.again mode answers).decide d).settled = (p.decide d).settled) :
    ((p.again mode answers).convertType t).settled = (p.convertType t).settled := by
  have hexcludes : (p.again mode answers).excludes t = p.excludes t := rfl
  cases hx : p.excludes t with
  | true => rw [convertType_excluded hx, convertType_excluded (hexcludes.trans hx)]
  | false =>
    cases hc : p.custom.resolve t with
    | error error =>
      rw [convertType_failed hx hc, convertType_failed (hexcludes.trans hx) hc]
    | ok c =>
      cases hu : c.rendition.requiresUserInput with
      | false =>
        rw [convertType_plain hx hc hu, convertType_plain (hexcludes.trans hx) hc hu]
        rfl
      | true =>
        -- the only outcome that depends on a decision
        have hd := h _ (typeQuestion?_asked hx hc hu)
        have hconsent : (p.again mode answers).consentDecision t c = p.consentDecision t c := rfl
        have htells : (p.again mode answers).conversionFindings t c = p.conversionFindings t c :=
          rfl
        rw [convertType_asked hx hc hu, convertType_asked (hexcludes.trans hx) hc hu, hconsent,
          Decision.answer_eq hd, htells]
        unfold TypeResult.settled
        split
        · rw [Decision.findings_eq hd]
        · rw [Findings.settled_append, Findings.settled_append, Decision.findings_eq hd]

/-- The objects of a container go to the same place if the question about it is settled alike. -/
theorem placement_again {k : ContainerKind}
    (hx : p.preferences.excludesType k.objectType = false)
    (h : ∀ d, p.containerQuestion? k = some d →
      ((p.again mode answers).decide d).settled = (p.decide d).settled) :
    ((p.again mode answers).placement k (p.rule k.objectType)).destination =
        (p.placement k (p.rule k.objectType)).destination ∧
      ((p.again mode answers).placement k (p.rule k.objectType)).findings.settled =
        (p.placement k (p.rule k.objectType)).findings.settled := by
  have hquestion := containerQuestion?_included hx
  cases ha : (p.rule k.objectType).action with
  | direct => rw [placement_direct ha, placement_direct ha]; exact ⟨rfl, rfl⟩
  | drop => rw [placement_drop ha, placement_drop ha]; exact ⟨rfl, rfl⟩
  | emulate =>
    rw [if_pos ha] at hquestion
    have hd := h _ hquestion
    have hsame : (p.again mode answers).emulationQuestion k (p.rule k.objectType) =
        p.emulationQuestion k (p.rule k.objectType) := rfl
    have hcontainers : (p.again mode answers).supportedContainers
        (p.rule k.objectType).alternatives =
          p.supportedContainers (p.rule k.objectType).alternatives := rfl
    rw [placement_emulate ha, placement_emulate ha, hsame, hcontainers, Decision.answer_eq hd]
    exact ⟨rfl, Decision.findings_eq hd⟩

/-- A container is converted alike if the question about it is settled alike. -/
theorem convertContainer_again {fates : Fates} {k : ContainerKind} {objects : List SchemaObject}
    (h : ∀ d, p.containerQuestion? k = some d →
      ((p.again mode answers).decide d).settled = (p.decide d).settled) :
    ((p.again mode answers).convertContainer fates k objects).settled =
      (p.convertContainer fates k objects).settled := by
  have hexcludes : (p.again mode answers).preferences.excludesType k.objectType =
      p.preferences.excludesType k.objectType := rfl
  cases hx : p.preferences.excludesType k.objectType with
  | true => rw [convertContainer_excluded hx, convertContainer_excluded (hexcludes.trans hx)]
  | false =>
    obtain ⟨hdestination, hfindings⟩ := placement_again hx h
    have hrule : (p.again mode answers).rule k.objectType = p.rule k.objectType := rfl
    have hchosen : (p.again mode answers).chosen objects = p.chosen objects := rfl
    unfold ContainerResult.settled
    cases hd : (p.placement k (p.rule k.objectType)).destination with
    | none =>
      rw [convertContainer_dropped hx hd,
        convertContainer_dropped (hexcludes.trans hx) (hdestination.trans hd), hchosen, hrule]
      simp only [Findings.settled_append, hfindings]
      rfl
    | some d =>
      rw [convertContainer_moved hx hd,
        convertContainer_moved (hexcludes.trans hx) (hdestination.trans hd), hchosen, hrule]
      simp only [Findings.settled_append, hfindings]
      rfl

/-- What results for the types and the containers of a schema make up. -/
def combine (p : Plan) (s : Schema) (types : List TypeResult) (containers : List ContainerResult) :
    Execution where
  schema := some (p.assemble s.name types containers)
  stats := .ofEntries (TypeResult.statistics types
    ++ containers.map fun r => (r.kind.objectType, r.stats))
  strategies := (types.filterMap TypeResult.conversion?).map CustomConversion.strategy
  findings := p.findings ++ .join (types.map TypeResult.findings)
    ++ .join (containers.map ContainerResult.findings)
  requiresUserInput := p.matrix.requiresUserInput || types.any TypeResult.requiresUserInput

/-- An execution puts the results for types and containers together. -/
theorem execute_eq_combine (p : Plan) (s : Schema) :
    p.execute s =
      p.combine s (s.types.map p.convertType) (s.occupied.map (p.containerResult s)) := rfl

/-- Open questions of the results become open questions of the execution and nothing else. -/
theorem combine_settled (p : Plan) (s : Schema) (types : List TypeResult)
    (containers : List ContainerResult) :
    (p.combine s types containers).settled =
      (p.combine s (types.map TypeResult.settled)
        (containers.map ContainerResult.settled)).settled := by
  unfold combine Execution.settled assemble TypeResult.statistics
  simp [List.filterMap_map, List.filter_map, List.flatMap_map, Function.comp_def]

/-- The fates of the types do not depend on the questions left open. -/
theorem fates_settled {results more : List TypeResult}
    (h : results.map TypeResult.settled = more.map TypeResult.settled) :
    Fates.ofResults results = Fates.ofResults more := by
  have hkeys (l : List TypeResult) :
      (l.map TypeResult.settled).map (fun r => (Text.lowerCase r.type.name, r.fate)) =
        l.map fun r => (Text.lowerCase r.type.name, r.fate) := by
    rw [List.map_map]
    rfl
  unfold Fates.ofResults
  rw [← hkeys results, h, hkeys]

/-- **Plans that settle every question alike lead to the same conversion**, up to the questions
that they leave open. -/
theorem execute_settled
    (h : ∀ d ∈ p.questions s, ((p.again mode answers).decide d).settled = (p.decide d).settled) :
    ((p.again mode answers).execute s).settled = (p.execute s).settled := by
  have htypes : (s.types.map (p.again mode answers).convertType).map TypeResult.settled =
      (s.types.map p.convertType).map TypeResult.settled := by
    rw [List.map_map, List.map_map]
    refine List.map_congr_left fun t ht => convertType_again fun d hd => h d ?_
    exact List.mem_append_left _ (List.mem_filterMap.2 ⟨t, ht, hd⟩)
  -- containers look at the types through their fates only
  have hfates : (p.again mode answers).fates s = p.fates s := fates_settled htypes
  have hcontainers :
      (s.occupied.map ((p.again mode answers).containerResult s)).map ContainerResult.settled =
        (s.occupied.map (p.containerResult s)).map ContainerResult.settled := by
    rw [List.map_map, List.map_map]
    refine List.map_congr_left fun k hk => ?_
    show (((p.again mode answers).convertContainer ((p.again mode answers).fates s) k
      (s.objects k)).settled) = _
    rw [hfates]
    refine convertContainer_again fun d hd => h d ?_
    exact List.mem_append_right _ (List.mem_filterMap.2 ⟨k, hk, hd⟩)
  have hcombine : (p.again mode answers).combine s = p.combine s := rfl
  rw [execute_eq_combine, execute_eq_combine, combine_settled, htypes, hcontainers, hcombine,
    ← combine_settled]

/-! ## The modes -/

/-- A question is settled alike in all modes: what the user answered, or else the standard. -/
theorem decide_inMode (p : Plan) (mode : ExecutionMode) (d : PendingDecision) :
    ((p.inMode mode).decide d).settled = (p.decide d).settled := by
  have hpreferences : (p.inMode mode).preferences = p.preferences := rfl
  unfold decide
  rw [hpreferences]
  cases p.preferences.decisions.find? d.id with
  | none => rfl
  | some written => rfl

/-- Up to open questions an execution does not depend on the mode. -/
theorem execute_inMode (p : Plan) (mode : ExecutionMode) (s : Schema) :
    ((p.inMode mode).execute s).settled = (p.execute s).settled := by
  rw [inMode_eq_again]
  exact execute_settled fun d _ => decide_inMode p mode d

/-- Only an interactive conversion leaves questions open. -/
theorem execute_unasked_pending (h : p.mode ≠ .interactive) :
    (p.execute s).findings.pending = [] := by
  rw [execute_pending, List.filter_eq_nil_iff]
  intro d _
  simp [leavesOpen, h]

/-- Only an interactive execution leaves questions open. -/
theorem execute_eq_settled (h : p.mode ≠ .interactive) :
    p.execute s = (p.execute s).settled := by
  have hpending := execute_unasked_pending (s := s) h
  show p.execute s = { p.execute s with findings := { (p.execute s).findings with pending := [] } }
  rw [← hpending]

/-- A conversion in a mode that asks nothing is any other one without its open questions. -/
theorem execute_unasked (p : Plan) (s : Schema) (mode other : ExecutionMode)
    (h : mode ≠ .interactive) :
    (p.inMode mode).execute s = ((p.inMode other).execute s).settled := by
  rw [execute_eq_settled (p := p.inMode mode) h, execute_inMode, execute_inMode]

end Plan

/-- The same, told of a conversion in another mode. -/
def CompletedConversion.inMode (c : CompletedConversion) (mode : ExecutionMode) :
    CompletedConversion := { c with report := { c.report with mode } }

/-- The same, told of an interactive conversion that leaves questions open. -/
def CompletedConversion.asking (c : CompletedConversion) (pending : List PendingDecision) :
    CompletedConversion :=
  { c with
    report :=
      { c.report with
        mode := .interactive
        requiresUserInput := c.report.requiresUserInput || !pending.isEmpty }
    findings := { c.findings with pending } }

namespace ConversionEngine

variable {e : ConversionEngine} {r : ConversionRequest} {p : Plan} {s : Schema}

/-- A preview is the automatic conversion. -/
theorem carryOut_dryRun (e : ConversionEngine) (p : Plan) (s : Schema) :
    e.carryOut (p.inMode .dryRun) s = (e.carryOut (p.inMode .automatic) s).inMode .dryRun := by
  have hexecute : (p.inMode .dryRun).execute s = (p.inMode .automatic).execute s := by
    rw [p.execute_unasked s .dryRun .automatic (by decide),
      ← p.execute_unasked s .automatic .automatic (by decide)]
  rw [carryOut_executing (p := p.inMode .dryRun) rfl,
    carryOut_executing (p := p.inMode .automatic) rfl, hexecute]
  rfl

/-- Questions left open are reported as such; nothing else in the report tells of them. -/
theorem report_settled (e : ConversionEngine) (p : Plan) (s : Schema) (x : Execution) :
    e.report p s x =
      { e.report p s x.settled with
        requiresUserInput :=
          (e.report p s x.settled).requiresUserInput || !x.findings.pending.isEmpty } := by
  -- a settled execution has nothing pending, so its own flag is all that is left
  have hinput : (e.report p s x.settled).requiresUserInput = x.requiresUserInput :=
    Bool.or_false x.requiresUserInput
  rw [hinput]
  rfl

/-- An interactive conversion is the automatic one, with questions left open. -/
theorem carryOut_interactive (e : ConversionEngine) (p : Plan) (s : Schema) :
    e.carryOut (p.inMode .interactive) s =
      (e.carryOut (p.inMode .automatic) s).asking
        ((p.inMode .interactive).execute s).findings.pending := by
  rw [carryOut_executing (p := p.inMode .interactive) rfl,
    carryOut_executing (p := p.inMode .automatic) rfl,
    p.execute_unasked s .automatic .interactive (by decide), report_settled]
  rfl

/-- An automatic conversion leaves no question open. -/
theorem convert_automatic_pending {c : CompletedConversion}
    (h : e.convert (r.inMode .automatic) = .ok c) : c.findings.pending = [] := by
  rw [convert_inMode] at h
  obtain ⟨⟨p, s⟩, -, rfl⟩ := map_eq_ok.1 h
  rw [carryOut_executing (p := p.inMode .automatic) rfl]
  exact Plan.execute_unasked_pending (show ExecutionMode.automatic ≠ .interactive by decide)

/-- A dry run answers like an automatic conversion, but for the mode that it reports. -/
theorem convert_dryRun (e : ConversionEngine) (r : ConversionRequest) :
    e.convert (r.inMode .dryRun) = (e.convert (r.inMode .automatic)).map (·.inMode .dryRun) := by
  rw [convert_inMode, convert_inMode, map_map]
  exact map_congr fun x _ => carryOut_dryRun e x.1 x.2

/-- An interactive conversion answers like an automatic one, but for its open questions. -/
theorem convert_interactive (e : ConversionEngine) (r : ConversionRequest) :
    ∃ pending, e.convert (r.inMode .interactive) =
      (e.convert (r.inMode .automatic)).map (·.asking pending) := by
  rw [convert_inMode, convert_inMode]
  cases e.prepare r with
  | error error =>
    -- no mode gets as far as a question
    exact ⟨[], rfl⟩
  | ok x =>
    refine ⟨((x.1.inMode .interactive).execute x.2).findings.pending, ?_⟩
    rw [map_ok, map_ok, map_ok, carryOut_interactive]

/-- **The modes agree.** A request that passes the checks is carried out in every mode that
converts anything, unless the user has given up, and then in the same way. A preview differs from
the automatic conversion in the mode that is reported; an interactive conversion differs in that
and in the questions that it leaves open, of which it also reports that there are some. -/
theorem convert_modes_agree {m : ConversionMatrix} (hs : e.validate r = .ok s)
    (hm : e.matrix (e.registry.normalize r.source) (e.registry.normalize r.target) = .ok m)
    (hf : m.isFeasible = true ∨ e.config.engine.failOnImpossible = false) :
    (e.cancelled = false → ∃ a, e.convert (r.inMode .automatic) = .ok a) ∧
      (∀ a, e.convert (r.inMode .automatic) = .ok a → a.findings.pending = []) ∧
      e.convert (r.inMode .dryRun) =
        (e.convert (r.inMode .automatic)).map (·.inMode .dryRun) ∧
      ∃ pending, e.convert (r.inMode .interactive) =
        (e.convert (r.inMode .automatic)).map (·.asking pending) := by
  refine ⟨fun hc => ?_, fun a => convert_automatic_pending, convert_dryRun e r,
    convert_interactive e r⟩
  obtain ⟨p, hprepare⟩ := prepare_of_checks hs hm hf hc
  have hconvert := convert_inMode e r .automatic
  rw [hprepare, map_ok] at hconvert
  exact ⟨_, hconvert⟩

/-- The shop is converted alike in all modes. -/
theorem shop_modes_agree :
    ∃ s m a pending, Shop.engine.validate Shop.request = .ok s ∧
      Shop.engine.matrix (Shop.engine.registry.normalize Shop.request.source)
        (Shop.engine.registry.normalize Shop.request.target) = .ok m ∧
      (m.isFeasible = true ∨ Shop.engine.config.engine.failOnImpossible = false) ∧
      Shop.engine.convert (Shop.request.inMode .automatic) = .ok a ∧ a.findings.pending = [] ∧
      Shop.engine.convert (Shop.request.inMode .dryRun) = .ok (a.inMode .dryRun) ∧
      Shop.engine.convert (Shop.request.inMode .interactive) = .ok (a.asking pending) := by
  obtain ⟨c, h, -⟩ := Shop.converts
  obtain ⟨p, s, hprepare, -⟩ := convert_eq_ok.1 h
  obtain ⟨hs, m, hm, hf, hc, -⟩ := prepare_eq_ok.1 hprepare
  obtain ⟨hautomatic, hpending, hdryRun, pending, hinteractive⟩ := convert_modes_agree hs hm hf
  obtain ⟨a, ha⟩ := hautomatic hc
  rw [ha, map_ok] at hdryRun hinteractive
  exact ⟨s, m, a, pending, hs, hm, hf, ha, hpending a ha, hdryRun, hinteractive⟩

end ConversionEngine

end SchemaConversion
