import SchemaConversion.Proofs.Schema
import SchemaConversion.Proofs.Conversion.Modes

/-!
# Answering the questions that a conversion leaves open

A user is shown the open questions of an interactive conversion, answers them, and the request is
answered once more with these answers added. One such round is enough:

> `convert_answered`: no question is open then, and no answer has been refused that was not refused
> before; the standard answers lead to what was shown already.

This takes three facts about the questions: each of them has an identifier of its own, an option is
read as it is written, and which questions there are does not depend on the answers.
-/

namespace SchemaConversion

namespace Dictionary

/-- The answers, and behind them an answer to each question under its identifier. -/
def answering (answers : Dictionary String) (asked : List PendingDecision)
    (answer : PendingDecision → String) : Dictionary String :=
  asked.foldl (fun answers d => answers.insert d.id (answer d)) answers

variable {answers : Dictionary String} {asked : List PendingDecision}
  {answer : PendingDecision → String}

/-- What has not been asked is answered as before. -/
theorem find?_answering_of_ne {id : String} (h : ∀ d ∈ asked, d.id ≠ id) :
    (answers.answering asked answer).find? id = answers.find? id :=
  find?_foldl_insert_of_ne h

/-- What has been asked is answered, if no other question has its identifier. -/
theorem find?_answering {d : PendingDecision} (hd : d ∈ asked)
    (hid : ∀ e ∈ asked, e.id = d.id → e = d) :
    (answers.answering asked answer).find? d.id = some (answer d) :=
  find?_foldl_insert hd hid

end Dictionary

/-! ## The questions -/

/-- A question that can be answered: its standard answer is an option, and trimming and lower case
leave the options as they are. -/
structure PendingDecision.IsSound (d : PendingDecision) : Prop where
  standard_mem : d.standard ∈ d.options
  read_option : ∀ o ∈ d.options, Text.lowerCase (Text.trim o) = o

theorem CustomStrategy.read_name (s : CustomStrategy) :
    Text.lowerCase (Text.trim s.name) = s.name := by
  cases s <;> decide

theorem ContainerKind.read_name (k : ContainerKind) :
    Text.lowerCase (Text.trim k.name) = k.name := by
  cases k <;> decide

namespace Plan

variable {p : Plan} {s : Schema}

/-- The question whether a type is converted is sound. -/
theorem consentDecision_isSound (p : Plan) (t : CustomType) (c : CustomConversion) :
    (p.consentDecision t c).IsSound where
  standard_mem := List.mem_cons_self
  read_option := by
    intro o ho
    rcases List.mem_cons.1 ho with rfl | ho
    · exact c.strategy.read_name
    · rw [List.mem_singleton.1 ho]
      decide

theorem emulationDecision_isSound (p : Plan) (k : ContainerKind) (containers : List ContainerKind) :
    (p.emulationDecision k containers).IsSound where
  standard_mem := by
    unfold emulationDecision
    cases containers with
    | nil => simp
    | cons c rest => simp
  read_option := by
    intro o ho
    rcases List.mem_append.1 ho with ho | ho
    · split at ho
      · rw [List.mem_singleton.1 ho]
        decide
      · obtain ⟨c, -, rfl⟩ := List.mem_map.1 ho
        exact c.read_name
    · rw [List.mem_singleton.1 ho]
      decide

/-- A question about a type asks for consent to its conversion. -/
theorem typeQuestion?_eq_some {t : CustomType} {d : PendingDecision}
    (h : p.typeQuestion? t = some d) :
    ∃ c, p.custom.resolve t = .ok c ∧ d = p.consentDecision t c := by
  unfold typeQuestion? at h
  split at h
  · cases h
  · split at h
    · cases h
    · next c hc =>
      split at h
      · exact ⟨c, hc, (Option.some.inj h).symm⟩
      · cases h

/-- A question about a container asks where its objects go. -/
theorem containerQuestion?_eq_some {k : ContainerKind} {d : PendingDecision}
    (h : p.containerQuestion? k = some d) : d = p.emulationQuestion k (p.rule k.objectType) := by
  unfold containerQuestion? at h
  split at h
  · cases h
  · split at h
    · exact (Option.some.inj h).symm
    · cases h

/-- A question is about a type or about a container. -/
theorem mem_questions {d : PendingDecision} :
    d ∈ p.questions s ↔
      (∃ t ∈ s.types, p.typeQuestion? t = some d) ∨
        ∃ k ∈ s.occupied, p.containerQuestion? k = some d := by
  simp [questions, List.mem_filterMap]

/-- All questions of a conversion are sound. -/
theorem questions_isSound {d : PendingDecision} (hd : d ∈ p.questions s) : d.IsSound := by
  rcases mem_questions.1 hd with ⟨t, -, ht⟩ | ⟨k, -, hk⟩
  · obtain ⟨c, -, rfl⟩ := typeQuestion?_eq_some ht
    exact p.consentDecision_isSound t c
  · rw [containerQuestion?_eq_some hk]
    exact p.emulationDecision_isSound k _

/-- The questions about types and those about containers have different identifiers. -/
theorem type_id_ne_container_id (name : String) (k : ContainerKind) :
    "custom_type." ++ name ≠ "emulate." ++ k.name := by
  intro h
  have hhead := congrArg (fun text => text.toList.head?) h
  simp at hhead

/-- The questions about a valid schema have identifiers of their own. -/
theorem questions_eq_of_id (hs : s.validate = .ok ()) {d d' : PendingDecision}
    (hd : d ∈ p.questions s) (hd' : d' ∈ p.questions s) (hid : d.id = d'.id) : d = d' := by
  rcases mem_questions.1 hd with ⟨t, ht, htd⟩ | ⟨k, -, hkd⟩ <;>
    rcases mem_questions.1 hd' with ⟨t', ht', htd'⟩ | ⟨k', -, hkd'⟩
  · -- two types: validation keeps their names apart
    obtain ⟨c, -, rfl⟩ := typeQuestion?_eq_some htd
    obtain ⟨c', -, rfl⟩ := typeQuestion?_eq_some htd'
    have hname : t.name = t'.name := (String.append_right_inj _).1 hid
    obtain rfl : t = t' := Schema.types_eq_of_key hs ht ht' (congrArg Text.lowerCase hname)
    exact Option.some.inj (htd.symm.trans htd')
  · obtain ⟨c, -, rfl⟩ := typeQuestion?_eq_some htd
    rw [containerQuestion?_eq_some hkd'] at hid
    exact absurd hid (type_id_ne_container_id _ _)
  · obtain ⟨c', -, rfl⟩ := typeQuestion?_eq_some htd'
    rw [containerQuestion?_eq_some hkd] at hid
    exact absurd hid.symm (type_id_ne_container_id _ _)
  · -- two containers: each has one question, under its name
    have hkd₀ := containerQuestion?_eq_some hkd
    have hkd₁ := containerQuestion?_eq_some hkd'
    rw [hkd₀, hkd₁] at hid
    obtain rfl : k = k' := ContainerKind.name_injective ((String.append_right_inj _).1 hid)
    exact hkd₀.trans hkd₁.symm

/-! ## Deciding once more -/

/-- The plan for the next round, in which the open questions of this one are answered. -/
def nextRound (p : Plan) (s : Schema) (mode : ExecutionMode) (answer : PendingDecision → String) :
    Plan :=
  p.again mode (p.preferences.decisions.answering (p.execute s).findings.pending answer)

section Round

variable {d : PendingDecision} {answer : PendingDecision → String}

/-- An interactive conversion leaves a question open exactly if there is no answer to it. -/
theorem leavesOpen_iff (hi : p.mode = .interactive) :
    p.leavesOpen d = true ↔ p.preferences.decisions.find? d.id = none := by
  simp [leavesOpen, hi]

/-- An option that is given as the answer is taken. -/
theorem decide_option (hd : d.IsSound) {o : String} (ho : o ∈ d.options)
    (hanswer : p.preferences.decisions.find? d.id = some o) : p.decide d = { answer := o } := by
  unfold decide
  rw [hanswer]
  dsimp only
  rw [hd.read_option o ho, if_pos (List.contains_iff_mem.2 ho)]

/-- An open question is decided in the standard way for the time being. -/
theorem decide_open (hi : p.mode = .interactive) (ho : p.leavesOpen d = true) :
    (p.decide d).settled = { answer := d.standard } := by
  unfold decide Decision.settled
  rw [(leavesOpen_iff hi).1 ho]
  rfl

/-- A question that is not left open is not pending. -/
theorem decide_answered_pending (ho : ¬p.leavesOpen d = true) :
    (p.decide d).findings.settled = (p.decide d).findings := by
  have hpending := p.decide_pending d
  rw [if_neg ho] at hpending
  unfold Findings.settled
  rw [← hpending]

/-- In the next round, a question that was open is decided as it was answered and every other one
as before. -/
theorem decide_nextRound (mode : ExecutionMode) (hs : s.validate = .ok ())
    (hi : p.mode = .interactive)
    (ha : ∀ d ∈ (p.execute s).findings.pending, answer d ∈ d.options) (hd : d ∈ p.questions s) :
    (p.nextRound s mode answer).decide d =
      if p.leavesOpen d then { answer := answer d } else p.decide d := by
  unfold nextRound
  rw [execute_pending] at ha ⊢
  by_cases ho : p.leavesOpen d = true
  · have hopen : d ∈ (p.questions s).filter p.leavesOpen := List.mem_filter.2 ⟨hd, ho⟩
    rw [if_pos ho]
    -- the answer stands under the identifier, since no later question overwrites it
    refine decide_option (questions_isSound hd) (ha d hopen) ?_
    exact Dictionary.find?_answering hopen fun e he hid =>
      questions_eq_of_id hs (List.mem_of_mem_filter he) hd hid
  · rw [if_neg ho]
    obtain ⟨written, hwritten⟩ := Option.ne_none_iff_exists'.1 ((leavesOpen_iff hi).not.1 ho)
    -- what was answered before keeps its answer: no open question has the same identifier
    have hother : ∀ e ∈ (p.questions s).filter p.leavesOpen, e.id ≠ d.id := by
      intro e he hid
      have hnone := (leavesOpen_iff hi).1 (List.mem_filter.1 he).2
      rw [hid, hwritten] at hnone
      cases hnone
    have hsame : (p.again mode (p.preferences.decisions.answering
        ((p.questions s).filter p.leavesOpen) answer)).preferences.decisions.find? d.id =
          some written := (Dictionary.find?_answering_of_ne hother).trans hwritten
    unfold decide
    rw [hsame, hwritten]

/-- The next round closes every question and refuses nothing more. -/
theorem decide_nextRound_findings (mode : ExecutionMode) (hs : s.validate = .ok ())
    (hi : p.mode = .interactive)
    (ha : ∀ d ∈ (p.execute s).findings.pending, answer d ∈ d.options) (hd : d ∈ p.questions s) :
    ((p.nextRound s mode answer).decide d).findings = (p.decide d).findings.settled := by
  rw [decide_nextRound mode hs hi ha hd]
  by_cases ho : p.leavesOpen d = true
  · rw [if_pos ho]
    exact (congrArg Decision.findings (decide_open hi ho)).symm
  · rw [if_neg ho, decide_answered_pending ho]

/-- Standard answers confirm what was decided for the time being. -/
theorem decide_nextRound_standard (mode : ExecutionMode) (hs : s.validate = .ok ())
    (hi : p.mode = .interactive)
    (ha : ∀ d ∈ (p.execute s).findings.pending, answer d ∈ d.options)
    (hstandard : ∀ d ∈ (p.execute s).findings.pending, answer d = d.standard)
    (hd : d ∈ p.questions s) :
    ((p.nextRound s mode answer).decide d).settled = (p.decide d).settled := by
  rw [decide_nextRound mode hs hi ha hd]
  by_cases ho : p.leavesOpen d = true
  · have hopen : d ∈ (p.execute s).findings.pending := by
      rw [execute_pending]
      exact List.mem_filter.2 ⟨hd, ho⟩
    rw [if_pos ho, decide_open hi ho, hstandard d hopen]
    rfl
  · rw [if_neg ho]

/-- What decisions have to tell in the next round: what they told before, without open questions. -/
theorem execute_nextRound (mode : ExecutionMode) (hs : s.validate = .ok ())
    (hi : p.mode = .interactive)
    (ha : ∀ d ∈ (p.execute s).findings.pending, answer d ∈ d.options) :
    ((p.nextRound s mode answer).execute s).findings.ofDecisions =
      (p.execute s).findings.ofDecisions.settled := by
  rw [execute_ofDecisions, execute_ofDecisions, nextRound, questions_again, Findings.settled_join,
    List.map_map]
  congr 1
  exact List.map_congr_left fun d hd => decide_nextRound_findings mode hs hi ha hd

/-- With standard answers, the next round leads where this one led. -/
theorem execute_nextRound_standard (mode : ExecutionMode) (hs : s.validate = .ok ())
    (hi : p.mode = .interactive)
    (ha : ∀ d ∈ (p.execute s).findings.pending, answer d ∈ d.options)
    (hstandard : ∀ d ∈ (p.execute s).findings.pending, answer d = d.standard) :
    ((p.nextRound s mode answer).execute s).settled = (p.execute s).settled :=
  execute_settled fun _ hd => decide_nextRound_standard mode hs hi ha hstandard hd

end Round

end Plan

namespace ConversionEngine

variable {e : ConversionEngine} {r : ConversionRequest} {c : CompletedConversion}

/-- **One round of answers closes all questions.** If each question that an interactive conversion
leaves open is answered with one of its options, then the request with these answers leaves none
open and refuses no answer that it did not refuse before, in every mode that converts anything. If
all answers are the standard ones, then it leads to the same conversion. -/
theorem convert_answered (h : e.convert r = .ok c) (hi : c.report.mode = .interactive)
    {answer : PendingDecision → String} (ha : ∀ d ∈ c.findings.pending, answer d ∈ d.options)
    {mode : ExecutionMode} (hm : mode.executes = true) :
    ∃ c', e.convert
        (r.again mode (r.preferences.decisions.answering c.findings.pending answer)) = .ok c' ∧
      c'.findings.pending = [] ∧
      c'.findings.warnings.filter ConversionWarning.isRefusal =
        c.findings.warnings.filter ConversionWarning.isRefusal ∧
      ((∀ d ∈ c.findings.pending, answer d = d.standard) →
        c'.schema = c.schema ∧ c'.findings.warnings = c.findings.warnings ∧
          c'.findings.unsupported = c.findings.unsupported ∧ c'.report.stats = c.report.stats ∧
          c'.report.strategyCounts = c.report.strategyCounts) := by
  obtain ⟨p, s, hprepare, rfl⟩ := convert_eq_ok.1 h
  have hi : p.mode = .interactive := hi
  have hs : s.validate = .ok () := (prepare_schema hprepare).2
  rw [carryOut_executing (by rw [hi]; rfl)] at ha ⊢
  have hagain : e.convert (r.again mode
      (r.preferences.decisions.answering (p.execute s).findings.pending answer)) =
        .ok (e.carryOut (p.nextRound s mode answer) s) := by
    rw [convert_again, hprepare, map_ok, ← (plan_of_prepare hprepare).1, Plan.nextRound]
  rw [carryOut_executing (p := p.nextRound s mode answer) hm] at hagain
  refine ⟨_, hagain, ?_⟩
  have hdecisions := Plan.execute_nextRound mode hs hi ha
  refine ⟨congrArg Findings.pending hdecisions, congrArg Findings.warnings hdecisions,
    fun hstandard => ?_⟩
  obtain ⟨hschema, hwarnings, hunsupported, hstats, hstrategies⟩ :=
    Execution.parts_eq (Plan.execute_nextRound_standard mode hs hi ha hstandard)
  exact ⟨hschema, hwarnings, hunsupported, hstats, congrArg CustomStrategy.counts hstrategies⟩

/-- The shop is converted automatically as was shown, once the standard answers are given. -/
theorem shop_answered :
    ∃ c c', Shop.engine.convert Shop.request = .ok c ∧ c.report.mode = .interactive ∧
      c.findings.pending ≠ [] ∧ (∀ d ∈ c.findings.pending, d.standard ∈ d.options) ∧
      Shop.engine.convert (Shop.request.again .automatic
        (Shop.request.preferences.decisions.answering c.findings.pending
          PendingDecision.standard)) = .ok c' ∧
      c'.findings.pending = [] ∧ c'.schema = c.schema := by
  obtain ⟨c, h, hmode, hpending⟩ := Shop.converts
  have hne : c.findings.pending ≠ [] := by
    intro hnil
    rw [hnil] at hpending
    cases hpending
  have ha : ∀ d ∈ c.findings.pending, d.standard ∈ d.options := by
    intro d hd
    have hmem := List.mem_map_of_mem (f := fun d => (d.standard, d.options)) hd
    rw [hpending] at hmem
    simp only [List.mem_cons, List.not_mem_nil, or_false, Prod.mk.injEq] at hmem
    rcases hmem with ⟨hstandard, hoptions⟩ | ⟨hstandard, hoptions⟩ <;>
      rw [hstandard, hoptions] <;> decide
  have hm : ExecutionMode.automatic.executes = true := rfl
  obtain ⟨c', h', hclosed, -, hsame⟩ := convert_answered h hmode ha hm
  exact ⟨c, c', h, hmode, hne, ha, h', hclosed, (hsame fun _ _ => rfl).1⟩

end ConversionEngine

end SchemaConversion
