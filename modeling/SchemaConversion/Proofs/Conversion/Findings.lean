import SchemaConversion.Conversion.Findings

/-!
# Findings of several steps

Findings are put behind each other step by step, and two parts of them are taken step by step as
well: what remains when open questions are forgotten, and what decisions alone have to tell.
-/

namespace SchemaConversion

/-- The warning that an answer is not an option. Only decisions make warnings of this kind that are
more than a remark. -/
def ConversionWarning.isRefusal (w : ConversionWarning) : Bool :=
  w.kind == .emulation && w.severity == .warning

namespace Findings

/-- The findings without the questions that are left open. -/
def settled (f : Findings) : Findings := { f with pending := [] }

@[simp] theorem settled_settled (f : Findings) : f.settled.settled = f.settled := rfl

@[simp] theorem settled_append (f g : Findings) : (f ++ g).settled = f.settled ++ g.settled := rfl

@[simp] theorem settled_join (steps : List Findings) :
    (join steps).settled = join (steps.map settled) := by
  unfold settled join
  simp [List.flatMap_map]

/-- The part of findings that decisions make: refused answers and open questions. -/
def ofDecisions (f : Findings) : Findings :=
  { warnings := f.warnings.filter ConversionWarning.isRefusal, pending := f.pending }

theorem append_def (f g : Findings) : f ++ g =
    ⟨f.warnings ++ g.warnings, f.unsupported ++ g.unsupported, f.pending ++ g.pending⟩ := rfl

@[simp] theorem append_none (f : Findings) : f ++ none = f := by
  simp [append_def, none]

@[simp] theorem none_append (f : Findings) : none ++ f = f := by
  simp [append_def, none]

@[simp] theorem ofDecisions_append (f g : Findings) :
    (f ++ g).ofDecisions = f.ofDecisions ++ g.ofDecisions := by
  simp [ofDecisions, append_def]

/-- What decisions tell may be taken step by step. -/
@[simp] theorem ofDecisions_join (steps : List Findings) :
    (join steps).ofDecisions = join (steps.map ofDecisions) := by
  simp [ofDecisions, join, List.filter_flatMap, List.flatMap_map]

theorem join_cons (f : Findings) (steps : List Findings) : join (f :: steps) = f ++ join steps :=
  rfl

theorem join_append (steps more : List Findings) :
    join (steps ++ more) = join steps ++ join more := by
  simp [join, append_def]

/-- Steps that have nothing to tell have nothing to tell together. -/
theorem join_eq_none {steps : List Findings} (h : ∀ f ∈ steps, f = none) :
    join steps = none := by
  induction steps with
  | nil => rfl
  | cons f steps ih =>
    rw [join_cons, h f (by simp), none_append]
    exact ih fun g hg => h g (List.mem_cons_of_mem f hg)

/-- Warnings none of which is a refusal are not made by decisions. -/
theorem ofDecisions_ofWarnings {warnings : List ConversionWarning}
    (h : ∀ w ∈ warnings, w.isRefusal = false) : (ofWarnings warnings).ofDecisions = none := by
  unfold ofDecisions ofWarnings
  rw [List.filter_eq_nil_iff.2 fun w hw => by simp [h w hw]]
  rfl

end Findings

end SchemaConversion
