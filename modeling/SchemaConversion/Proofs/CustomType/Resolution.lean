import SchemaConversion.CustomType.Conversion

/-!
# Which strategy a conversion of a custom type takes

A type is converted by its primary strategy, or by the one to fall back on if the primary one fails.
What a conversion says of itself is true: its primary strategy is the one that the target dictates,
and it has fallen back if it took another one.
-/

namespace SchemaConversion

namespace CustomConverter

variable {c : CustomConverter} {t : CustomType} {conversion : CustomConversion}

/-- A conversion is made at some level, with the levels below it. -/
theorem resolve_eq_ok (h : c.resolve t = .ok conversion) :
    ∃ left, c.levels = left + 1 ∧
      c.resolveWith ⟨c.resolveAt left, c.columnsAt left⟩ t = .ok conversion := by
  unfold resolve at h
  cases hl : c.levels with
  | zero =>
    rw [hl, resolveAt] at h
    cases h
  | succ left =>
    rw [hl, resolveAt] at h
    exact ⟨left, rfl, h⟩

/-- A conversion by the primary strategy is not marked, any other one is. -/
theorem resolveWith_strategy {inner : Nested} (h : c.resolveWith inner t = .ok conversion) :
    conversion.primaryStrategy = (StrategyChoice.of t.definition c.target).primary ∧
      conversion.usedFallback = (conversion.strategy != conversion.primaryStrategy) := by
  unfold resolveWith at h
  dsimp only at h
  split at h
  · cases h
    exact ⟨rfl, rfl⟩
  · split at h
    · cases h
    · split at h
      · cases h
        exact ⟨rfl, rfl⟩
      · cases h

/-- A conversion that has not fallen back took the primary strategy. -/
theorem resolve_primary (h : c.resolve t = .ok conversion) (hf : conversion.usedFallback = false) :
    conversion.strategy = (StrategyChoice.of t.definition c.target).primary := by
  obtain ⟨left, -, hwith⟩ := resolve_eq_ok h
  obtain ⟨hprimary, hmark⟩ := resolveWith_strategy hwith
  rw [hf] at hmark
  rw [← hprimary]
  simpa using hmark

end CustomConverter

end SchemaConversion
