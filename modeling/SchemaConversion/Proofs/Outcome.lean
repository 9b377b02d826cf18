import Mathlib.Data.List.Forall2

/-!
# Computations that may fail

When a sequence of steps succeeds, when a step for each item of a list does, in which ways steps
fail, and when a result or a failure is changed afterwards: the facts by which proofs take a
computation apart.
-/

namespace SchemaConversion

variable {ε α β γ : Type}

/-- Two steps succeed if the first one does and the second one does on its result. -/
theorem bind_eq_ok {x : Except ε α} {f : α → Except ε β} {b : β} :
    (x >>= f) = .ok b ↔ ∃ a, x = .ok a ∧ f a = .ok b := by
  cases x <;> simp [bind, Except.bind]

theorem map_eq_ok {x : Except ε α} {f : α → β} {b : β} :
    x.map f = .ok b ↔ ∃ a, x = .ok a ∧ f a = b := by
  cases x <;> simp [Except.map]

/-- What is done to the result of two steps may be done to the result of the second. -/
theorem map_bind (x : Except ε α) (f : α → Except ε β) (g : β → γ) :
    (x >>= f).map g = x >>= fun a => (f a).map g := by
  cases x <;> rfl

theorem map_map (x : Except ε α) (f : α → β) (g : β → γ) :
    (x.map f).map g = x.map fun a => g (f a) := by
  cases x <;> rfl

theorem map_ok (a : α) (f : α → β) : (.ok a : Except ε α).map f = .ok (f a) := rfl

theorem map_congr {x : Except ε α} {f g : α → β} (h : ∀ a, x = .ok a → f a = g a) :
    x.map f = x.map g := by
  cases x with
  | error _ => rfl
  | ok a => rw [map_ok, map_ok, h a rfl]

theorem map_pure (a : α) (f : α → β) : (pure a : Except ε α).map f = pure (f a) := rfl

/-- To say differently why something fails changes nothing about when it succeeds. -/
theorem mapError_eq_ok {ε' : Type} {x : Except ε α} {f : ε → ε'} {a : α} :
    x.mapError f = .ok a ↔ x = .ok a := by
  cases x <;> simp [Except.mapError]

/-- A step for each item of a list succeeds if each of them does. -/
theorem mapM_eq_ok {f : α → Except ε β} {l : List α} {results : List β} :
    l.mapM f = .ok results ↔ List.Forall₂ (fun a b => f a = .ok b) l results := by
  induction l generalizing results with
  | nil =>
    rw [List.mapM_nil]
    constructor
    · rintro ⟨⟩
      exact .nil
    · rintro ⟨⟩
      rfl
  | cons a l ih =>
    simp only [List.mapM_cons, bind_eq_ok]
    constructor
    -- the step for the head comes first, and those for the rest follow if it succeeds
    · rintro ⟨b, hb, rest, hrest, ⟨⟩⟩
      exact .cons hb (ih.1 hrest)
    · rintro (_ | ⟨hb, hrest⟩)
      exact ⟨_, hb, _, ih.2 hrest, rfl⟩

/-- Each result of the steps for the items of a list is the result for an item. -/
theorem exists_of_mapM {f : α → Except ε β} {l : List α} {results : List β} {b : β}
    (h : l.mapM f = .ok results) (hb : b ∈ results) : ∃ a ∈ l, f a = .ok b := by
  have hsteps := mapM_eq_ok.1 h
  clear h
  induction hsteps with
  | nil => cases hb
  | @cons a b' l results ha _ ih =>
    rcases List.mem_cons.1 hb with rfl | hb
    · exact ⟨a, List.mem_cons_self, ha⟩
    · obtain ⟨a', ha', hstep⟩ := ih hb
      exact ⟨a', List.mem_cons_of_mem a ha', hstep⟩

/-- The step for each item of a list succeeds if the steps for all do. -/
theorem ok_of_mapM {f : α → Except ε β} {l : List α} {results : List β} {a : α}
    (h : l.mapM f = .ok results) (ha : a ∈ l) : ∃ b ∈ results, f a = .ok b := by
  have hsteps := mapM_eq_ok.1 h
  clear h
  induction hsteps with
  | nil => cases ha
  | @cons a' b l results hb _ ih =>
    rcases List.mem_cons.1 ha with rfl | ha
    · exact ⟨b, List.mem_cons_self, hb⟩
    · obtain ⟨b', hb', hstep⟩ := ih ha
      exact ⟨b', List.mem_cons_of_mem b hb', hstep⟩

/-- Steps that are the same for each item of a list are the same for the list. -/
theorem mapM_congr {f g : α → Except ε β} {l : List α} (h : ∀ a ∈ l, f a = g a) :
    l.mapM f = l.mapM g := by
  induction l with
  | nil => rfl
  | cons a l ih =>
    rw [List.mapM_cons, List.mapM_cons, h a List.mem_cons_self,
      ih fun b hb => h b (List.mem_cons_of_mem a hb)]

/-! ## Ways to fail -/

/-- If the computation fails, then in one of these ways. -/
def FailsOnly (ways : ε → Prop) (x : Except ε α) : Prop := ∀ error, x = .error error → ways error

namespace FailsOnly

variable {ways : ε → Prop}

theorem ok (a : α) : FailsOnly ways (.ok a : Except ε α) := by
  rintro _ ⟨⟩

theorem error {e : ε} (h : ways e) : FailsOnly ways (.error e : Except ε α) := by
  rintro _ ⟨⟩
  exact h

/-- Steps fail in one of these ways if each of them does. -/
theorem bind {x : Except ε α} {f : α → Except ε β} (hx : FailsOnly ways x)
    (hf : ∀ a, FailsOnly ways (f a)) : FailsOnly ways (x >>= f) := by
  cases x with
  | error e => exact error (hx e rfl)
  | ok a => exact hf a

end FailsOnly

/-! ## Tests -/

/-- A result that passes a test is there. -/
theorem exists_ok {x : Except ε α} {test : α → Bool} (h : x.toOption.any test = true) :
    ∃ a, x = .ok a ∧ test a = true := by
  cases x with
  | error _ => cases h
  | ok a => exact ⟨a, rfl, h⟩

end SchemaConversion
