import SchemaConversion.TypeConversion
import SchemaConversion.Proofs.Outcome

/-!
# How spellings are resolved, and what lossy conversions tell

A spelling is resolved in one of three ways: something is prescribed for it, it is an array whose
element is resolved in its turn, or it is a type of the source.

> `resolveNormal_eq_ok`: what a spelling is resolved to is told by the relation `Resolves`, which
> has a case for each of the ways.

A conversion of a native type is marked as lossy, and it may carry warnings that say what may be
lost. The two always come together, in whatever way it was made:

> `resolve_lossy_iff`: a conversion is lossy exactly if it has a warning.

The case that takes an argument is widening. The warning about it is given only if the canonical
type has changed. But a type is widened with loss only if the target has no native type for it, and
then the native type that was found instead has another canonical type.
-/

namespace SchemaConversion

namespace CanonicalType

/-- A list that grows at its end with every step begins with what it was at first. -/
theorem isPrefix_foldl {α β : Type} {step : List α → β → List α}
    (hstep : ∀ found b, found <+: step found b) (l : List β) (found : List α) :
    found <+: l.foldl step found := by
  induction l generalizing found with
  | nil => exact List.prefix_rfl
  | cons b l ih => exact (hstep found b).trans (ih _)

/-- To expand a type adds substitutes behind those that are there. -/
theorem isPrefix_expand (found : List Fallback) (current : Fallback) :
    found <+: expand found current := by
  refine isPrefix_foldl (fun found step => ?_) _ found
  split
  · exact List.prefix_rfl
  · exact List.prefix_append _ _

/-- The first thing to try is the type itself, which loses nothing. -/
theorem widenings_eq_cons (t : CanonicalType) : ∃ rest, t.widenings = .lossless t :: rest := by
  have hgrows : [.lossless t] <+: t.widenings := by
    refine isPrefix_foldl (fun found i => ?_) _ _
    split
    · exact isPrefix_expand _ _
    · exact List.prefix_rfl
  obtain ⟨rest, hrest⟩ := hgrows
  exact ⟨rest, hrest.symm⟩

end CanonicalType

/-- A native type that stands for a canonical type is an entry of the profile. -/
theorem TypeProfile.nativeFor?_mem {p : TypeProfile} {t : CanonicalType} {info : TypeInfo}
    (h : p.nativeFor? t = some info) : info ∈ p.types.values := by
  unfold nativeFor? at h
  rcases Option.or_eq_some_iff.1 h with h | ⟨-, h⟩
  · obtain ⟨name, -, hentry⟩ := Option.bind_eq_some_iff.1 h
    exact Dictionary.mem_values_of_find? hentry
  · exact List.mem_of_find?_eq_some h

/-- If no native type stands for a canonical type, no entry has it. -/
theorem TypeProfile.canonical_ne {p : TypeProfile} {t : CanonicalType} {info : TypeInfo}
    (h : p.nativeFor? t = none) (hinfo : info ∈ p.types.values) : info.canonical ≠ t := by
  unfold nativeFor? at h
  simpa using List.find?_eq_none.1 (Option.or_eq_none_iff.1 h).2 info hinfo

/-- What is marked as lossy has a warning, and nothing else has. -/
def TypeConversion.ExplainsLoss (b : TypeConversion) : Prop := b.lossy = true ↔ b.warnings ≠ []

namespace TypeConverter

variable {c : TypeConverter} {given : String} {normal element : List Char}

/-! ## The ways to resolve a spelling -/

/-- A normal form that was spelled in this way is resolved to this conversion. -/
inductive Resolves (c : TypeConverter) : String → List Char → TypeConversion → Prop
  /-- By what is prescribed for it or for its base. -/
  | prescribed {given : String} {normal : List Char} {replacement : String} (hne : normal ≠ [])
      (hnative : c.replacement? (String.ofList normal) = some replacement) :
    Resolves c given normal (c.override given (String.ofList normal) replacement)
  /-- As an array, by its element. -/
  | array {given : String} {normal element : List Char} {inner b : TypeConversion}
      (hnative : c.replacement? (String.ofList normal) = none)
      (harray : arrayElement? normal = some element)
      (hinner : Resolves c (String.ofList element) element inner)
      (h : c.array given (String.ofList element) inner = .ok b) :
    Resolves c given normal b
  /-- As a type that is no array. -/
  | single {given : String} {normal : List Char} {b : TypeConversion} (hne : normal ≠ [])
      (hnative : c.replacement? (String.ofList normal) = none)
      (harray : arrayElement? normal = none)
      (h : c.single given (String.ofList normal) = .ok b) :
    Resolves c given normal b

/-- The brackets of an array make up a spelling. -/
theorem ne_nil_of_arrayElement? (h : arrayElement? normal = some element) : normal ≠ [] := by
  rintro rfl
  exact absurd (length_lt_of_arrayElement? h) (Nat.not_lt_zero _)

theorem resolveNormal_nil (c : TypeConverter) (given : String) :
    c.resolveNormal given [] = .error (c.unknown given) := by
  rw [resolveNormal]
  rfl

theorem resolveNormal_prescribed {replacement : String} (hne : normal ≠ [])
    (hnative : c.replacement? (String.ofList normal) = some replacement) :
    c.resolveNormal given normal =
      .ok (c.override given (String.ofList normal) replacement) := by
  rw [resolveNormal]
  simp [hne, hnative]

theorem resolveNormal_array (hnative : c.replacement? (String.ofList normal) = none)
    (harray : arrayElement? normal = some element) :
    c.resolveNormal given normal =
      (c.resolveNormal (String.ofList element) element >>=
        c.array given (String.ofList element)) := by
  have hne : ¬normal.isEmpty = true := by simpa using ne_nil_of_arrayElement? harray
  rw [resolveNormal]
  dsimp only
  rw [if_neg hne, hnative]
  dsimp only
  split
  · next other hother =>
    rw [harray] at hother
    rw [Option.some.inj hother]
    rfl
  · next hnone =>
    rw [harray] at hnone
    cases hnone

theorem resolveNormal_single (hne : normal ≠ [])
    (hnative : c.replacement? (String.ofList normal) = none)
    (harray : arrayElement? normal = none) :
    c.resolveNormal given normal = c.single given (String.ofList normal) := by
  have hne : ¬normal.isEmpty = true := by simpa using hne
  rw [resolveNormal]
  dsimp only
  rw [if_neg hne, hnative]
  dsimp only
  split
  · next hsome =>
    rw [harray] at hsome
    cases hsome
  · rfl

/-- The recursion by which spellings are resolved: there is nothing, or something is prescribed, or
an array goes on with its element, or a type that is no array ends it. -/
theorem resolveNormal_induction (c : TypeConverter) {P : String → List Char → Prop}
    (blank : ∀ given, P given [])
    (prescribed : ∀ given normal replacement, normal ≠ [] →
      c.replacement? (String.ofList normal) = some replacement → P given normal)
    (array : ∀ given normal element, c.replacement? (String.ofList normal) = none →
      arrayElement? normal = some element → P (String.ofList element) element → P given normal)
    (single : ∀ given normal, normal ≠ [] → c.replacement? (String.ofList normal) = none →
      arrayElement? normal = none → P given normal)
    (given : String) (normal : List Char) : P given normal := by
  induction hlength : normal.length using Nat.strongRecOn generalizing given normal with
  | _ n ih =>
    by_cases hne : normal = []
    · rw [hne]
      exact blank given
    · cases hnative : c.replacement? (String.ofList normal) with
      | some replacement => exact prescribed given normal replacement hne hnative
      | none =>
        cases harray : arrayElement? normal with
        | some element =>
          -- what is left without the brackets is shorter
          have hshorter := length_lt_of_arrayElement? harray
          exact array given normal element hnative harray (ih _ (hlength ▸ hshorter) _ _ rfl)
        | none => exact single given normal hne hnative harray

/-- **How a spelling is resolved**: by induction on the brackets of an array. -/
theorem resolveNormal_eq_ok {b : TypeConversion} :
    c.resolveNormal given normal = .ok b ↔ c.Resolves given normal b := by
  constructor
  · intro h
    induction given, normal using resolveNormal_induction c generalizing b with
    | blank given =>
      rw [resolveNormal_nil] at h
      cases h
    | prescribed given normal replacement hne hnative =>
      rw [resolveNormal_prescribed hne hnative] at h
      cases h
      exact .prescribed hne hnative
    | array given normal element hnative harray ih =>
      -- an array is resolved through its element, to which the hypothesis applies
      rw [resolveNormal_array hnative harray] at h
      obtain ⟨inner, hinner, houter⟩ := bind_eq_ok.1 h
      exact .array hnative harray (ih hinner) houter
    | single given normal hne hnative harray =>
      rw [resolveNormal_single hne hnative harray] at h
      exact .single hne hnative harray h
  · intro h
    induction h with
    | prescribed hne hnative => exact resolveNormal_prescribed hne hnative
    | array hnative harray _ houter ih =>
      rw [resolveNormal_array hnative harray]
      exact bind_eq_ok.2 ⟨_, ih, houter⟩
    | single hne hnative harray h =>
      rw [resolveNormal_single hne hnative harray]
      exact h

/-! ## Losses are told -/

/-- A type that is widened with loss becomes another one. -/
theorem targetFor_lossy {t : CanonicalType} {info : TypeInfo}
    (h : c.targetFor t = .ok (info, true)) : info.canonical ≠ t := by
  have hfound : c.targetFor? t = some (info, true) := by
    unfold targetFor at h
    split at h
    · next found hfound =>
      cases h
      exact hfound
    · cases h
  unfold targetFor? at hfound
  obtain ⟨rest, hrest⟩ := t.widenings_eq_cons
  rw [hrest, List.findSome?_cons] at hfound
  cases hown : c.target.nativeFor? t with
  | some own =>
    -- the type itself is found first, and without loss
    rw [show (CanonicalType.Fallback.lossless t).canonical = t from rfl, hown] at hfound
    cases hfound
  | none =>
    rw [show (CanonicalType.Fallback.lossless t).canonical = t from rfl, hown] at hfound
    obtain ⟨step, -, hstep⟩ := List.exists_of_findSome?_eq_some hfound
    obtain ⟨native, hnative, heq⟩ := Option.map_eq_some_iff.1 hstep
    obtain ⟨rfl, -⟩ := Prod.mk.inj heq
    exact TypeProfile.canonical_ne hown (TypeProfile.nativeFor?_mem hnative)

/-- A bound that cuts something off is told, and so is a widening with loss. -/
theorem carried_explainsLoss {d : Declared} {given normal : String} {info : TypeInfo} {lossy : Bool}
    (h : c.targetFor d.info.canonical = .ok (info, lossy)) :
    (c.carried d given normal info lossy).ExplainsLoss := by
  unfold TypeConversion.ExplainsLoss carried
  cases hbound : c.boundWarning? d info with
  | some warning => simp
  | none =>
    cases lossy with
    | false => simp
    | true => simp [targetFor_lossy h]

/-- A type that is no array tells its loss, be it modified or carried over. -/
theorem single_explainsLoss {given normal : String} {b : TypeConversion}
    (h : c.single given normal = .ok b) : b.ExplainsLoss := by
  unfold single at h
  split at h
  · cases h
  · next d _ =>
    -- what is modified is not marked as lossy and comes without a warning
    split at h
    · cases h
      simp [TypeConversion.ExplainsLoss, modified]
    · obtain ⟨⟨info, lossy⟩, htarget, ⟨⟩⟩ := bind_eq_ok.1 h
      exact carried_explainsLoss htarget

/-- An array loses what its elements lose, and more if it has to be stored as something else. -/
theorem array_explainsLoss {given element : String} {inner b : TypeConversion}
    (hinner : inner.ExplainsLoss) (h : c.array given element inner = .ok b) : b.ExplainsLoss := by
  unfold array at h
  split at h
  · cases h
    exact hinner
  · obtain ⟨⟨info, lossy⟩, -, ⟨⟩⟩ := bind_eq_ok.1 h
    unfold TypeConversion.ExplainsLoss at hinner ⊢
    cases lossy with
    | false => simpa using hinner
    | true => simp

/-- **A conversion is lossy exactly if it has a warning**, in whatever way it is resolved. -/
theorem Resolves.explainsLoss {b : TypeConversion} (h : c.Resolves given normal b) :
    b.ExplainsLoss := by
  induction h with
  | prescribed => simp [TypeConversion.ExplainsLoss, override]
  | array _ _ _ houter ih => exact array_explainsLoss ih houter
  | single _ _ _ h => exact single_explainsLoss h

/-- **A spelling is converted with a loss exactly if there is a warning.** -/
theorem resolve_lossy_iff {spelling : String} {b : TypeConversion}
    (h : c.resolve spelling = .ok b) : b.lossy = true ↔ b.warnings ≠ [] :=
  (resolveNormal_eq_ok.1 h).explainsLoss

end TypeConverter

end SchemaConversion
