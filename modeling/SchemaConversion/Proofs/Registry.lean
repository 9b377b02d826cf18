import SchemaConversion.ConversionMatrix
import SchemaConversion.Databases.Definition
import SchemaConversion.Proofs.LowerCase
import SchemaConversion.Proofs.Outcome

/-!
# What identifiers stand for

A registry is filled by one registration after the other: of capabilities, of profiles and of
aliases, in any order and over one another. What every registration preserves is that all is kept
under the identifiers it belongs to, and that aliases are kept in the spelling in which they are
looked up:

> `isSound_of_reachable`: so it is in whatever way the registry has been filled.

An identifier is normalized by one look at the aliases. What this leads to is in the same spelling,
but it may be an alias itself:

> `normalize_normalize_iff`: to normalize once more changes nothing exactly if no alias leads on.

> `isFlat_iff`: this holds of all identifiers exactly if no alias stands for another.
-/

namespace SchemaConversion

namespace Registry

variable {r : Registry} {id spelling : String}

/-- **A spelling under which something is registered is its own.** -/
theorem key_key (id : String) : key (key id) = key id := by
  unfold key
  rw [Text.trim_lowerCase_trim, Text.lowerCase_lowerCase]

/-! ## Registrations -/

/-- What is registered. -/
inductive Registration where
  | capabilities (c : Capabilities)
  | typeProfile (p : TypeProfile)
  | featureProfile (p : FeatureProfile)
  /-- Another spelling of an identifier. -/
  | spelling (spelling id : String)

/-- The registry with one registration more. -/
def register (r : Registry) : Registration → Registry
  | .capabilities c => r.withCapabilities c
  | .typeProfile p => r.withTypeProfile p
  | .featureProfile p => r.withFeatureProfile p
  | .spelling spelling id => r.withAlias spelling id

/-- A registry that registrations lead to. -/
def Reachable (r : Registry) : Prop :=
  ∃ registrations : List Registration, registrations.foldl register empty = r

/-- Whatever is found in the registry belongs to the identifier under which it is found, and aliases
are in the spelling in which identifiers are looked up. -/
structure IsSound (r : Registry) : Prop where
  capabilities : ∀ id c, r.capabilities.find? id = some c → c.id = id
  typeProfiles : ∀ id p, r.typeProfiles.find? id = some p → key p.database = id
  featureProfiles : ∀ id p, r.featureProfiles.find? id = some p → key p.database = id
  aliases : ∀ spelling id, r.aliases.find? spelling = some id →
    key spelling = spelling ∧ key id = id

theorem isSound_empty : empty.IsSound where
  capabilities _ _ h := by cases h
  typeProfiles _ _ h := by cases h
  featureProfiles _ _ h := by cases h
  aliases _ _ h := by cases h

/-- What holds of the entries of a dictionary and of one more holds of all together. -/
theorem find?_insert_of {α : Type} {P : String → α → Prop} {d : Dictionary α} {k : String} {v : α}
    (hold : ∀ k v, d.find? k = some v → P k v) (hnew : P k v) :
    ∀ k' v', (d.insert k v).find? k' = some v' → P k' v' := by
  intro k' v' h
  rw [Dictionary.find?_insert] at h
  split at h
  · next heq =>
    rw [heq, ← Option.some.inj h]
    exact hnew
  · exact hold k' v' h

/-- **A registration keeps a registry sound.** -/
theorem IsSound.register (h : r.IsSound) (x : Registration) : (r.register x).IsSound := by
  cases x with
  | capabilities c =>
    exact { h with
      capabilities :=
        find?_insert_of (P := fun k (c : Capabilities) => c.id = k) h.capabilities rfl }
  | typeProfile p =>
    exact { h with
      typeProfiles := find?_insert_of (P := fun k (p : TypeProfile) => key p.database = k)
        h.typeProfiles rfl }
  | featureProfile p =>
    exact { h with
      featureProfiles := find?_insert_of (P := fun k (p : FeatureProfile) => key p.database = k)
        h.featureProfiles rfl }
  | spelling spelling id =>
    exact { h with
      aliases := find?_insert_of (P := fun k v => key k = k ∧ key v = v) h.aliases
        ⟨key_key spelling, key_key id⟩ }

/-- **However a registry has been filled, it is sound.** -/
theorem isSound_of_reachable (h : r.Reachable) : r.IsSound := by
  obtain ⟨registrations, rfl⟩ := h
  -- registrations come one after the other, and each keeps the registry sound
  refine List.foldlRecOn registrations _ isSound_empty ?_
  intro r h x _
  exact h.register x

theorem reachable_empty : empty.Reachable := ⟨[], rfl⟩

theorem Reachable.register (h : r.Reachable) (x : Registration) : (r.register x).Reachable := by
  obtain ⟨registrations, rfl⟩ := h
  exact ⟨registrations ++ [x], by rw [List.foldl_append]; rfl⟩

/-- To register a database is to register its aliases, its capabilities and its profiles. -/
theorem Reachable.withDatabase (h : r.Reachable) (d : DatabaseDefinition) :
    (r.withDatabase d).Reachable := by
  -- the aliases come first, one registration each
  have haliases : (d.aliases.foldl (fun r spelling => r.withAlias spelling d.id) r).Reachable := by
    refine List.foldlRecOn d.aliases _ h ?_
    intro r h spelling _
    exact h.register (.spelling spelling d.id)
  exact ((haliases.register (.capabilities _)).register (.typeProfile _)).register
    (.featureProfile _)

/-! ## Normalizing twice -/

/-- What is known about a database is known under the identifier that its spelling stands for. -/
theorem IsSound.capabilities?_id (h : r.IsSound) {c : Capabilities}
    (hc : r.capabilities? id = some c) : c.id = r.normalize id :=
  h.capabilities _ _ hc

/-- An identifier that has been normalized is in the spelling in which it is looked up. -/
theorem IsSound.key_normalize (h : r.IsSound) (id : String) :
    key (r.normalize id) = r.normalize id := by
  unfold normalize
  cases hfind : r.aliases.find? (key id) with
  | none => exact key_key id
  | some next => exact (h.aliases _ _ hfind).2

/-- No alias leads on from an identifier. -/
def IsFinal (r : Registry) (id : String) : Prop :=
  ∀ next, r.aliases.find? id = some next → next = id

instance (r : Registry) (id : String) : Decidable (r.IsFinal id) :=
  inferInstanceAs (Decidable (∀ next ∈ r.aliases.find? id, next = id))

/-- No alias stands for another. -/
def IsFlat (r : Registry) : Prop := ∀ spelling id, r.aliases.find? spelling = some id → r.IsFinal id

/-- An identifier in the spelling in which it is looked up stands for itself exactly if no alias
leads on from it. -/
theorem normalize_eq_self (hid : key id = id) : r.normalize id = id ↔ r.IsFinal id := by
  unfold normalize IsFinal
  rw [hid]
  cases r.aliases.find? id with
  | none => simp
  | some next => simp

/-- **Normalizing once more** changes nothing exactly if no alias leads on. -/
theorem IsSound.normalize_normalize_iff (h : r.IsSound) :
    r.normalize (r.normalize id) = r.normalize id ↔ r.IsFinal (r.normalize id) :=
  normalize_eq_self (h.key_normalize id)

theorem isFlat_of_entries (h : ∀ entry ∈ r.aliases.entries, r.IsFinal entry.2) : r.IsFlat := by
  intro spelling id hfind
  obtain ⟨before, after, hentries, -⟩ := List.lookup_eq_some_iff.1 hfind
  have hentry : (spelling, id) ∈ r.aliases.entries := by
    rw [hentries]
    exact List.mem_append_right _ List.mem_cons_self
  exact h _ hentry

/-- If no alias stands for another, none leads on from what has been normalized. -/
theorem IsFlat.isFinal (hflat : r.IsFlat) (id : String) : r.IsFinal (r.normalize id) := by
  unfold normalize
  cases hfind : r.aliases.find? (key id) with
  | some next => exact hflat _ _ hfind
  -- what is no alias stands for itself, so nothing leads on
  | none =>
    intro next hnext
    rw [Option.getD_none, hfind] at hnext
    cases hnext

/-- **Registries in which normalizing is final** are those without aliases of aliases. -/
theorem IsSound.isFlat_iff (h : r.IsSound) :
    r.IsFlat ↔ ∀ id, r.normalize (r.normalize id) = r.normalize id := by
  constructor
  · intro hflat id
    exact h.normalize_normalize_iff.2 (hflat.isFinal id)
  -- an alias normalizes to what it stands for, so that has to be final
  · intro hall spelling id hfind
    have hnormal : r.normalize spelling = id := by
      unfold normalize
      rw [(h.aliases _ _ hfind).1, hfind]
      rfl
    have hfinal := h.normalize_normalize_iff.1 (hall spelling)
    rw [hnormal] at hfinal
    exact hfinal

/-! ## What is looked up -/

theorem requireCapabilities_eq_ok {c : Capabilities} :
    r.requireCapabilities id = .ok c ↔ r.capabilities? id = some c := by
  unfold requireCapabilities
  cases r.capabilities? id <;> simp

end Registry

/-- A matrix is about the databases that are looked up for it. -/
theorem ConversionMatrix.generate_pair {r : Registry} {estimator : Estimator}
    {source target : String} {m : ConversionMatrix}
    (h : generate r estimator source target = .ok m) :
    r.capabilities? source = some m.source ∧ r.capabilities? target = some m.target := by
  unfold generate at h
  simp only [bind_eq_ok, Registry.requireCapabilities_eq_ok] at h
  obtain ⟨_, hsource, _, htarget, _, -, _, -, _, -, _, -, heq⟩ := h
  cases heq
  exact ⟨hsource, htarget⟩

end SchemaConversion
