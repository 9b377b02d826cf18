import SchemaConversion.Schema
import Mathlib.Data.List.Nodup

/-!
# What a valid schema is

The walk over a schema stops at the first violation. That it finds none says something about the
whole schema:

> `validate_eq_ok`: all names are usable, all custom types are well formed, and no two of them have
> the same name in lower case.

The walk over the catalog remembers the names that it has passed, so the invariant is about a rest
of the catalog and the names before it.
-/

namespace SchemaConversion

/-- The name of a custom type in the case in which names are compared. -/
def CustomType.key (t : CustomType) : String := Text.lowerCase t.name

/-- A type that is well formed has a usable name. -/
theorem CustomType.name_usable (t : CustomType) (h : t.fault? = none) :
    Identifier.fault? t.name = none := by
  unfold fault? at h
  simpa using (Option.or_eq_none_iff.1 h).1

/-- Fields of a composite behind some names that have no fault are named differently, and by none of
these names. -/
theorem CustomType.fieldFault?_names {seen : List String} {fields : List CompositeField}
    (h : fieldFault? seen fields = none) :
    (fields.map fun f => Text.lowerCase f.name).Nodup ∧
      ∀ f ∈ fields, Text.lowerCase f.name ∉ seen := by
  induction fields generalizing seen with
  | nil => exact ⟨List.nodup_nil, fun f hf => absurd hf List.not_mem_nil⟩
  | cons f rest ih =>
    rw [fieldFault?] at h
    split at h
    · cases h
    · split at h
      · cases h
      · next hnew =>
        obtain ⟨hnodup, hrest⟩ := ih h
        -- the walk has refused a name that was seen
        have hf : Text.lowerCase f.name ∉ seen := fun hseen => hnew (List.contains_iff_mem.2 hseen)
        constructor
        · rw [List.map_cons, List.nodup_cons]
          refine ⟨fun hmem => ?_, hnodup⟩
          obtain ⟨g, hg, hsame⟩ := List.mem_map.1 hmem
          exact hrest g hg (hsame ▸ List.mem_cons_self)
        · intro g hg
          rcases List.mem_cons.1 hg with rfl | hg
          · exact hf
          · exact fun hseen => hrest g hg (List.mem_cons_of_mem _ hseen)

/-- **The fields of a composite that is well formed have different names** in lower case. -/
theorem CustomType.fieldNames_nodup {t : CustomType} {fields : List CompositeField}
    (h : t.fault? = none) (hd : t.definition = .composite fields) :
    (fields.map fun f => Text.lowerCase f.name).Nodup := by
  have hdefinition := (Option.or_eq_none_iff.1 h).2
  rw [hd, definitionFault?] at hdefinition
  split at hdefinition
  · cases hdefinition
  · exact (fieldFault?_names hdefinition).1

namespace Schema

variable {s : Schema}

/-- The names of an object are usable if its own is and those of its fields are. -/
theorem nameFault?_eq_none {o : SchemaObject} :
    nameFault? o = none ↔
      Identifier.fault? o.name = none ∧ ∀ f ∈ o.fields, Identifier.fault? f.name = none := by
  unfold nameFault?
  rw [Option.or_eq_none_iff, List.findSome?_eq_none_iff]

/-- A catalog has no violation if its first type has none and the rest, behind this name, has none.
-/
theorem catalogError?_cons (seen : List String) (t : CustomType) (rest : List CustomType) :
    catalogError? seen (t :: rest) = none ↔
      t.fault? = none ∧ t.key ∉ seen ∧ catalogError? (t.key :: seen) rest = none := by
  rw [catalogError?]
  cases hf : t.fault? with
  | some fault => simp
  | none =>
    by_cases hseen : t.key ∈ seen
    · have hcontains : seen.contains (Text.lowerCase t.name) = true := List.contains_iff_mem.2 hseen
      dsimp only
      rw [if_pos hcontains]
      simp [hseen]
    · -- the walk goes on and remembers the name
      have hcontains : ¬seen.contains (Text.lowerCase t.name) = true := fun h =>
        hseen (List.contains_iff_mem.1 h)
      dsimp only
      rw [if_neg hcontains]
      exact ⟨fun h => ⟨rfl, hseen, h⟩, fun h => h.2.2⟩

/-- A catalog behind some names has no violation if its types are well formed and have different
names, which are none of these. -/
theorem catalogError?_eq_none {seen : List String} {types : List CustomType} :
    catalogError? seen types = none ↔
      (∀ t ∈ types, t.fault? = none) ∧ (types.map CustomType.key).Nodup ∧
        ∀ t ∈ types, t.key ∉ seen := by
  induction types generalizing seen with
  | nil => simp [catalogError?]
  | cons t rest ih =>
    -- the rest is behind one name more, which is therefore none of its own
    rw [catalogError?_cons, ih]
    simp only [List.mem_cons, forall_eq_or_imp, List.map_cons, List.nodup_cons, List.mem_map,
      not_or, not_exists, not_and]
    constructor
    · rintro ⟨hf, hnew, hfaults, hnodup, hrest⟩
      exact ⟨⟨hf, hfaults⟩, ⟨fun u hu => (hrest u hu).1, hnodup⟩, hnew, fun u hu => (hrest u hu).2⟩
    · rintro ⟨⟨hf, hfaults⟩, ⟨hdiffer, hnodup⟩, hnew, hrest⟩
      exact ⟨hf, hnew, hfaults, hnodup, fun u hu => ⟨hdiffer u hu, hrest u hu⟩⟩

/-- **Valid schemas.** The validation of a schema accepts what has only usable names and a catalog
of well-formed types that differ in their names. -/
theorem validate_eq_ok :
    s.validate = .ok () ↔
      (∀ k, ∀ o ∈ s.objects k, nameFault? o = none) ∧
        (∀ t ∈ s.types, t.fault? = none) ∧ (s.types.map CustomType.key).Nodup := by
  have hobjects : (ContainerKind.all.flatMap s.objects).findSome? nameFault? = none ↔
      ∀ k, ∀ o ∈ s.objects k, nameFault? o = none := by
    simp only [List.findSome?_eq_none_iff, List.mem_flatMap, forall_exists_index, and_imp]
    constructor
    · intro h k o ho
      exact h o k k.mem_all ho
    · intro h o k _ ho
      exact h k o ho
  have hcatalog : catalogError? [] s.types = none ↔ _ := catalogError?_eq_none
  simp only [List.not_mem_nil, not_false_eq_true, implies_true, and_true] at hcatalog
  rw [← hobjects, ← hcatalog]
  unfold validate error?
  cases (ContainerKind.all.flatMap s.objects).findSome? nameFault? with
  | some fault => simp
  | none => cases catalogError? [] s.types <;> simp

/-- In a valid schema a name stands for one custom type. -/
theorem types_eq_of_key (h : s.validate = .ok ()) {t u : CustomType} (ht : t ∈ s.types)
    (hu : u ∈ s.types) (hkey : t.key = u.key) : t = u :=
  List.inj_on_of_nodup_map (validate_eq_ok.1 h).2.2 ht hu hkey

end Schema

end SchemaConversion
