import SchemaConversion.CustomType.Conversion
import SchemaConversion.Proofs.LowerCase
import SchemaConversion.Proofs.Schema

/-!
# What references depend on

A reference names the first type of a catalog whose name it is, without regard to the case of ASCII
letters. In a valid catalog there is no other one, since names that are the same up to ASCII letters
are the same in lower case:

> `find?_eq_some`: a reference names a type exactly if the type is in the catalog and has the name.

So the order of a catalog does not matter, neither for what references name nor for the conversion
of types, which looks at the catalog for references only:

> `resolve_withCatalog`: with another catalog in which references name the same types, every type
> is converted in the same way.
-/

namespace SchemaConversion

namespace CustomType

variable {catalog catalog' : List CustomType} {reference : String} {t u : CustomType}

/-- A type has the name by which a reference calls it. -/
def IsNamedBy (t : CustomType) (reference : String) : Prop :=
  Text.equalIgnoringCase t.name (Text.trim reference) = true

instance : Decidable (t.IsNamedBy reference) := inferInstanceAs (Decidable (_ = true))

/-- A type that a reference names has the key of the reference. -/
theorem IsNamedBy.key_eq (h : t.IsNamedBy reference) :
    t.key = Text.lowerCase (Text.trim reference) := by
  unfold key
  exact Text.lowerCase_eq h

/-- What a reference finds is in the catalog and has the name. -/
theorem IsNamedBy.of_find? (h : find? catalog reference = some t) :
    t ∈ catalog ∧ t.IsNamedBy reference := by
  unfold find? at h
  have hnamed := List.find?_some h
  exact ⟨List.mem_of_find?_eq_some h, hnamed⟩

/-- A reference that names nothing is found nowhere. -/
theorem find?_eq_none : find? catalog reference = none ↔ ∀ t ∈ catalog, ¬t.IsNamedBy reference := by
  unfold find?
  rw [List.find?_eq_none]
  rfl

/-- **What a reference names**, if no two types of the catalog are the same in lower case. -/
theorem find?_eq_some (hkeys : (catalog.map key).Nodup) :
    find? catalog reference = some t ↔ t ∈ catalog ∧ t.IsNamedBy reference := by
  refine ⟨IsNamedBy.of_find?, ?_⟩
  rintro ⟨ht, hnamed⟩
  cases h : find? catalog reference with
  | none => exact absurd hnamed (find?_eq_none.1 h t ht)
  | some u =>
    -- two types that one reference names are the same in lower case
    obtain ⟨hu, hunamed⟩ := IsNamedBy.of_find? h
    rw [List.inj_on_of_nodup_map hkeys hu ht (hunamed.key_eq.trans hnamed.key_eq.symm)]

/-- References name the same types in two catalogs. -/
def SameReferences (catalog catalog' : List CustomType) : Prop :=
  ∀ reference, find? catalog' reference = find? catalog reference

/-- The order of a catalog does not matter. -/
theorem sameReferences_of_perm (hkeys : (catalog.map key).Nodup) (h : catalog.Perm catalog') :
    SameReferences catalog catalog' := by
  intro reference
  have hkeys' : (catalog'.map key).Nodup := (h.map key).nodup_iff.1 hkeys
  refine Option.ext fun t => ?_
  rw [find?_eq_some hkeys', find?_eq_some hkeys, h.mem_iff]

end CustomType

namespace CustomConverter

variable {c : CustomConverter} {catalog : List CustomType}

/-- The conversion of custom types with another catalog. -/
def withCatalog (c : CustomConverter) (catalog : List CustomType) : CustomConverter :=
  { c with catalog }

section SameReferences

variable (h : CustomType.SameReferences c.catalog catalog)
include h

theorem spelling_withCatalog : (c.withCatalog catalog).spelling = c.spelling := by
  funext resolve reference
  unfold spelling
  rw [show (c.withCatalog catalog).catalog = catalog from rfl, h reference]
  rfl

theorem columns_withCatalog : (c.withCatalog catalog).columns = c.columns := by
  have hfields : (c.withCatalog catalog).fieldColumns = c.fieldColumns := by
    funext inner field
    unfold fieldColumns
    rw [show (c.withCatalog catalog).catalog = catalog from rfl, h field.dataType,
      spelling_withCatalog h]
  funext inner fields
  unfold columns
  rw [hfields]

theorem asNative_withCatalog : (c.withCatalog catalog).asNative = c.asNative := by
  have htyped : (c.withCatalog catalog).typedField = c.typedField := by
    funext resolve field
    unfold typedField
    rw [spelling_withCatalog h]
  have hfilling : (c.withCatalog catalog).filling = c.filling := by
    funext resolve t
    unfold filling
    rw [htyped, spelling_withCatalog h]
    rfl
  funext resolve t
  unfold asNative
  rw [hfilling]

/-- With the same references every strategy leads to the same. -/
theorem resolveWith_withCatalog : (c.withCatalog catalog).resolveWith = c.resolveWith := by
  have hrendition : (c.withCatalog catalog).rendition = c.rendition := by
    funext inner strategy t
    unfold rendition
    rw [asNative_withCatalog h, columns_withCatalog h]
    rfl
  have happly : (c.withCatalog catalog).apply = c.apply := by
    funext inner strategy t
    unfold apply
    rw [hrendition]
  funext inner t
  unfold resolveWith
  rw [happly]
  rfl

/-- The levels go down in both catalogs side by side. -/
theorem levels_withCatalog (left : Nat) :
    (c.withCatalog catalog).resolveAt left = c.resolveAt left ∧
      (c.withCatalog catalog).columnsAt left = c.columnsAt left := by
  induction left with
  | zero =>
    constructor
    · funext t
      rw [resolveAt, resolveAt]
      rfl
    · funext fields
      rw [columnsAt, columnsAt]
      rfl
  | succ left ih =>
    constructor
    · funext t
      rw [resolveAt, resolveAt, ih.1, ih.2, resolveWith_withCatalog h]
    · funext fields
      rw [columnsAt, columnsAt, ih.1, ih.2, columns_withCatalog h]

/-- **Only references depend on the catalog.** -/
theorem resolve_withCatalog : (c.withCatalog catalog).resolve = c.resolve :=
  (levels_withCatalog h c.levels).1

end SameReferences

end CustomConverter

end SchemaConversion
