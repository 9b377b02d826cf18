import SchemaConversion.CustomType.Conversion
import SchemaConversion.Proofs.Identifier
import SchemaConversion.Proofs.Outcome

/-!
# The columns of a composite

Each field of a composite becomes a column, or as many as the composite to which it refers has
columns, one level further down. Two facts follow by induction on the levels that are left:

> `columnsAt_ne_nil`: a composite becomes at least one column.

> `columnsAt_short`: if all fields have short names without null characters, so have the columns,
> by a bound that grows with the levels.
-/

namespace SchemaConversion

/-- The name of a field holds no null character and has at most this many bytes. -/
def CompositeField.IsShort (bytes : Nat) (f : CompositeField) : Prop :=
  '\x00' ∉ f.name.toList ∧ f.name.utf8ByteSize ≤ bytes

/-- If a type is a composite, the names of its fields are short. -/
def CustomType.HasShortFields (bytes : Nat) (t : CustomType) : Prop :=
  ∀ fields, t.definition = .composite fields → ∀ f ∈ fields, f.IsShort bytes

namespace CustomConverter

variable {c : CustomConverter} {inner : Nested} {fields : List CompositeField}
  {specs : List ColumnSpec} {spec : ColumnSpec}

theorem explained_eq_ok {α : Type} {x : Except ConversionError α} {a : α} :
    explained x = .ok a ↔ x = .ok a := mapError_eq_ok

theorem about_eq_ok {α : Type} {subject : String} {x : Except ConversionError α} {a : α} :
    about subject x = .ok a ↔ x = .ok a := mapError_eq_ok

/-! ## Field by field -/

/-- What a field becomes: the columns of the composite that it names, named after it, or a single
column of its own name. -/
theorem fieldColumns_cases {field : CompositeField} (h : c.fieldColumns inner field = .ok specs) :
    (∃ t nestedFields nested, CustomType.find? c.catalog field.dataType = some t ∧
        t.definition = .composite nestedFields ∧ inner.columns nestedFields = .ok nested ∧
        specs = nested.map fun column =>
          { column with suffix := Identifier.derived field.name column.suffix }) ∨
      (∀ t, CustomType.find? c.catalog field.dataType = some t → t.category ≠ .composite) ∧
        ∃ dataType, c.spelling inner.resolve field.dataType = .ok dataType ∧
          specs = [⟨field.name, dataType⟩] := by
  unfold fieldColumns at h
  split at h
  · cases h
  · split at h
    · next name nestedFields hfind =>
      obtain ⟨nested, hnested, rfl⟩ := map_eq_ok.1 h
      exact .inl ⟨_, _, nested, hfind, rfl, hnested, rfl⟩
    · next hsingle =>
      obtain ⟨dataType, hspelling, rfl⟩ := map_eq_ok.1 h
      refine .inr ⟨?_, dataType, about_eq_ok.1 hspelling, rfl⟩
      rintro ⟨name, definition⟩ hfind hcategory
      cases definition with
      | composite nestedFields => exact hsingle name nestedFields hfind
      | _ => cases hcategory

/-- A field that becomes columns has a name. -/
theorem named_of_fieldColumns {field : CompositeField}
    (h : c.fieldColumns inner field = .ok specs) : Text.isBlankText field.name = false := by
  unfold fieldColumns at h
  split at h
  · cases h
  · next hname => exact Bool.eq_false_iff.2 hname

/-- A field with a name that names a composite becomes the columns of that. -/
theorem fieldColumns_of_nested {field : CompositeField} {t : CustomType}
    {nestedFields : List CompositeField}
    (hname : Text.isBlankText field.name = false)
    (names : CustomType.find? c.catalog field.dataType = some t)
    (definition_eq : t.definition = .composite nestedFields)
    (h : inner.columns nestedFields = .ok specs) :
    c.fieldColumns inner field = .ok (specs.map fun column =>
      { column with suffix := Identifier.derived field.name column.suffix }) := by
  obtain ⟨name, definition⟩ := t
  obtain rfl : definition = .composite nestedFields := definition_eq
  unfold fieldColumns
  rw [hname, names]
  exact map_eq_ok.2 ⟨specs, h, rfl⟩

/-- A field with a name that names no composite becomes a single column. -/
theorem fieldColumns_of_single {field : CompositeField} {dataType : String}
    (hname : Text.isBlankText field.name = false)
    (single : ∀ t, CustomType.find? c.catalog field.dataType = some t → t.category ≠ .composite)
    (h : c.spelling inner.resolve field.dataType = .ok dataType) :
    c.fieldColumns inner field = .ok [⟨field.name, dataType⟩] := by
  unfold fieldColumns
  rw [hname, if_neg Bool.false_ne_true]
  split
  · next name nestedFields hfind => exact absurd rfl (single _ hfind)
  · exact map_eq_ok.2 ⟨dataType, about_eq_ok.2 h, rfl⟩

/-- The columns of a composite are those of its fields, one after the other. -/
theorem columns_eq_ok :
    c.columns inner fields = .ok specs ↔
      fields ≠ [] ∧ ∃ parts, fields.mapM (c.fieldColumns inner) = .ok parts ∧
        parts.flatten = specs := by
  unfold columns
  cases fields with
  | nil => simp
  | cons field rest => simp [map_eq_ok]

/-- The columns for one field are never none, if those of a nested composite are not. -/
theorem fieldColumns_ne_nil {field : CompositeField}
    (hinner : ∀ {fields specs}, inner.columns fields = .ok specs → specs ≠ [])
    (h : c.fieldColumns inner field = .ok specs) : specs ≠ [] := by
  rcases fieldColumns_cases h with ⟨_, _, nested, -, -, hnested, rfl⟩ | ⟨-, dataType, -, rfl⟩
  · exact fun hnil => hinner hnested (List.map_eq_nil_iff.1 hnil)
  · exact List.cons_ne_nil _ _

/-- A composite becomes at least one column, if the composites in it do. -/
theorem columns_ne_nil (hinner : ∀ {fields specs}, inner.columns fields = .ok specs → specs ≠ [])
    (h : c.columns inner fields = .ok specs) : specs ≠ [] := by
  obtain ⟨hfields, parts, hparts, rfl⟩ := columns_eq_ok.1 h
  cases mapM_eq_ok.1 hparts with
  | nil => exact absurd rfl hfields
  | cons hpart _ =>
    exact fun hnil => fieldColumns_ne_nil hinner hpart (List.append_eq_nil_iff.1 hnil).1

/-- **A composite becomes at least one column**, however many levels are left. -/
theorem columnsAt_ne_nil {left : Nat} (h : c.columnsAt left fields = .ok specs) : specs ≠ [] := by
  induction left generalizing fields specs with
  | zero =>
    rw [columnsAt] at h
    cases h
  | succ left ih =>
    rw [columnsAt] at h
    exact columns_ne_nil ih h

/-! ## The names of columns -/

/-- Where the column of a field comes from: it is the field itself, or a column of the composite of
the catalog to which the field refers. -/
theorem mem_fieldColumns {field : CompositeField} (h : c.fieldColumns inner field = .ok specs)
    (hspec : spec ∈ specs) :
    spec.suffix = field.name ∨
      ∃ t ∈ c.catalog, ∃ nestedFields nested, t.definition = .composite nestedFields ∧
        inner.columns nestedFields = .ok nested ∧
        ∃ column ∈ nested, spec.suffix = Identifier.derived field.name column.suffix := by
  rcases fieldColumns_cases h with ⟨t, nestedFields, nested, hfind, hdefinition, hnested, rfl⟩ |
    ⟨-, dataType, -, rfl⟩
  · obtain ⟨column, hcolumn, rfl⟩ := List.mem_map.1 hspec
    exact .inr ⟨t, List.mem_of_find?_eq_some hfind, nestedFields, nested, hdefinition, hnested,
      column, hcolumn, rfl⟩
  · rw [List.mem_singleton.1 hspec]
    exact .inl rfl

/-- Each column of a composite is one for a field of it. -/
theorem mem_columns (h : c.columns inner fields = .ok specs) (hspec : spec ∈ specs) :
    ∃ field ∈ fields, ∃ part, c.fieldColumns inner field = .ok part ∧ spec ∈ part := by
  obtain ⟨-, parts, hparts, rfl⟩ := columns_eq_ok.1 h
  obtain ⟨part, hpart, hmem⟩ := List.mem_flatten.1 hspec
  obtain ⟨field, hfield, hcolumns⟩ := exists_of_mapM hparts hpart
  exact ⟨field, hfield, part, hcolumns, hmem⟩

/-- The columns of a field of a composite are among those of the composite. -/
theorem fieldColumns_subset {field : CompositeField} (h : c.columns inner fields = .ok specs)
    (hfield : field ∈ fields) : ∃ part, c.fieldColumns inner field = .ok part ∧ part ⊆ specs := by
  obtain ⟨-, parts, hparts, rfl⟩ := columns_eq_ok.1 h
  obtain ⟨part, hpart, hcolumns⟩ := ok_of_mapM hparts hfield
  exact ⟨part, hcolumns, fun spec hspec => List.mem_flatten_of_mem hpart hspec⟩

/-- **The names of columns grow with the levels** by no more than a field's name and an
underscore for each. -/
theorem columnsAt_short {left bytes : Nat} (hcatalog : ∀ t ∈ c.catalog, t.HasShortFields bytes)
    (hfields : ∀ f ∈ fields, f.IsShort bytes) (h : c.columnsAt left fields = .ok specs)
    (hspec : spec ∈ specs) :
    '\x00' ∉ spec.suffix.toList ∧ spec.suffix.utf8ByteSize < left * (bytes + 1) := by
  induction left generalizing fields specs spec with
  | zero =>
    rw [columnsAt] at h
    cases h
  | succ left ih =>
    rw [columnsAt] at h
    obtain ⟨field, hfield, part, hpart, hmem⟩ := mem_columns h hspec
    obtain ⟨hnull, hsize⟩ := hfields field hfield
    rw [Nat.succ_mul]
    rcases mem_fieldColumns hpart hmem with
      hname | ⟨t, ht, nestedFields, nested, hdefinition, hnested, column, hcolumn, hname⟩
    · rw [hname]
      exact ⟨hnull, by omega⟩
    · -- a nested column is one level further down
      obtain ⟨hcolumnNull, hcolumnSize⟩ :=
        ih (hcatalog t ht nestedFields hdefinition) hnested hcolumn
      have hderived := Identifier.derived_size_le field.name column.suffix
      rw [hname, Identifier.null_mem_derived hnull]
      exact ⟨hcolumnNull, by omega⟩

end CustomConverter

end SchemaConversion
