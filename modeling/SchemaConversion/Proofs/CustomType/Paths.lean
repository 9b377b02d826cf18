import SchemaConversion.Proofs.CustomType.Columns
import SchemaConversion.Proofs.LowerCase
import SchemaConversion.Proofs.Schema

/-!
# The paths to columns

A column of a flattened composite is reached on a path: the name of a field, then the name of a
field of the composite to which it refers, and so on. The column is named by joining the path:

> `columnsAt_suffixes`: the columns of a composite are named by its paths, one for each, in order.

The paths of a composite are different, since the names of its fields are:

> `columnPaths_nodup`: no two paths of a composite are the same up to the case of ASCII letters.

That does not make the names different. But it does if no name is cut and if, wherever paths part,
no name begins with another one and an underscore:

> `intercalate_injOn`: paths that part clearly are told apart by their names.
-/

namespace SchemaConversion

namespace Identifier

/-- The name of the column at the end of a path. -/
def joined : List String → String
  | [] => ""
  | [name] => name
  | name :: rest => derived name (joined rest)

theorem joined_cons {rest : List String} (name : String) (h : rest ≠ []) :
    joined (name :: rest) = derived name (joined rest) := by
  cases rest with
  | nil => exact absurd rfl h
  | cons next rest => rfl

/-- To go on from a path is to derive a name from that of the path. -/
theorem joined_map_cons {paths : List (List String)} {suffixes : List String} (name : String)
    (hne : ∀ path ∈ paths, path ≠ []) (h : suffixes = paths.map joined) :
    suffixes.map (derived name) = (paths.map (name :: ·)).map joined := by
  rw [h, List.map_map, List.map_map]
  exact List.map_congr_left fun path hpath => (joined_cons name (hne path hpath)).symm

/-- The names of a path fit an identifier, with underscores between them. -/
def Fits (path : List String) : Prop := ("_".intercalate path).utf8ByteSize ≤ maxBytes

instance (path : List String) : Decidable (Fits path) := inferInstanceAs (Decidable (_ ≤ _))

theorem intercalate_cons_size {rest : List String} (name : String) (h : rest ≠ []) :
    ("_".intercalate (name :: rest)).utf8ByteSize =
      name.utf8ByteSize + 1 + ("_".intercalate rest).utf8ByteSize := by
  rw [String.intercalate_cons_of_ne_nil h, String.utf8ByteSize_append, String.utf8ByteSize_append]
  rfl

/-- **A path that fits is joined as it is.** -/
theorem joined_eq {path : List String} (h : Fits path) : joined path = "_".intercalate path := by
  induction path with
  | nil => rfl
  | cons name rest ih =>
    by_cases hrest : rest = []
    · rw [hrest, String.intercalate_singleton]
      rfl
    · unfold Fits at h ih
      rw [intercalate_cons_size name hrest] at h
      have hjoined : joined rest = "_".intercalate rest := ih (by omega)
      rw [joined_cons name hrest, hjoined, derived_eq h, String.intercalate_cons_of_ne_nil hrest]

example : Fits ["total", "net", "amount"] ∧
    joined ["total", "net", "amount"] = "total_net_amount" := by decide

/-! ## Paths that part -/

/-- A name begins with another one and an underscore. -/
def Continues (name base : String) : Prop := base.toList ++ ['_'] <+: name.toList

/-- Wherever two paths part and the first goes on, the name in the second does not begin with the
one in the first and an underscore. -/
def PartClearly (paths : List (List String)) : Prop :=
  ∀ common a p b q, common ++ a :: p ∈ paths → common ++ b :: q ∈ paths → p ≠ [] →
    ¬Continues b a

/-- What follows a name in the text of a path. -/
def following (rest : List String) : List Char :=
  if rest = [] then [] else '_' :: ("_".intercalate rest).toList

/-- The text of a path is its first name and what follows this. -/
theorem toList_intercalate_cons (name : String) (rest : List String) :
    ("_".intercalate (name :: rest)).toList = name.toList ++ following rest := by
  unfold following
  by_cases hrest : rest = []
  · rw [if_pos hrest, hrest, String.intercalate_singleton, List.append_nil]
  · rw [if_neg hrest, String.intercalate_cons_of_ne_nil hrest, String.toList_append,
      String.toList_append, List.append_assoc]
    rfl

/-- Paths go on alike if the same follows. -/
theorem following_inj {p q : List String} (h : following p = following q) :
    (p = [] ↔ q = []) ∧ "_".intercalate p = "_".intercalate q := by
  unfold following at h
  by_cases hp : p = [] <;> by_cases hq : q = []
  · exact ⟨⟨fun _ => hq, fun _ => hp⟩, by rw [hp, hq]⟩
  · rw [if_pos hp, if_neg hq] at h
    cases h
  · rw [if_neg hp, if_pos hq] at h
    cases h
  · rw [if_neg hp, if_neg hq, List.cons.injEq] at h
    exact ⟨⟨fun hnil => absurd hnil hp, fun hnil => absurd hnil hq⟩, String.toList_inj.1 h.2⟩

/-- What a longer name has beyond another one begins with an underscore if it is what follows the
other one on a path. -/
theorem continues_of_following {a b : String} {p : List String} {c : Char} {more rest : List Char}
    (hb : b.toList = a.toList ++ c :: more) (h : following p = c :: more ++ rest) :
    p ≠ [] ∧ Continues b a := by
  unfold following at h
  by_cases hp : p = []
  · rw [if_pos hp] at h
    cases h
  · rw [if_neg hp, List.cons_append, List.cons.injEq] at h
    obtain ⟨rfl, -⟩ := h
    exact ⟨hp, more, by rw [hb, List.append_assoc, List.singleton_append]⟩

/-- If the texts of two paths are the same, then the first name of the one begins with the first
name of the other and an underscore, or the first names are the same and so is what follows. -/
theorem intercalate_parts {a b : String} {p q : List String}
    (h : "_".intercalate (a :: p) = "_".intercalate (b :: q)) :
    (p ≠ [] ∧ Continues b a) ∨ (q ≠ [] ∧ Continues a b) ∨
      (a = b ∧ (p = [] ↔ q = []) ∧ "_".intercalate p = "_".intercalate q) := by
  have htexts := congrArg String.toList h
  rw [toList_intercalate_cons, toList_intercalate_cons] at htexts
  -- one of the names is as long as the other one or longer, by these characters
  rcases List.append_eq_append_iff.1 htexts with ⟨more, hb, hrest⟩ | ⟨more, ha, hrest⟩
  · cases more with
    | nil =>
      rw [List.append_nil] at hb
      exact .inr (.inr ⟨String.toList_inj.1 hb.symm, following_inj hrest⟩)
    | cons c more => exact .inl (continues_of_following hb hrest)
  · cases more with
    | nil =>
      rw [List.append_nil] at ha
      exact .inr (.inr ⟨String.toList_inj.1 ha, following_inj hrest.symm⟩)
    | cons c more => exact .inr (.inl (continues_of_following ha hrest))

/-- **Paths that part clearly are told apart**, by induction along the first of two with what they
have in common so far. -/
theorem intercalate_injOn {paths : List (List String)} (h : PartClearly paths)
    (common p q : List String) (hp : common ++ p ∈ paths) (hq : common ++ q ∈ paths)
    (hends : p = [] ↔ q = []) (htext : "_".intercalate p = "_".intercalate q) : p = q := by
  induction p generalizing common q with
  | nil => exact (hends.1 rfl).symm
  | cons a p ih =>
    cases q with
    | nil => cases hends.2 rfl
    | cons b q =>
      rcases intercalate_parts htext with
        ⟨hne, hcontinues⟩ | ⟨hne, hcontinues⟩ | ⟨rfl, hends, htext⟩
      · exact absurd hcontinues (h common a p b q hp hq hne)
      · exact absurd hcontinues (h common b q a p hq hp hne)
      · rw [List.append_cons] at hp hq
        rw [ih _ q hp hq hends htext]

/-! ## Disregarding case -/

/-- A path in the case in which names are compared. -/
def folded (path : List String) : List String := path.map Text.asciiLower

theorem asciiLower_append (a b : String) :
    Text.asciiLower (a ++ b) = Text.asciiLower a ++ Text.asciiLower b := by
  unfold Text.asciiLower
  rw [String.toList_append, List.map_append, String.ofList_append]

/-- The lower case of a path is the path of the names in lower case. -/
theorem asciiLower_intercalate (path : List String) :
    Text.asciiLower ("_".intercalate path) = "_".intercalate (folded path) := by
  unfold folded
  induction path with
  | nil => rfl
  | cons name rest ih =>
    by_cases hrest : rest = []
    · rw [hrest, List.map_singleton, String.intercalate_singleton, String.intercalate_singleton]
    · have hmapped : rest.map Text.asciiLower ≠ [] := fun hnil => hrest (List.map_eq_nil_iff.1 hnil)
      rw [List.map_cons, String.intercalate_cons_of_ne_nil hrest,
        String.intercalate_cons_of_ne_nil hmapped, asciiLower_append, asciiLower_append, ih]
      rfl

/-- The paths of items are different altogether, if each begins with the name of its item and the
names are different. -/
theorem nodup_flatMap {α : Type} {items : List α} {name : α → String}
    {paths : α → List (List String)} (hnames : (items.map fun x => Text.asciiLower (name x)).Nodup)
    (hheads : ∀ x ∈ items, ∀ path ∈ paths x, ∃ rest, path = name x :: rest)
    (hpaths : ∀ x ∈ items, ((paths x).map folded).Nodup) :
    ((items.flatMap paths).map folded).Nodup := by
  rw [List.map_flatMap, List.nodup_flatMap]
  refine ⟨hpaths, (List.pairwise_map.1 hnames).imp_of_mem fun {x y} hx hy hdiffer => ?_⟩
  intro path hpathx hpathy
  obtain ⟨u, hu, hfolded⟩ := List.mem_map.1 hpathx
  obtain ⟨v, hv, rfl⟩ := List.mem_map.1 hpathy
  obtain ⟨rest, rfl⟩ := hheads x hx u hu
  obtain ⟨rest', rfl⟩ := hheads y hy v hv
  exact hdiffer (List.cons.inj hfolded).1

/-- To begin with the same name leaves different paths different. -/
theorem nodup_map_cons {paths : List (List String)} (name : String)
    (h : (paths.map folded).Nodup) : ((paths.map (name :: ·)).map folded).Nodup := by
  have hcons : folded ∘ (name :: ·) = (Text.asciiLower name :: ·) ∘ folded := rfl
  rw [List.map_map, hcons, ← List.map_map]
  exact h.map List.cons_injective

end Identifier

namespace CustomConverter

variable {c : CustomConverter} {fields : List CompositeField} {specs : List ColumnSpec}

/-! ## The paths of a composite -/

/-- The paths that begin with a field of a composite, those of other composites being given. -/
def fieldPaths (c : CustomConverter) (inner : List CompositeField → List (List String))
    (field : CompositeField) : List (List String) :=
  match CustomType.find? c.catalog field.dataType with
  | some ⟨_, .composite fields⟩ => (inner fields).map (field.name :: ·)
  | _ => [[field.name]]

/-- The paths of a composite with this many levels left, its own included. -/
def columnPaths (c : CustomConverter) : Nat → List CompositeField → List (List String)
  | 0, _ => []
  | left + 1, fields => fields.flatMap (c.fieldPaths (columnPaths c left))

/-- The paths of a field: those of the composite that it names, or the field alone. -/
theorem fieldPaths_cases (c : CustomConverter) (inner : List CompositeField → List (List String))
    (field : CompositeField) :
    (∃ t nested, CustomType.find? c.catalog field.dataType = some t ∧
        t.definition = .composite nested ∧
        c.fieldPaths inner field = (inner nested).map (field.name :: ·)) ∨
      (∀ t, CustomType.find? c.catalog field.dataType = some t → t.category ≠ .composite) ∧
        c.fieldPaths inner field = [[field.name]] := by
  unfold fieldPaths
  split
  · next name nested hfind => exact .inl ⟨_, nested, hfind, rfl, rfl⟩
  · next hsingle =>
    refine .inr ⟨?_, rfl⟩
    rintro ⟨name, definition⟩ hfind hcategory
    cases definition with
    | composite nested => exact hsingle name nested hfind
    | _ => cases hcategory

/-- The paths for a field begin with its name. -/
theorem fieldPaths_head {inner : List CompositeField → List (List String)}
    {field : CompositeField} :
    ∀ path ∈ c.fieldPaths inner field, ∃ rest, path = field.name :: rest := by
  intro path hpath
  rcases c.fieldPaths_cases inner field with ⟨t, nested, -, -, heq⟩ | ⟨-, heq⟩
  · rw [heq] at hpath
    obtain ⟨rest, -, rfl⟩ := List.mem_map.1 hpath
    exact ⟨rest, rfl⟩
  · rw [heq] at hpath
    exact ⟨[], List.mem_singleton.1 hpath⟩

/-- A path to a column names at least one field. -/
theorem columnPaths_ne_nil {left : Nat} : ∀ path ∈ c.columnPaths left fields, path ≠ [] := by
  intro path hpath
  cases left with
  | zero => cases hpath
  | succ left =>
    obtain ⟨field, -, hpath⟩ := List.mem_flatMap.1 hpath
    obtain ⟨rest, rfl⟩ := fieldPaths_head path hpath
    exact List.cons_ne_nil _ _

/-- The columns of a field are named by its paths, if those of other composites are. -/
theorem fieldColumns_suffixes {inner : Nested} {paths : List CompositeField → List (List String)}
    {field : CompositeField} (hne : ∀ fields, ∀ path ∈ paths fields, path ≠ [])
    (hinner : ∀ {fields specs}, inner.columns fields = .ok specs →
      specs.map ColumnSpec.suffix = (paths fields).map Identifier.joined)
    (h : c.fieldColumns inner field = .ok specs) :
    specs.map ColumnSpec.suffix = (c.fieldPaths paths field).map Identifier.joined := by
  rcases fieldColumns_cases h, c.fieldPaths_cases paths field with
    ⟨⟨t, fields, nested, hfind, hdefinition, hnested, rfl⟩ | ⟨hsingle, dataType, -, rfl⟩,
      ⟨u, fields', hu, hcomposite, heq⟩ | ⟨hnone, heq⟩⟩
  · obtain rfl := Option.some.inj (hfind.symm.trans hu)
    obtain rfl := CustomDefinition.composite.inj (hdefinition.symm.trans hcomposite)
    rw [heq, ← Identifier.joined_map_cons field.name (hne fields) (hinner hnested), List.map_map,
      List.map_map]
    rfl
  · exact absurd (congrArg CustomDefinition.category hdefinition) (hnone t hfind)
  · exact absurd (congrArg CustomDefinition.category hcomposite) (hsingle u hu)
  · rw [heq]
    rfl

/-- **The names of columns are the paths to them**, by induction on the levels. -/
theorem columnsAt_suffixes {left : Nat} (h : c.columnsAt left fields = .ok specs) :
    specs.map ColumnSpec.suffix = (c.columnPaths left fields).map Identifier.joined := by
  induction left generalizing fields specs with
  | zero =>
    rw [columnsAt] at h
    cases h
  | succ left ih =>
    rw [columnsAt] at h
    obtain ⟨-, parts, hparts, rfl⟩ := columns_eq_ok.1 h
    have hsteps := mapM_eq_ok.1 hparts
    clear h hparts
    show _ = (fields.flatMap (c.fieldPaths (c.columnPaths left))).map Identifier.joined
    induction hsteps with
    | nil => rfl
    | cons hpart _ hrest =>
      -- the columns of a nested composite are those of one level less
      have hfirst := fieldColumns_suffixes (fun _ => columnPaths_ne_nil) ih hpart
      rw [List.flatten_cons, List.flatMap_cons, List.map_append, List.map_append, hfirst, hrest]

/-- **No two paths of a composite are the same**, up to the case of ASCII letters, if the types of
the catalog are well formed and the fields have different names. -/
theorem columnPaths_nodup {left : Nat} (hcatalog : ∀ t ∈ c.catalog, t.fault? = none)
    (hfields : (fields.map fun f => Text.lowerCase f.name).Nodup) :
    ((c.columnPaths left fields).map Identifier.folded).Nodup := by
  induction left generalizing fields with
  | zero => exact List.nodup_nil
  | succ left ih =>
    have hnames : (fields.map fun f => Text.asciiLower f.name).Nodup := by
      have hlower : (fields.map CompositeField.name).map Text.lowerCase =
          fields.map fun f => Text.lowerCase f.name := List.map_map
      have hnodup := Text.nodup_asciiLower (hlower ▸ hfields)
      rw [List.map_map] at hnodup
      exact hnodup
    refine Identifier.nodup_flatMap hnames (fun field _ => fieldPaths_head) fun field _ => ?_
    rcases c.fieldPaths_cases (c.columnPaths left) field with
      ⟨t, nested, hfind, hdefinition, heq⟩ | ⟨-, heq⟩
    · have hwell := hcatalog t (List.mem_of_find?_eq_some hfind)
      rw [heq]
      exact Identifier.nodup_map_cons field.name
        (ih (CustomType.fieldNames_nodup hwell hdefinition))
    · rw [heq]
      exact List.nodup_singleton _

end CustomConverter

end SchemaConversion
