import SchemaConversion.Proofs.CustomType.Outcomes

/-!
# Flattening

A field of a composite may name another composite of the catalog, and then it stands for the fields
of that one. `Expansion` is the tree that is left when all such fields are replaced. There is one at
most (`Expansion.instSubsingleton`), and there is none if a composite comes back to itself, since a
tree is finite. What stands at its leaves are fields of other types, each below the fields that lead
to it.

A composite is flattened level by level, and what comes out is told by its expansion:

> `columnsAt_expanded`: the columns are those of the leaves, in order.

> `columnsAt_of_expansion`: if the tree has no more levels than are left, all composites in it have
> fields with names and all leaves have a type in the target, then there are columns.

> `flatten_exact`: exactly when a composite can be flattened, and into which columns.
-/

namespace SchemaConversion

/-- The fields of a composite, those that name a composite being replaced by the expansion of its
fields. -/
inductive Expansion (catalog : List CustomType) : List CompositeField → Type
  | nil : Expansion catalog []
  /-- The first field names no composite. -/
  | leaf (field : CompositeField) {rest : List CompositeField}
      (single : ∀ t, CustomType.find? catalog field.dataType = some t → t.category ≠ .composite)
      (others : Expansion catalog rest) : Expansion catalog (field :: rest)
  /-- The first field names a composite with the fields `inner`. -/
  | nested (field : CompositeField) {t : CustomType} {inner rest : List CompositeField}
      (names : CustomType.find? catalog field.dataType = some t)
      (definition_eq : t.definition = .composite inner)
      (tree : Expansion catalog inner) (others : Expansion catalog rest) :
      Expansion catalog (field :: rest)

/-- A field at the end of a path through an expansion. -/
structure Expansion.Leaf where
  /-- The names of the fields that lead to its composite, from the outermost on. -/
  above : List String
  field : CompositeField
  deriving DecidableEq

namespace Expansion.Leaf

/-- The level of the composite to which the field belongs. -/
def level (l : Leaf) : Nat := l.above.length

/-- The name that is derived along the path, from the inside out. -/
def suffix (l : Leaf) : String := l.above.foldr Identifier.derived l.field.name

/-- The leaf in the expansion of a field with this name. -/
def under (name : String) (l : Leaf) : Leaf := { l with above := name :: l.above }

end Expansion.Leaf

/-- No field has a blank name. -/
def AreNamed (fields : List CompositeField) : Prop :=
  ∀ field ∈ fields, Text.isBlankText field.name = false

namespace Expansion

variable {catalog : List CustomType} {fields : List CompositeField}

/-- The number of levels on which composites stand, that of the root included. -/
def levels {fields : List CompositeField} : Expansion catalog fields → Nat
  | nil => 1
  | leaf _ _ others => others.levels
  | nested _ _ _ tree others => max (tree.levels + 1) others.levels

/-- The composites below the root. -/
def nestedComposites {fields : List CompositeField} :
    Expansion catalog fields → List (List CompositeField)
  | nil => []
  | leaf _ _ others => others.nestedComposites
  | @nested _ _ _ inner _ _ _ tree others =>
    inner :: tree.nestedComposites ++ others.nestedComposites

/-- All composites, the root first. -/
def composites (tree : Expansion catalog fields) : List (List CompositeField) :=
  fields :: tree.nestedComposites

/-- The leaves in the order of the fields, depth first. -/
def leaves {fields : List CompositeField} : Expansion catalog fields → List Leaf
  | nil => []
  | leaf field _ others => ⟨[], field⟩ :: others.leaves
  | nested field _ _ tree others => tree.leaves.map (Leaf.under field.name) ++ others.leaves

/-- Even without fields an expansion takes a level. -/
theorem levels_pos (tree : Expansion catalog fields) : 0 < tree.levels := by
  induction tree with
  | nil => exact Nat.zero_lt_one
  | leaf _ _ _ ih => exact ih
  | nested _ _ _ _ _ _ ih => exact Nat.lt_of_lt_of_le ih (Nat.le_max_right _ _)

/-- **There is no more than one expansion**, since a reference names one type at most. -/
instance instSubsingleton : Subsingleton (Expansion catalog fields) where
  allEq a b := by
    induction a with
    | nil =>
      cases b
      rfl
    | leaf field single others ih =>
      -- what the first field names decides how the other expansion goes on
      cases b with
      | leaf _ _ others' => rw [ih others']
      | nested _ names definition_eq _ _ =>
        exact absurd (congrArg CustomDefinition.category definition_eq) (single _ names)
    | nested field names definition_eq tree others ihtree ihothers =>
      cases b with
      | leaf _ single _ =>
        exact absurd (congrArg CustomDefinition.category definition_eq) (single _ names)
      | nested _ names' definition_eq' tree' others' =>
        obtain rfl := Option.some.inj (names.symm.trans names')
        obtain rfl := CustomDefinition.composite.inj (definition_eq.symm.trans definition_eq')
        rw [ihtree tree', ihothers others']

/-- A composite below the root has an expansion of its own, with fewer levels. -/
theorem exists_lower {composite : List CompositeField} (tree : Expansion catalog fields)
    (h : composite ∈ tree.nestedComposites) :
    ∃ lower : Expansion catalog composite, lower.levels < tree.levels := by
  induction tree with
  | nil => cases h
  | leaf field single others ih => exact ih h
  | nested field names definition_eq tree others ihtree ihothers =>
    have htree : tree.levels < max (tree.levels + 1) others.levels :=
      Nat.lt_of_lt_of_le (Nat.lt_succ_self _) (Nat.le_max_left _ _)
    rcases List.mem_cons.1 h with rfl | h
    · exact ⟨tree, htree⟩
    · rcases List.mem_append.1 h with h | h
      · obtain ⟨lower, hlower⟩ := ihtree h
        exact ⟨lower, hlower.trans htree⟩
      · obtain ⟨lower, hlower⟩ := ihothers h
        exact ⟨lower, Nat.lt_of_lt_of_le hlower (Nat.le_max_right _ _)⟩

/-- **No composite that has an expansion comes back to itself.** -/
theorem fields_notMem_nestedComposites (tree : Expansion catalog fields) :
    fields ∉ tree.nestedComposites := by
  intro h
  -- it would have another expansion, with fewer levels
  obtain ⟨lower, hlower⟩ := tree.exists_lower h
  rw [Subsingleton.elim lower tree] at hlower
  exact Nat.lt_irrefl _ hlower

end Expansion

namespace CustomConverter

variable {c : CustomConverter} {inner : Nested} {t : CustomType} {field : CompositeField}
  {fields rest : List CompositeField} {specs : List ColumnSpec} {spec : ColumnSpec}
  {levels depth : Nat} {reference dataType : String}

/-! ## The types of leaves -/

/-- A reference in a composite at this depth is spelled like this in the target, where types may
nest that many levels: as a native type or, if it names a type of the catalog, by what that is
converted to one level deeper. -/
inductive SpellsLeaf (c : CustomConverter) (levels depth : Nat) (reference : String) : String → Prop
  | native {b : TypeConversion} (unnamed : CustomType.find? c.catalog reference = none)
      (resolves : c.types.resolve reference = .ok b) :
      SpellsLeaf c levels depth reference b.converted
  | custom {t : CustomType} {r : CustomConversion} {dataType : String}
      (names : CustomType.find? c.catalog reference = some t) (room : depth + 1 < levels)
      (resolves : c.resolveAt (levels - (depth + 1)) t = .ok r)
      (convertedType_eq : r.rendition.convertedType = some dataType) :
      SpellsLeaf c levels depth reference dataType

/-- Nothing is converted without a level for it. -/
theorem resolveAt_pos {left : Nat} {r : CustomConversion} (h : c.resolveAt left t = .ok r) :
    0 < left := by
  cases left with
  | zero =>
    rw [resolveAt] at h
    cases h
  | succ left => exact Nat.succ_pos left

/-- A field at some depth is spelled as a leaf at this depth. -/
theorem spelling_eq_ok :
    c.spelling (c.resolveAt (levels - (depth + 1))) reference = .ok dataType ↔
      c.SpellsLeaf levels depth reference dataType := by
  constructor
  · intro h
    cases hfind : CustomType.find? c.catalog reference with
    | none =>
      unfold spelling at h
      rw [hfind] at h
      obtain ⟨b, hb, rfl⟩ := map_eq_ok.1 h
      exact .native hfind hb
    | some t =>
      cases hr : c.resolveAt (levels - (depth + 1)) t with
      | error e =>
        unfold spelling at h
        rw [hfind] at h
        dsimp only at h
        rw [hr] at h
        cases h
      | ok r =>
        have hroom := resolveAt_pos hr
        exact .custom hfind (by omega) hr (spelling_named hfind hr h)
  · intro h
    unfold spelling
    cases h with
    | native unnamed resolves =>
      rw [unnamed]
      exact map_eq_ok.2 ⟨_, resolves, rfl⟩
    | custom names room resolves convertedType_eq =>
      rw [names]
      refine bind_eq_ok.2 ⟨_, resolves, ?_⟩
      rw [convertedType_eq]

/-- One level further down there is one level less. -/
theorem spellsLeaf_succ :
    c.SpellsLeaf (levels + 1) (depth + 1) reference dataType ↔
      c.SpellsLeaf levels depth reference dataType := by
  rw [← spelling_eq_ok, ← spelling_eq_ok, Nat.add_sub_add_right]

/-- The column for a leaf. -/
structure IsColumnOf (c : CustomConverter) (levels : Nat) (l : Expansion.Leaf)
    (spec : ColumnSpec) : Prop where
  suffix_eq : spec.suffix = l.suffix
  spells : c.SpellsLeaf levels l.level l.field.dataType spec.dataType

/-! ## Conditions -/

/-- The fields of an expansion can be flattened where types may nest this many levels. -/
structure Flattens (c : CustomConverter) (levels : Nat) (tree : Expansion c.catalog fields) :
    Prop where
  levels_le : tree.levels ≤ levels
  named : AreNamed fields
  nested_named : ∀ composite ∈ tree.nestedComposites, composite ≠ [] ∧ AreNamed composite
  spells : ∀ l ∈ tree.leaves, ∃ dataType, c.SpellsLeaf levels l.level l.field.dataType dataType

/-- Nothing is left to be flattened where there are no fields. -/
theorem flattens_nil (hlevels : 0 < levels) : c.Flattens levels .nil where
  levels_le := hlevels
  named := fun _ hfield => absurd hfield List.not_mem_nil
  nested_named := fun _ hcomposite => absurd hcomposite List.not_mem_nil
  spells := fun _ hl => absurd hl List.not_mem_nil

/-- A field that names no composite needs a name and a type. -/
theorem flattens_leaf_iff
    {single : ∀ t, CustomType.find? c.catalog field.dataType = some t → t.category ≠ .composite}
    {others : Expansion c.catalog rest} :
    c.Flattens levels (.leaf field single others) ↔
      (Text.isBlankText field.name = false ∧
        ∃ dataType, c.SpellsLeaf levels 0 field.dataType dataType) ∧
      c.Flattens levels others := by
  constructor
  · intro h
    obtain ⟨hname, hnames⟩ := List.forall_mem_cons.1 h.named
    obtain ⟨hspells, hothers⟩ := List.forall_mem_cons.1 h.spells
    exact ⟨⟨hname, hspells⟩, h.levels_le, hnames, h.nested_named, hothers⟩
  · rintro ⟨⟨hname, hspells⟩, h⟩
    exact ⟨h.levels_le, List.forall_mem_cons.2 ⟨hname, h.named⟩, h.nested_named,
      List.forall_mem_cons.2 ⟨hspells, h.spells⟩⟩

/-- A field that names a composite needs a name, and that composite has fields and can be flattened
on the levels below. -/
theorem flattens_nested_iff {nestedFields : List CompositeField}
    {names : CustomType.find? c.catalog field.dataType = some t}
    {definition_eq : t.definition = .composite nestedFields}
    {tree : Expansion c.catalog nestedFields} {others : Expansion c.catalog rest} :
    c.Flattens (levels + 1) (.nested field names definition_eq tree others) ↔
      (Text.isBlankText field.name = false ∧ nestedFields ≠ [] ∧ c.Flattens levels tree) ∧
      c.Flattens (levels + 1) others := by
  have hleaf (l : Expansion.Leaf) :
      (∃ dataType, c.SpellsLeaf (levels + 1) (l.under field.name).level
        (l.under field.name).field.dataType dataType) ↔
      ∃ dataType, c.SpellsLeaf levels l.level l.field.dataType dataType :=
    exists_congr fun _ => spellsLeaf_succ
  constructor
  · intro h
    obtain ⟨hname, hnames⟩ := List.forall_mem_cons.1 h.named
    obtain ⟨hcomposite, hcomposites⟩ := List.forall_mem_cons.1 h.nested_named
    obtain ⟨htree, hothers⟩ := List.forall_mem_append.1 hcomposites
    obtain ⟨hleaves, hmore⟩ := List.forall_mem_append.1 h.spells
    obtain ⟨hlevels, hrest⟩ := Nat.max_le.1 h.levels_le
    exact ⟨⟨hname, hcomposite.1, Nat.le_of_succ_le_succ hlevels, hcomposite.2, htree,
      fun l hl => (hleaf l).1 (hleaves _ (List.mem_map_of_mem hl))⟩, hrest, hnames, hothers, hmore⟩
  · rintro ⟨⟨hname, hne, htree⟩, h⟩
    refine ⟨Nat.max_le.2 ⟨Nat.succ_le_succ htree.levels_le, h.levels_le⟩,
      List.forall_mem_cons.2 ⟨hname, h.named⟩,
      List.forall_mem_cons.2 ⟨⟨hne, htree.named⟩,
        List.forall_mem_append.2 ⟨htree.nested_named, h.nested_named⟩⟩,
      List.forall_mem_append.2 ⟨fun l hl => ?_, h.spells⟩⟩
    obtain ⟨lower, hlower, rfl⟩ := List.mem_map.1 hl
    exact (hleaf lower).2 (htree.spells lower hlower)

/-! ## All levels -/

/-- On every level the columns are those of the fields, found with one level less. -/
theorem columnsAt_succ_eq_ok :
    c.columnsAt (levels + 1) fields = .ok specs ↔
      fields ≠ [] ∧ ∃ parts,
        fields.mapM (c.fieldColumns ⟨c.resolveAt levels, c.columnsAt levels⟩) = .ok parts ∧
          parts.flatten = specs := by
  rw [columnsAt]
  exact columns_eq_ok

/-- **The columns of a composite are those for the leaves of its expansion**, in order: by induction
on the levels that are left, and on the fields within a level. -/
theorem columnsAt_expanded (h : c.columnsAt levels fields = .ok specs) :
    fields ≠ [] ∧ ∃ tree : Expansion c.catalog fields, c.Flattens levels tree ∧
      List.Forall₂ (c.IsColumnOf levels) tree.leaves specs := by
  induction levels generalizing fields specs with
  | zero =>
    rw [columnsAt] at h
    cases h
  | succ left ih =>
    obtain ⟨hne, parts, hparts, rfl⟩ := columnsAt_succ_eq_ok.1 h
    refine ⟨hne, ?_⟩
    have hsteps := mapM_eq_ok.1 hparts
    clear h hparts hne
    induction hsteps with
    | nil => exact ⟨.nil, flattens_nil (Nat.succ_pos left), .nil⟩
    | @cons field part _ _ hpart _ hrest =>
      obtain ⟨others, hothers, hcolumns⟩ := hrest
      have hname := named_of_fieldColumns hpart
      rcases fieldColumns_cases hpart with
        ⟨t, nestedFields, nested, names, hdefinition, hnested, rfl⟩ |
        ⟨hsingle, dataType, hspelling, rfl⟩
      · obtain ⟨hne, tree, htree, hleaves⟩ := ih hnested
        refine ⟨.nested field names hdefinition tree others,
          flattens_nested_iff.2 ⟨⟨hname, hne, htree⟩, hothers⟩, List.rel_append ?_ hcolumns⟩
        -- the name of the field goes in front of every path
        rw [List.forall₂_map_left_iff, List.forall₂_map_right_iff]
        exact hleaves.imp fun l spec hspec =>
          ⟨congrArg (Identifier.derived field.name) hspec.suffix_eq, spellsLeaf_succ.2 hspec.spells⟩
      · have hspells : c.SpellsLeaf (left + 1) 0 field.dataType dataType :=
          spelling_eq_ok.1 hspelling
        exact ⟨.leaf field hsingle others,
          flattens_leaf_iff.2 ⟨⟨hname, dataType, hspells⟩, hothers⟩,
          .cons ⟨rfl, hspells⟩ hcolumns⟩

/-- The fields of an expansion that can be flattened become columns one by one: by induction on the
expansion, since a nested one takes up a level. -/
theorem mapM_of_flattens {left : Nat} (tree : Expansion c.catalog fields)
    (h : c.Flattens (left + 1) tree) :
    ∃ parts, fields.mapM (c.fieldColumns ⟨c.resolveAt left, c.columnsAt left⟩) = .ok parts := by
  induction tree generalizing left with
  | nil => exact ⟨[], rfl⟩
  | leaf field single others ih =>
    obtain ⟨⟨hname, dataType, hspells⟩, hothers⟩ := flattens_leaf_iff.1 h
    obtain ⟨parts, hparts⟩ := ih hothers
    have hspelling := spelling_eq_ok.2 hspells
    exact ⟨_, mapM_eq_ok.2 (.cons (fieldColumns_of_single hname single hspelling)
      (mapM_eq_ok.1 hparts))⟩
  | @nested field t nestedFields rest names hdefinition tree others ihtree ihothers =>
    obtain ⟨⟨hname, hne, htree⟩, hothers⟩ := flattens_nested_iff.1 h
    obtain ⟨parts, hparts⟩ := ihothers hothers
    obtain ⟨lower, rfl⟩ := Nat.exists_eq_add_one_of_ne_zero
      (Nat.lt_of_lt_of_le tree.levels_pos htree.levels_le).ne'
    obtain ⟨nestedParts, hnestedParts⟩ := ihtree htree
    have hcolumns : c.columnsAt (lower + 1) nestedFields = .ok nestedParts.flatten :=
      columnsAt_succ_eq_ok.2 ⟨hne, nestedParts, hnestedParts, rfl⟩
    exact ⟨_, mapM_eq_ok.2 (.cons (fieldColumns_of_nested hname names hdefinition hcolumns)
      (mapM_eq_ok.1 hparts))⟩

/-- An expansion that fits into the levels becomes columns. -/
theorem columnsAt_of_expansion (tree : Expansion c.catalog fields) (hne : fields ≠ [])
    (h : c.Flattens levels tree) : ∃ specs, c.columnsAt levels fields = .ok specs := by
  obtain ⟨left, rfl⟩ := Nat.exists_eq_add_one_of_ne_zero
    (Nat.lt_of_lt_of_le tree.levels_pos h.levels_le).ne'
  obtain ⟨parts, hparts⟩ := mapM_of_flattens tree h
  exact ⟨_, columnsAt_succ_eq_ok.2 ⟨hne, parts, hparts, rfl⟩⟩

/-- The columns of a composite are made at the uppermost level. -/
theorem columns_below (hlevels : 0 < c.levels) (fields : List CompositeField) :
    c.columns (c.below 0) fields = c.columnsAt c.levels fields := by
  obtain ⟨left, hleft⟩ := Nat.exists_eq_add_one_of_ne_zero hlevels.ne'
  unfold below
  rw [hleft, columnsAt]
  rfl

/-- To flatten a type is to find the columns of its fields on the uppermost level. -/
theorem apply_flatten_eq_ok {rendition : Rendition} (hlevels : 0 < c.levels)
    (hdefinition : t.definition = .composite fields) :
    c.apply (c.below 0) .flatten t = .ok rendition ↔
      ∃ specs, c.columnsAt c.levels fields = .ok specs ∧
        rendition = { supplements := specs.map .column
                      notes := ["expanded into " ++ toString specs.length ++ " columns"] } := by
  unfold apply CustomConverter.rendition asColumns
  rw [mapError_eq_ok, hdefinition]
  dsimp only
  rw [bind_eq_ok, columns_below hlevels]
  exact exists_congr fun specs => and_congr_right'
    ⟨fun h => (Except.ok.inj h).symm, fun h => h ▸ rfl⟩

/-- **Flattening is exact.** A composite can be flattened if and only if it has an expansion of no
more levels than types may nest, every composite in that has fields, all with names, and every leaf
has a type in the target, one of the catalog only as long as there is a level for it. What comes out
is a column for each leaf, in order, with this type and the name that is derived along its path. -/
theorem flatten_exact (hlevels : 0 < c.levels) (hdefinition : t.definition = .composite fields) :
    ((∃ rendition, c.apply (c.below 0) .flatten t = .ok rendition) ↔
        ∃ tree : Expansion c.catalog fields, tree.levels ≤ c.levels ∧
          (∀ composite ∈ tree.composites, composite ≠ [] ∧ AreNamed composite) ∧
          ∀ l ∈ tree.leaves, ∃ dataType,
            c.SpellsLeaf c.levels l.level l.field.dataType dataType) ∧
      ∀ rendition, c.apply (c.below 0) .flatten t = .ok rendition →
        ∀ tree : Expansion c.catalog fields, ∃ specs,
          rendition.supplements = specs.map .column ∧
            List.Forall₂ (c.IsColumnOf c.levels) tree.leaves specs := by
  refine ⟨⟨?_, ?_⟩, ?_⟩
  · rintro ⟨rendition, h⟩
    obtain ⟨specs, hspecs, -⟩ := (apply_flatten_eq_ok hlevels hdefinition).1 h
    obtain ⟨hne, tree, htree, -⟩ := columnsAt_expanded hspecs
    exact ⟨tree, htree.levels_le,
      List.forall_mem_cons.2 ⟨⟨hne, htree.named⟩, htree.nested_named⟩, htree.spells⟩
  · rintro ⟨tree, hle, hcomposites, hspells⟩
    obtain ⟨⟨hne, hnamed⟩, hnested⟩ := List.forall_mem_cons.1 hcomposites
    obtain ⟨specs, hspecs⟩ := columnsAt_of_expansion tree hne ⟨hle, hnamed, hnested, hspells⟩
    exact ⟨_, (apply_flatten_eq_ok hlevels hdefinition).2 ⟨specs, hspecs, rfl⟩⟩
  · intro rendition h tree
    obtain ⟨specs, hspecs, rfl⟩ := (apply_flatten_eq_ok hlevels hdefinition).1 h
    -- the expansion along which they were found is the only one
    obtain ⟨-, tree', -, hcolumns⟩ := columnsAt_expanded hspecs
    rw [Subsingleton.elim tree tree']
    exact ⟨specs, rfl, hcolumns⟩

end CustomConverter

/-! ## An offer -/

namespace Shop

/-- An offer, which is made of a note and a price. -/
def offer : CustomType where
  name := "offer"
  definition := .composite [⟨"note", "text"⟩, ⟨"price", "price"⟩]

/-- The conversion of offers to a database that has no composites, with this many levels. -/
def offers (levels : Nat) : CustomConverter :=
  .withDepth (TypeConverter.between Databases.postgresql Databases.neo4j) [amount [], price] levels

/-- The price of an offer stands for the amount that it is made of. -/
def offerExpansion :
    Expansion [amount [], price] [⟨"note", "text"⟩, ⟨"price", "price"⟩] :=
  .leaf _ (by decide) (.nested _ (t := price) rfl rfl (.leaf _ (by decide) .nil) .nil)

end Shop

namespace CustomConverter

/-- With three levels an offer has a column for the note and one for the amount of the price. With
two there is none for the amount, although the composites themselves stand on two levels. -/
theorem offer_flattened :
    (∃ rendition, ∃ specs : List ColumnSpec,
      (Shop.offers 3).apply ((Shop.offers 3).below 0) .flatten Shop.offer = .ok rendition ∧
        rendition.supplements = specs.map .column ∧
        specs.map ColumnSpec.suffix = ["note", "price_amount"]) ∧
      Shop.offerExpansion.levels = 2 ∧
      ¬∃ rendition,
        (Shop.offers 2).apply ((Shop.offers 2).below 0) .flatten Shop.offer = .ok rendition := by
  refine ⟨?_, by decide, fun h => ?_⟩
  · have htest : ((Shop.offers 3).apply ((Shop.offers 3).below 0) .flatten
        Shop.offer).toOption.any (fun _ => true) = true := by decide +kernel
    obtain ⟨rendition, h, -⟩ := exists_ok htest
    obtain ⟨specs, hspecs, hcolumns⟩ :=
      (flatten_exact (by decide) rfl).2 rendition h Shop.offerExpansion
    have hnames : List.Forall₂ (· = ·) (specs.map ColumnSpec.suffix)
        (Shop.offerExpansion.leaves.map Expansion.Leaf.suffix) := by
      rw [List.forall₂_map_left_iff, List.forall₂_map_right_iff]
      exact hcolumns.flip.imp fun _ _ hcolumn => hcolumn.suffix_eq
    rw [List.forall₂_eq_eq_eq] at hnames
    exact ⟨rendition, specs, h, hspecs, hnames.trans (by decide)⟩
  · obtain ⟨tree, -, -, hspells⟩ := (flatten_exact (by decide) rfl).1.1 h
    rw [Subsingleton.elim tree Shop.offerExpansion] at hspells
    -- the amount belongs to a composite on the last level, and needs one more for itself
    obtain ⟨_, hspell⟩ := hspells ⟨["price"], ⟨"amount", "amount"⟩⟩ (by decide)
    cases hspell with
    | native unnamed => cases unnamed
    | custom _ room => exact absurd room (by decide)

end CustomConverter

end SchemaConversion
