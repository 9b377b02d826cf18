import SchemaConversion.Proofs.CustomType.Columns

/-!
# Conversions come to an end

A conversion may ask for others: those of the types that the definition refers to, and the columns
of the composites among them. `Settles` says when this comes to an end, without any bound on the
levels but the test that is made before one is entered: a task settles once all that it may ask for
has settled one level further down, and at once where the levels are used up. A catalog whose types
refer to each other in a circle would keep it from that, were it not for the test.

> `perform_congr`: what a task leads to depends on nothing but the answers to what it asks for.

> `settles_iff`: so every task settles, with one answer only, and this is what has been computed by
> recursion on the levels that are left.
-/

namespace SchemaConversion

/-- The references of a definition for which the catalog is searched. -/
def CustomDefinition.nestedReferences : CustomDefinition → List String
  | .composite fields => fields.map CompositeField.dataType
  | .array elementType => [elementType]
  | _ => []

namespace CustomConverter

/-- What there is to be done in the course of a conversion. -/
inductive Task where
  /-- The conversion of a type. -/
  | type (t : CustomType)
  /-- The columns of a composite. -/
  | columns (fields : List CompositeField)

namespace Task

/-- What a task leads to. -/
abbrev Answer : Task → Type
  | .type _ => Except ConversionError CustomConversion
  | .columns _ => Except String (List ColumnSpec)

/-- The references of a task for which the catalog is searched. -/
def references : Task → List String
  | .type t => t.definition.nestedReferences
  | .columns fields => fields.map CompositeField.dataType

/-- A task may ask for the conversion of a type that one of its references names and, if that is a
composite, for the columns of it. -/
inductive MayAsk (catalog : List CustomType) (task : Task) : Task → Prop
  | type {reference : String} {u : CustomType} (mem : reference ∈ task.references)
      (names : CustomType.find? catalog reference = some u) : MayAsk catalog task (.type u)
  | columns {reference : String} {u : CustomType} {fields : List CompositeField}
      (mem : reference ∈ task.references) (names : CustomType.find? catalog reference = some u)
      (definition_eq : u.definition = .composite fields) : MayAsk catalog task (.columns fields)

end Task

/-- The answers to all tasks of a level as the conversions at that level. -/
def Nested.ofAnswers (answers : (task : Task) → task.Answer) : Nested :=
  ⟨fun t => answers (.type t), fun fields => answers (.columns fields)⟩

/-- What a task leads to, given the answers one level further down. -/
def perform (c : CustomConverter) (answers : (task : Task) → task.Answer) :
    (task : Task) → task.Answer
  | .type t => c.resolveWith (.ofAnswers answers) t
  | .columns fields => c.columns (.ofAnswers answers) fields

/-- What a task leads to where the levels are used up. -/
def giveUp (c : CustomConverter) : (task : Task) → task.Answer
  | .type t => refuse (c.tooDeep ++ " at " ++ t.name)
  | .columns fields => .error (if fields.isEmpty then "composite has no fields" else c.tooDeep)

/-- A task comes to an end with an answer. -/
inductive Settles (c : CustomConverter) : Nat → (task : Task) → task.Answer → Prop
  | tooDeep {depth : Nat} {task : Task} (full : c.levels ≤ depth) :
      Settles c depth task (c.giveUp task)
  | perform {depth : Nat} {task : Task} (answers : (task : Task) → task.Answer)
      (room : depth < c.levels)
      (asked : ∀ sub, task.MayAsk c.catalog sub → Settles c (depth + 1) sub (answers sub)) :
      Settles c depth task (c.perform answers task)

variable {c : CustomConverter} {answers answers' : (task : Task) → task.Answer} {task : Task}
  {t : CustomType} {fields : List CompositeField} {reference : String}

/-! ## What a task depends on -/

/-- The answers agree on the conversions of what a reference may name. -/
theorem spelling_congr (hmem : reference ∈ task.references)
    (h : ∀ sub, task.MayAsk c.catalog sub → answers sub = answers' sub) :
    c.spelling (Nested.ofAnswers answers).resolve reference =
      c.spelling (Nested.ofAnswers answers').resolve reference := by
  unfold spelling
  cases hfind : CustomType.find? c.catalog reference with
  | none => rfl
  | some u =>
    have hu : (Nested.ofAnswers answers).resolve u = (Nested.ofAnswers answers').resolve u :=
      h (.type u) (.type hmem hfind)
    dsimp only
    rw [hu]

/-- What fills a template depends on the answers for what a type may ask about. -/
theorem filling_congr (h : ∀ sub, (Task.type t).MayAsk c.catalog sub → answers sub = answers' sub) :
    c.filling (Nested.ofAnswers answers).resolve t =
      c.filling (Nested.ofAnswers answers').resolve t := by
  unfold filling
  cases hdefinition : t.definition with
  -- composites and arrays alone ask for other types
  | composite fields =>
    have hfields : fields.mapM (c.typedField (Nested.ofAnswers answers).resolve) =
        fields.mapM (c.typedField (Nested.ofAnswers answers').resolve) := by
      refine mapM_congr fun field hfield => ?_
      have hmem : field.dataType ∈ (Task.type t).references := by
        show field.dataType ∈ t.definition.nestedReferences
        rw [hdefinition]
        exact List.mem_map_of_mem hfield
      unfold typedField
      rw [spelling_congr hmem h]
    dsimp only
    rw [hfields]
  | array elementType =>
    have hmem : elementType ∈ (Task.type t).references := by
      show elementType ∈ t.definition.nestedReferences
      rw [hdefinition]
      exact List.mem_singleton_self _
    dsimp only
    rw [spelling_congr hmem h]
  | _ => rfl

theorem columns_congr (hfields : ∀ field ∈ fields, field.dataType ∈ task.references)
    (h : ∀ sub, task.MayAsk c.catalog sub → answers sub = answers' sub) :
    c.columns (.ofAnswers answers) fields = c.columns (.ofAnswers answers') fields := by
  have hparts : fields.mapM (c.fieldColumns (.ofAnswers answers)) =
      fields.mapM (c.fieldColumns (.ofAnswers answers')) := by
    refine mapM_congr fun field hfield => ?_
    have hmem := hfields field hfield
    unfold fieldColumns
    rw [spelling_congr hmem h]
    split
    · rfl
    · split
      -- a nested composite is asked for its columns, and everything else was spelled
      · next name inner hfind =>
        have hinner : (Nested.ofAnswers answers).columns inner =
            (Nested.ofAnswers answers').columns inner :=
          h (.columns inner) (.columns hmem hfind rfl)
        rw [hinner]
      · rfl
  unfold columns
  rw [hparts]

/-- Only native types and columns ask for anything. -/
theorem rendition_congr (strategy : CustomStrategy)
    (h : ∀ sub, (Task.type t).MayAsk c.catalog sub → answers sub = answers' sub) :
    c.rendition (.ofAnswers answers) strategy t = c.rendition (.ofAnswers answers') strategy t := by
  unfold rendition
  cases strategy with
  | direct =>
    dsimp only
    unfold asNative
    rw [filling_congr h]
  | flatten =>
    dsimp only
    unfold asColumns
    cases hdefinition : t.definition with
    | composite fields =>
      have hfields : ∀ field ∈ fields, field.dataType ∈ (Task.type t).references := by
        intro field hfield
        show field.dataType ∈ t.definition.nestedReferences
        rw [hdefinition]
        exact List.mem_map_of_mem hfield
      dsimp only
      rw [columns_congr hfields h]
    | _ => rfl
  | _ => rfl

/-- **A task depends on the answers to what it may ask for**, and on nothing else. -/
theorem perform_congr (h : ∀ sub, task.MayAsk c.catalog sub → answers sub = answers' sub) :
    c.perform answers task = c.perform answers' task := by
  cases task with
  | type t =>
    show c.resolveWith _ t = c.resolveWith _ t
    unfold resolveWith apply
    dsimp only
    rw [rendition_congr _ h, rendition_congr _ h]
  | columns fields => exact columns_congr (fun field hfield => List.mem_map_of_mem hfield) h

/-! ## Termination -/

/-- What is computed by recursion on the levels that are left. -/
def answerAt (c : CustomConverter) (left : Nat) : (task : Task) → task.Answer
  | .type t => c.resolveAt left t
  | .columns fields => c.columnsAt left fields

theorem answerAt_zero (task : Task) : c.answerAt 0 task = c.giveUp task := by
  cases task with
  | type t =>
    show c.resolveAt 0 t = _
    rw [resolveAt]
    rfl
  | columns fields =>
    show c.columnsAt 0 fields = _
    rw [columnsAt]
    rfl

theorem answerAt_succ (left : Nat) (task : Task) :
    c.answerAt (left + 1) task = c.perform (c.answerAt left) task := by
  cases task with
  | type t =>
    show c.resolveAt (left + 1) t = _
    rw [resolveAt]
    rfl
  | columns fields =>
    show c.columnsAt (left + 1) fields = _
    rw [columnsAt]
    rfl

/-- A task settles with what has been computed: by induction on the levels that are left. -/
theorem settles_answerAt (depth : Nat) (task : Task) :
    c.Settles depth task (c.answerAt (c.levels - depth) task) := by
  induction hleft : c.levels - depth generalizing depth task with
  | zero =>
    rw [answerAt_zero]
    exact .tooDeep (Nat.le_of_sub_eq_zero hleft)
  | succ left ih =>
    rw [answerAt_succ]
    exact .perform (c.answerAt left) (by omega) fun sub _ => ih (depth + 1) sub (by omega)

/-- **Every task comes to an end**, and it does so with one answer. -/
theorem settles_iff {depth : Nat} {answer : task.Answer} :
    c.Settles depth task answer ↔ answer = c.answerAt (c.levels - depth) task := by
  constructor
  · intro h
    induction h with
    | tooDeep full => rw [Nat.sub_eq_zero_of_le full, answerAt_zero]
    | @perform depth task answers room asked ih =>
      -- by the induction hypothesis the answers are those that are computed one level below
      obtain ⟨left, hleft⟩ := Nat.exists_eq_add_one_of_ne_zero (Nat.sub_pos_of_lt room).ne'
      have hbelow : c.levels - (depth + 1) = left := by omega
      rw [hleft, answerAt_succ]
      refine perform_congr fun sub hsub => ?_
      rw [ih sub hsub, hbelow]
  · rintro rfl
    exact settles_answerAt depth task

end CustomConverter

end SchemaConversion
