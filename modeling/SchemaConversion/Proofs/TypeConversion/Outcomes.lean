import SchemaConversion.Proofs.TypeConversion.Recognition
import SchemaConversion.Proofs.Widening
import Mathlib.Logic.Function.Iterate

/-!
# What the conversion of a spelling answers

A conversion tells the truth about itself, in whichever way it was made:

> `resolve_consistent`: it is lossy exactly if it has a warning, and direct exactly if nothing was
> prescribed and the canonical types on both sides are the same.

And there is a conversion wherever the target holds some kind of text. The substitute that is tried
last is closer to a text, so each type has one among its last resorts (`lastResort_iterate`), and
from one kind of text all others are reached:

> `resolve_of_holdsText`: what the source can read is converted, and everything else is unknown.
-/

namespace SchemaConversion

/-- The kind is direct exactly if the canonical types on both sides are the same. -/
def TypeConversion.TellsKind (b : TypeConversion) : Prop :=
  b.kind = .direct ↔ b.canonical = b.targetCanonical

namespace TypeConverter

variable {c : TypeConverter} {s given : String} {normal : List Char} {b : TypeConversion}

/-! ## Kinds -/

theorem carried_tellsKind (d : Declared) (given normal : String) (info : TypeInfo) (lossy : Bool) :
    (c.carried d given normal info lossy).TellsKind := by
  -- the kind is told from the canonical types themselves
  unfold TypeConversion.TellsKind carried
  by_cases hdirect : info.canonical = d.info.canonical
  · simp [hdirect]
  · simp [hdirect, Ne.symm hdirect]

theorem single_tellsKind {normal : String} (h : c.single given normal = .ok b) : b.TellsKind := by
  obtain ⟨d, info, -, hgoes⟩ := single_eq_ok.1 h
  cases hgoes with
  | modified _ =>
    -- the modifier makes the canonical type out of the signed one
    exact ⟨fun _ => rfl, fun _ => rfl⟩
  | carried _ _ => exact carried_tellsKind _ _ _ _ _

theorem array_tellsKind {element : String} {inner : TypeConversion}
    (h : c.array given element inner = .ok b) : b.TellsKind := by
  unfold array at h
  split at h
  · cases h
    exact ⟨fun _ => rfl, fun _ => rfl⟩
  · obtain ⟨⟨info, lossy⟩, -, ⟨⟩⟩ := bind_eq_ok.1 h
    unfold TypeConversion.TellsKind
    by_cases harray : info.canonical = .array
    · simp [harray]
    · simp [harray, Ne.symm harray]

/-- **The kind of a conversion**: what is prescribed is never direct, and everything else is direct
exactly if the canonical types are the same. -/
theorem Resolves.direct_iff (h : c.Resolves given normal b) :
    b.kind = .direct ↔
      c.replacement? (String.ofList normal) = none ∧ b.canonical = b.targetCanonical := by
  cases h with
  | prescribed _ hnative => simp [hnative, override]
  | array hnative _ _ h =>
    simp only [hnative, true_and]
    exact array_tellsKind h
  | single _ hnative _ h =>
    simp only [hnative, true_and]
    exact single_tellsKind h

/-- **A conversion tells the truth about itself.** It is lossy exactly if it has a warning, and it
is direct exactly if nothing was prescribed for the spelling and the canonical types on both sides
are the same. -/
theorem resolve_consistent (h : c.resolve s = .ok b) :
    (b.lossy = true ↔ b.warnings ≠ []) ∧
      (b.kind = .direct ↔
        c.replacement? (TypeName.normalize s) = none ∧ b.canonical = b.targetCanonical) := by
  have hkind := (resolveNormal_eq_ok.1 h).direct_iff
  rw [String.ofList_toList] at hkind
  exact ⟨resolve_lossy_iff h, hkind⟩

/-- The conversion from PostgreSQL to Neo4j where a replacement is prescribed for money. -/
def prescribingMoney : TypeConverter :=
  { between Databases.postgresql Databases.neo4j with
    overrides := Dictionary.ofList [("money", "float")] }

/-- Lists of lists of decimal numbers lose digits in Neo4j, and this is told. They are lists on
both sides, so the conversion is direct. -/
theorem nested_loss_told :
    ∃ b, prescribingMoney.resolve "Numeric (10, 2)[][]" = .ok b ∧
      b.converted = "LIST<LIST<float>>" ∧ b.lossy = true ∧ b.warnings ≠ [] ∧
      b.kind = .direct ∧ b.canonical = b.targetCanonical := by
  have htest : (prescribingMoney.resolve "Numeric (10, 2)[][]").toOption.any
      (fun b => decide (b.converted = "LIST<LIST<float>>" ∧ b.lossy = true ∧ b.kind = .direct)) =
        true := by decide +kernel
  obtain ⟨b, h, hfacts⟩ := exists_ok htest
  obtain ⟨hconverted, hlossy, hkind⟩ := of_decide_eq_true hfacts
  obtain ⟨htold, hdirect⟩ := resolve_consistent h
  exact ⟨b, h, hconverted, hlossy, htold.1 hlossy, hkind, (hdirect.1 hkind).2⟩

end TypeConverter

/-! ## Texts -/

namespace CanonicalType

/-- The kinds of text to which everything can be widened. -/
def texts : List CanonicalType := [.string, .text, .varchar, .clob]

/-- The substitute that is tried last. -/
def lastResort (t : CanonicalType) : CanonicalType :=
  (t.fallbacks.getLast?.map Fallback.canonical).getD t

/-- After five steps from one last resort to the next there is a text. -/
theorem lastResort_iterate (t : CanonicalType) :
    lastResort^[5] t ∈ [CanonicalType.string, .text, .varchar] := by
  cases t <;> decide

end CanonicalType

/-- The profile has a native type for some kind of text. -/
def TypeProfile.HoldsText (p : TypeProfile) : Prop :=
  ∃ t ∈ CanonicalType.texts, (p.nativeFor? t).isSome = true

namespace TypeConverter

variable {c : TypeConverter} {given : String} {normal element : List Char}

/-- What has nothing to be widened to has no substitute that does. -/
theorem targetFor?_substitute {t u : CanonicalType} (h : c.targetFor? t = none)
    (hu : u ∈ t.fallbacks.map CanonicalType.Fallback.canonical) : c.targetFor? u = none := by
  obtain ⟨step, hstep, rfl⟩ := List.mem_map.1 hu
  rw [targetFor?_eq_none] at h ⊢
  intro route steps hsteps
  -- a route from the substitute is one from the type with a step before it
  obtain ⟨place, hplace⟩ := List.mem_iff_getElem?.1 hstep
  have hlonger : t.steps? (place :: route) = some (step :: steps) := by
    rw [CanonicalType.steps?, hplace, Option.bind_some, hsteps, Option.map_some]
  have hnone := h _ _ hlonger
  rwa [CanonicalType.endOf_cons] at hnone

/-- Nor does the substitute that is tried last. -/
theorem targetFor?_lastResort {t : CanonicalType} (h : c.targetFor? t = none) :
    c.targetFor? t.lastResort = none := by
  unfold CanonicalType.lastResort
  cases hlast : t.fallbacks.getLast? with
  | none => exact h
  | some step =>
    exact targetFor?_substitute h (List.mem_map_of_mem (List.mem_of_getLast? hlast))

/-- **Everything can be widened to every kind of text.** -/
theorem targetFor?_text {t u : CanonicalType} (h : c.targetFor? t = none)
    (hu : u ∈ CanonicalType.texts) : c.targetFor? u = none := by
  have hfive : c.targetFor? (CanonicalType.lastResort^[5] t) = none :=
    Function.Iterate.rec (fun t => c.targetFor? t = none) h (fun _ => targetFor?_lastResort) 5
  -- whichever of the three it is, it leads to strings, and these lead to the rest
  have hstring : c.targetFor? .string = none := by
    have hlast := t.lastResort_iterate
    generalize CanonicalType.lastResort^[5] t = last at hfive hlast
    simp only [List.mem_cons, List.not_mem_nil, or_false] at hlast
    rcases hlast with rfl | rfl | rfl
    · exact hfive
    · exact targetFor?_substitute hfive (by decide)
    · exact targetFor?_substitute hfive (by decide)
  have htext : c.targetFor? .text = none := targetFor?_substitute hstring (by decide)
  simp only [CanonicalType.texts, List.mem_cons, List.not_mem_nil, or_false] at hu
  rcases hu with rfl | rfl | rfl | rfl
  · exact hstring
  · exact htext
  · exact targetFor?_substitute hstring (by decide)
  · exact targetFor?_substitute htext (by decide)

/-- A target that holds texts has something for every type. -/
theorem targetFor_of_holdsText (h : c.target.HoldsText) (t : CanonicalType) :
    ∃ found, c.targetFor t = .ok found := by
  cases hfound : c.targetFor? t with
  | some found => exact ⟨found, targetFor_eq_ok.2 hfound⟩
  | none =>
    obtain ⟨u, hu, hnative⟩ := h
    -- the empty route leads to the text itself
    have hnone := targetFor?_eq_none.1 (targetFor?_text hfound hu) [] [] rfl
    have hend : u.endOf [] = u := rfl
    rw [hend] at hnone
    rw [hnone] at hnative
    cases hnative

/-- The source can read a normal form: something is prescribed for it, it is an array of what the
source can read, or the source has a type that is spelled like this. -/
inductive Reads (c : TypeConverter) : List Char → Prop
  | prescribed {normal : List Char} {replacement : String} (hne : normal ≠ [])
      (hnative : c.replacement? (String.ofList normal) = some replacement) : Reads c normal
  | array {normal element : List Char} (harray : arrayElement? normal = some element)
      (helement : Reads c element) : Reads c normal
  | single {normal : List Char} {d : Declared} (hne : normal ≠ [])
      (harray : arrayElement? normal = none)
      (hd : c.declared? (String.ofList normal) = some d) : Reads c normal

theorem not_reads_nil : ¬c.Reads [] := by
  intro hreads
  cases hreads with
  | prescribed hne _ => exact hne rfl
  | array harray _ => exact ne_nil_of_arrayElement? harray rfl
  | single hne _ _ => exact hne rfl

/-- An array for which nothing is prescribed is read if its element is. -/
theorem reads_array_iff (hnative : c.replacement? (String.ofList normal) = none)
    (harray : arrayElement? normal = some element) : c.Reads normal ↔ c.Reads element := by
  refine ⟨fun hreads => ?_, .array harray⟩
  cases hreads with
  | prescribed _ hsome =>
    rw [hnative] at hsome
    cases hsome
  | array hsame helement =>
    rw [harray] at hsame
    obtain rfl := Option.some.inj hsame
    exact helement
  | single _ hnone _ =>
    rw [harray] at hnone
    cases hnone

theorem reads_single_iff (hne : normal ≠ [])
    (hnative : c.replacement? (String.ofList normal) = none)
    (harray : arrayElement? normal = none) :
    c.Reads normal ↔ (c.declared? (String.ofList normal)).isSome = true := by
  rw [Option.isSome_iff_exists]
  refine ⟨fun hreads => ?_, fun ⟨_, hd⟩ => .single hne harray hd⟩
  cases hreads with
  | prescribed _ hsome =>
    rw [hnative] at hsome
    cases hsome
  | array hsome _ =>
    rw [harray] at hsome
    cases hsome
  | single _ _ hd => exact ⟨_, hd⟩

theorem array_of_holdsText (h : c.target.HoldsText) (given element : String)
    (inner : TypeConversion) : ∃ b, c.array given element inner = .ok b := by
  unfold array
  split
  · exact ⟨_, rfl⟩
  · obtain ⟨⟨info, lossy⟩, hfound⟩ := targetFor_of_holdsText h .array
    exact ⟨_, bind_eq_ok.2 ⟨_, hfound, rfl⟩⟩

theorem single_of_holdsText (h : c.target.HoldsText) {normal : String} {d : Declared}
    (hd : c.declared? normal = some d) (given : String) : ∃ b, c.single given normal = .ok b := by
  unfold single
  rw [hd]
  dsimp only
  split
  · exact ⟨_, rfl⟩
  · obtain ⟨found, hfound⟩ := targetFor_of_holdsText h d.info.canonical
    exact ⟨_, bind_eq_ok.2 ⟨found, hfound, rfl⟩⟩

/-- A conversion succeeds where the source can read the spelling, and else this is unknown. -/
def Answers (c : TypeConverter) (given : String) (normal : List Char) : Prop :=
  (c.Reads normal ∧ ∃ b, c.resolveNormal given normal = .ok b) ∨
    ¬c.Reads normal ∧ ∃ name, c.resolveNormal given normal = .error (c.unknown name)

/-- An array is answered like its element. -/
theorem Answers.array (htext : c.target.HoldsText)
    (hnative : c.replacement? (String.ofList normal) = none)
    (harray : arrayElement? normal = some element) (h : c.Answers (String.ofList element) element) :
    c.Answers given normal := by
  unfold Answers
  rw [resolveNormal_array hnative harray, reads_array_iff hnative harray]
  rcases h with ⟨hreads, inner, hinner⟩ | ⟨hno, name, herror⟩
  · obtain ⟨b, hb⟩ := array_of_holdsText htext given (String.ofList element) inner
    exact .inl ⟨hreads, b, bind_eq_ok.2 ⟨inner, hinner, hb⟩⟩
  -- an element that is unknown is reported in place of the array
  · exact .inr ⟨hno, name, by rw [herror]; rfl⟩

/-- A type that is no array is answered if it is declared. -/
theorem Answers.single (htext : c.target.HoldsText) (hne : normal ≠ [])
    (hnative : c.replacement? (String.ofList normal) = none)
    (harray : arrayElement? normal = none) : c.Answers given normal := by
  unfold Answers
  rw [resolveNormal_single hne hnative harray, reads_single_iff hne hnative harray]
  cases hd : c.declared? (String.ofList normal) with
  | some d => exact .inl ⟨rfl, single_of_holdsText htext hd given⟩
  | none => exact .inr ⟨Bool.false_ne_true, given, by unfold TypeConverter.single; rw [hd]⟩

/-- **Every spelling is answered**: by induction on the brackets of an array. -/
theorem answers_of_holdsText (htext : c.target.HoldsText) (given : String) (normal : List Char) :
    c.Answers given normal := by
  induction given, normal using resolveNormal_induction c with
  | blank given =>
    exact .inr ⟨not_reads_nil, given, resolveNormal_nil c given⟩
  | prescribed given normal replacement hne hnative =>
    exact .inl ⟨.prescribed hne hnative, _, resolveNormal_prescribed hne hnative⟩
  | array given normal element hnative harray ih =>
    exact .array htext hnative harray ih
  | single given normal hne hnative harray => exact .single htext hne hnative harray

/-- **A text is always enough.** If the target has a native type for one kind of text, then a
spelling is converted exactly if the source can read it, whatever is prescribed, and the only
failure is that a spelling is unknown. -/
theorem resolve_of_holdsText (htext : c.target.HoldsText) (s : String) :
    ((∃ b, c.resolve s = .ok b) ↔ c.Reads (TypeName.normalize s).toList) ∧
      ∀ e, c.resolve s = .error e → ∃ name, e = c.unknown name := by
  have hanswers := answers_of_holdsText htext s (TypeName.normalize s).toList
  unfold resolve
  rcases hanswers with ⟨hreads, b, hb⟩ | ⟨hno, name, herror⟩
  · refine ⟨⟨fun _ => hreads, fun _ => ⟨b, hb⟩⟩, fun e he => ?_⟩
    rw [hb] at he
    cases he
  · refine ⟨⟨fun ⟨b, hb⟩ => ?_, fun hreads => absurd hreads hno⟩, fun e he => ⟨name, ?_⟩⟩
    · rw [herror] at hb
      cases hb
    · rw [herror] at he
      exact (Except.error.inj he).symm

/-- The conversion of graphs to a target that has nothing but one kind of text. -/
def toArchive : TypeConverter where
  source := Databases.neo4j.types
  target := TypeProfile.ofTable "archive" [.simple "clob" .clob]

/-- Even lists of relationships become texts, and what is not known is unknown in lists, too. -/
theorem relationships_archived :
    (∃ b, toArchive.resolve "Relationship[]" = .ok b) ∧
      ∃ e name, toArchive.resolve "edge[]" = .error e ∧ e = toArchive.unknown name := by
  have htext : toArchive.target.HoldsText := ⟨.clob, by decide, by decide +kernel⟩
  have harray : arrayElement? (TypeName.normalize "Relationship[]").toList =
      some "relationship".toList := by decide +kernel
  obtain ⟨d, hd⟩ : ∃ d, toArchive.declared? (String.ofList "relationship".toList) = some d :=
    Option.isSome_iff_exists.1 (by decide +kernel)
  have hreads : toArchive.Reads (TypeName.normalize "Relationship[]").toList :=
    .array harray (.single (by decide) (by decide) hd)
  have hfails : (toArchive.resolve "edge[]").toOption.isNone = true := by decide +kernel
  refine ⟨(resolve_of_holdsText htext "Relationship[]").1.2 hreads, ?_⟩
  cases h : toArchive.resolve "edge[]" with
  | ok b =>
    rw [h] at hfails
    cases hfails
  | error e =>
    obtain ⟨name, hname⟩ := (resolve_of_holdsText htext "edge[]").2 e h
    exact ⟨e, name, rfl, hname⟩

end TypeConverter

end SchemaConversion
