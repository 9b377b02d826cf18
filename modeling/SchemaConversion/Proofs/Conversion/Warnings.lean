import SchemaConversion.Proofs.TypeConversion
import SchemaConversion.Proofs.Conversion.Fields

/-!
# What warnings are about

Warnings of two kinds may tell that something is lost: those about lossy conversions and those about
custom types. Plans, placements and objects as a whole give no such warnings, so all of them come
from the conversion of single types and single fields:

> `mem_warnings_cases`: a warning of these kinds comes from a type of the catalog or from a field of
> an object that goes somewhere.

> `execute_isAbout`: it is about a field that is converted with loss as its own type, about a custom
> type, about a field that keeps its type, or about a lookup table without a container.

The names of types differ in a valid schema, so what is told of a type is told by its conversion:

> `tellsOfType_iff`: no other type and no field gives a warning about it.
-/

namespace SchemaConversion

/-- By warnings of this kind losses may be told. -/
def WarningKind.tellsLosses : WarningKind → Bool
  | .lossyConversion | .customType => true
  | _ => false

namespace Plan

variable {p : Plan} {s : Schema} {f : Field} {t : CustomType} {k d : ContainerKind}
  {o : SchemaObject} {w : ConversionWarning} {message : String}

/-- A warning that a field loses what the conversion of its native type says. -/
def TellsLoss (k : ObjectType) (objectName : String) (f : Field) (b : TypeConversion)
    (w : ConversionWarning) : Prop :=
  w.kind = .lossyConversion ∧ w.objectType = some k ∧ w.objectName = some objectName ∧
    w.message = objectName ++ "." ++ f.name ++ ": " ++ "; ".intercalate b.warnings

/-- A warning about a custom type with this message. -/
def TellsOfType (t : CustomType) (message : String) (w : ConversionWarning) : Prop :=
  w.kind = .customType ∧ w.objectType = some .customType ∧ w.objectName = some t.name ∧
    w.message = message

/-- A warning that there is no container for a lookup table. -/
def TellsMissing (p : Plan) (name : String) (w : ConversionWarning) : Prop :=
  w.kind = .customType ∧ w.severity = .warning ∧
    w.message = p.targetName ++ " has no container for lookup table " ++ name

/-! ## Where warnings come from -/

/-- A conversion tells what is known beforehand and what its types and containers have to tell. -/
theorem mem_warnings_iff :
    w ∈ (p.execute s).findings.warnings ↔
      (w ∈ p.findings.warnings ∨ ∃ t ∈ s.types, w ∈ (p.convertType t).findings.warnings) ∨
        ∃ k ∈ s.occupied, w ∈ (p.containerResult s k).findings.warnings := by
  rw [execute_findings]
  show w ∈ _ ++ List.flatMap _ _ ++ List.flatMap _ _ ↔ _
  simp only [List.mem_append, List.flatMap_map, List.mem_flatMap]

/-- What the conversion of a type has to tell is told. -/
theorem mem_warnings_of_type (ht : t ∈ s.types) (hw : w ∈ (p.convertType t).findings.warnings) :
    w ∈ (p.execute s).findings.warnings :=
  mem_warnings_iff.2 (.inl (.inr ⟨t, ht, hw⟩))

/-- What is known beforehand is told by warnings of other kinds. -/
theorem findings_kind (hw : w ∈ p.findings.warnings) : w.kind.tellsLosses = false := by
  rcases List.mem_append.1 hw with hw | hw
  · obtain ⟨limitation, -, rfl⟩ := List.mem_map.1 hw
    rfl
  · split at hw
    · rw [List.mem_singleton.1 hw]
      rfl
    · cases hw

/-- A refused answer is told as a remark on emulation. -/
theorem decide_kind {question : PendingDecision}
    (hw : w ∈ (p.decide question).findings.warnings) : w.kind = .emulation := by
  unfold decide at hw
  split at hw
  · dsimp only at hw
    split at hw
    · cases hw
    · rw [List.mem_singleton.1 hw]
      rfl
  · cases hw

/-- A placement remarks on emulation and on nothing else. -/
theorem placement_kind {rule : ObjectRule} (hw : w ∈ (p.placement k rule).findings.warnings) :
    w.kind = .emulation := by
  rw [placement_findings] at hw
  split at hw
  · exact decide_kind hw
  · cases hw

/-- A warning about an object by which a loss may be told is about one of its fields. -/
theorem exists_field_of_moveObject {fates : Fates} {rule : ObjectRule}
    (hkind : w.kind.tellsLosses = true)
    (hw : w ∈ (p.moveObject fates k d rule o).warnings) :
    ∃ f ∈ o.fields, w ∈ (p.convertField fates k.objectType o.name f).warnings := by
  have hfields (hw : w ∈ (p.convertObject fates k.objectType o).warnings) :
      ∃ f ∈ o.fields, w ∈ (p.convertField fates k.objectType o.name f).warnings := by
    obtain ⟨part, hpart, hw⟩ := List.mem_flatMap.1 hw
    obtain ⟨f, hf, rfl⟩ := List.mem_map.1 hpart
    exact ⟨f, hf, hw⟩
  unfold moveObject at hw
  dsimp only at hw
  split at hw
  · rcases List.mem_cons.1 hw with rfl | hw
    · cases hkind
    · exact hfields hw
  · exact hfields hw

/-- A warning about a container by which a loss may be told is about a field of an object that goes
somewhere. -/
theorem exists_field_of_container (hkind : w.kind.tellsLosses = true)
    (hw : w ∈ (p.containerResult s k).findings.warnings) :
    ∃ d, p.destination? k = some d ∧ ∃ o ∈ p.chosen (s.objects k), ∃ f ∈ o.fields,
      w ∈ (p.convertField (p.fates s) k.objectType o.name f).warnings := by
  unfold containerResult at hw
  cases hx : p.preferences.excludesType k.objectType with
  | true =>
    rw [convertContainer_excluded hx] at hw
    rw [List.mem_singleton.1 hw] at hkind
    cases hkind
  | false =>
    have hplacement : w ∉ (p.placement k (p.rule k.objectType)).findings.warnings := by
      intro hw
      rw [placement_kind hw] at hkind
      cases hkind
    cases hd : (p.placement k (p.rule k.objectType)).destination with
    | none =>
      rw [convertContainer_dropped hx hd] at hw
      rcases List.mem_append.1 hw with hw | hw
      · exact absurd hw hplacement
      · -- objects that are dropped are reported as unsupported
        obtain ⟨_, hdropped, hw⟩ := List.mem_flatMap.1 hw
        obtain ⟨o, -, rfl⟩ := List.mem_map.1 hdropped
        rw [List.mem_singleton.1 hw] at hkind
        cases hkind
    | some d =>
      rw [convertContainer_moved hx hd] at hw
      rcases List.mem_append.1 hw with hw | hw
      · exact absurd hw hplacement
      · obtain ⟨_, hmoved, hw⟩ := List.mem_flatMap.1 hw
        obtain ⟨o, ho, rfl⟩ := List.mem_map.1 hmoved
        exact ⟨d, destination?_eq_some.2 ⟨hx, hd⟩, o, ho, exists_field_of_moveObject hkind hw⟩

/-- **Losses are told by types and by fields alone.** -/
theorem mem_warnings_cases (hkind : w.kind.tellsLosses = true)
    (hw : w ∈ (p.execute s).findings.warnings) :
    (∃ t ∈ s.types, w ∈ (p.convertType t).findings.warnings) ∨
      ∃ k d, p.destination? k = some d ∧ ∃ o ∈ p.chosen (s.objects k), ∃ f ∈ o.fields,
        w ∈ (p.convertField (p.fates s) k.objectType o.name f).warnings := by
  rcases mem_warnings_iff.1 hw with (hplan | htype) | ⟨k, -, hcontainer⟩
  · rw [findings_kind hplan] at hkind
    cases hkind
  · exact .inl htype
  · exact .inr ⟨k, exists_field_of_container hkind hcontainer⟩

/-! ## Types -/

/-- The findings of the conversion of a custom type are told when it is carried out. -/
theorem mem_warnings_of_conversion {c : CustomConversion}
    (h : (p.convertType t).fate = .converted c) (hw : w ∈ (p.conversionFindings t c).warnings) :
    w ∈ (p.convertType t).findings.warnings := by
  have htreats := p.treats_convertType t
  generalize p.convertType t = result at h htreats ⊢
  cases htreats with
  | excluded _ => cases h
  | failed _ _ => cases h
  | refused _ _ => cases h
  | carried _ _ =>
    cases h
    exact List.mem_append_right _ hw

/-- A warning by which a loss may be told comes from a conversion that is carried out, or it says
why the type is dropped. -/
theorem convertType_warnings_cases (hkind : w.kind.tellsLosses = true)
    (hw : w ∈ (p.convertType t).findings.warnings) :
    (∃ c, (p.convertType t).fate = .converted c ∧ w ∈ (p.conversionFindings t c).warnings) ∨
      ∃ reason, (p.convertType t).fate = .dropped reason ∧ TellsOfType t reason w := by
  have hconsent (c : CustomConversion) : w ∉ (p.consentFindings t c).warnings := by
    unfold consentFindings
    split
    · intro hw
      rw [decide_kind hw] at hkind
      cases hkind
    · exact List.not_mem_nil
  have htreats := p.treats_convertType t
  generalize p.convertType t = result at hw htreats ⊢
  cases htreats with
  | excluded _ => cases hw
  | failed _ _ =>
    rw [List.mem_singleton.1 hw]
    exact .inr ⟨_, rfl, rfl, rfl, rfl, rfl⟩
  | refused _ _ => exact absurd hw (hconsent _)
  | carried _ _ =>
    rcases List.mem_append.1 hw with hw | hw
    · exact absurd hw (hconsent _)
    · exact .inl ⟨_, rfl, hw⟩

/-- What the findings of a conversion tell of its type is what the conversion has to tell. -/
theorem conversionFindings_tells_iff {c : CustomConversion} :
    (∃ w ∈ (p.conversionFindings t c).warnings, TellsOfType t message w) ↔
      message ∈ c.rendition.warnings := by
  constructor
  · rintro ⟨w, hw, -, htype, -, rfl⟩
    rcases List.mem_append.1 hw with hw | hw
    · obtain ⟨message, hmessage, rfl⟩ := List.mem_map.1 hw
      exact hmessage
    · -- a table without a container is no matter of the type
      split at hw
      · cases hw
      · obtain ⟨table, -, rfl⟩ := List.mem_map.1 hw
        cases htype
  · exact fun hmessage =>
      ⟨_, List.mem_append_left _ (List.mem_map_of_mem hmessage), rfl, rfl, rfl, rfl⟩

/-- A type is dropped because its conversion fails, and the failure is told. -/
theorem convertType_dropped {reason : String} (h : (p.convertType t).fate = .dropped reason) :
    ∃ w ∈ (p.convertType t).findings.warnings, TellsOfType t reason w := by
  have htreats := p.treats_convertType t
  generalize p.convertType t = result at h htreats ⊢
  cases htreats with
  | excluded _ => cases h
  | failed _ _ =>
    cases h
    exact ⟨_, List.mem_singleton_self _, rfl, rfl, rfl, rfl⟩
  | refused _ _ => cases h
  | carried _ _ => cases h

/-- **What is told of a type** is what its conversion has to tell, if it is carried out, or why the
type is dropped. -/
theorem convertType_tells_iff :
    (∃ w ∈ (p.convertType t).findings.warnings, TellsOfType t message w) ↔
      (∃ c, (p.convertType t).fate = .converted c ∧ message ∈ c.rendition.warnings) ∨
        (p.convertType t).fate = .dropped message := by
  constructor
  · rintro ⟨w, hw, htells⟩
    have hkind : w.kind.tellsLosses = true := by
      rw [htells.1]
      rfl
    rcases convertType_warnings_cases hkind hw with ⟨c, hfate, hw⟩ | ⟨reason, hfate, hreason⟩
    · exact .inl ⟨c, hfate, conversionFindings_tells_iff.1 ⟨w, hw, htells⟩⟩
    · obtain ⟨-, -, -, rfl⟩ := htells
      obtain ⟨-, -, -, rfl⟩ := hreason
      exact .inr hfate
  · rintro (⟨c, hfate, hmessage⟩ | hdropped)
    · obtain ⟨w, hw, htells⟩ := (conversionFindings_tells_iff (p := p)).2 hmessage
      exact ⟨w, mem_warnings_of_conversion hfate hw, htells⟩
    · exact convertType_dropped hdropped

/-- What a conversion is about: its own type or a lookup table without a container. -/
theorem conversionFindings_isAbout {c : CustomConversion}
    (hw : w ∈ (p.conversionFindings t c).warnings) :
    (∃ message, TellsOfType t message w) ∨ w.objectType = none ∧ ∃ name, p.TellsMissing name w := by
  rcases List.mem_append.1 hw with hw | hw
  · obtain ⟨message, -, rfl⟩ := List.mem_map.1 hw
    exact .inl ⟨message, rfl, rfl, rfl, rfl⟩
  · split at hw
    · cases hw
    · obtain ⟨table, -, rfl⟩ := List.mem_map.1 hw
      exact .inr ⟨rfl, table.name, rfl, rfl, rfl⟩

/-- What is told of a type is about the type or about its lookup table. -/
theorem convertType_isAbout (hkind : w.kind.tellsLosses = true)
    (hw : w ∈ (p.convertType t).findings.warnings) :
    (∃ message, TellsOfType t message w) ∨ w.objectType = none ∧ ∃ name, p.TellsMissing name w := by
  rcases convertType_warnings_cases hkind hw with ⟨c, -, hw⟩ | ⟨reason, -, htells⟩
  · exact conversionFindings_isAbout hw
  · exact .inl ⟨reason, htells⟩

/-! ## Fields -/

/-- The warning about a field repeats all that the conversion of its type says. -/
theorem losesValues_tells (p : Plan) (k : ObjectType) (name : String) (f : Field)
    {b : TypeConversion} (hb : b.warnings ≠ []) :
    TellsLoss k name f b (p.losesValues k name f b) := by
  refine ⟨rfl, rfl, rfl, ?_⟩
  show name ++ "." ++ f.name ++ ": "
    ++ (if b.warnings.isEmpty then b.note else "; ".intercalate b.warnings) = _
  rw [if_neg (by simpa using hb)]

/-- A warning about a field tells what the conversion of its own type loses, or that it keeps its
type. -/
theorem convertField_isAbout (hs : s.validate = .ok ()) {k : ObjectType} {name : String}
    (hw : w ∈ (p.convertField (p.fates s) k name f).warnings) :
    ((∀ t ∈ s.types, ¬f.Names t) ∧ ∃ b, p.types.resolve f.dataType = .ok b ∧ b.lossy = true ∧
        TellsLoss k name f b w) ∨ IsKeptBy k name f w := by
  rcases convertField_cases hs k name with
    ⟨c, -, heq⟩ | ⟨t, -, -, reason, -, heq⟩ | ⟨hnone, heq⟩
  · -- a field that follows the conversion of its type has nothing to tell of its own
    rw [heq] at hw
    cases hw
  · rw [heq] at hw
    rw [List.mem_singleton.1 hw]
    exact .inr (keepsType_isKept .customType k name f reason)
  · rw [heq] at hw
    rcases convertPrimitive_cases p k name f with ⟨b, hb, hconversion⟩ | ⟨error, -, hconversion⟩
    · rw [hconversion] at hw
      dsimp only at hw
      split at hw
      · next hlossy =>
        rw [List.mem_singleton.1 hw]
        exact .inl ⟨hnone, b, hb, hlossy,
          losesValues_tells p k name f ((TypeConverter.resolve_lossy_iff hb).1 hlossy)⟩
      · cases hw
    · rw [hconversion] at hw
      rw [List.mem_singleton.1 hw]
      exact .inr (keepsType_isKept .typeConversion k name f error.message)

/-! ## What they are about -/

/-- What a warning by which a loss may be told is about. -/
inductive IsAbout (p : Plan) (s : Schema) (w : ConversionWarning) : Prop
  /-- A field of an object that goes somewhere is converted with loss as its own type. -/
  | loss {k d : ContainerKind} {o : SchemaObject} {f : Field} {b : TypeConversion}
      (destination_eq : p.destination? k = some d) (object_mem : o ∈ p.chosen (s.objects k))
      (field_mem : f ∈ o.fields) (unnamed : ∀ t ∈ s.types, ¬f.Names t)
      (resolves : p.types.resolve f.dataType = .ok b) (lossy_eq : b.lossy = true)
      (tells : TellsLoss k.objectType o.name f b w) : IsAbout p s w
  | type {t : CustomType} {message : String} (mem : t ∈ s.types)
      (tells : TellsOfType t message w) : IsAbout p s w
  /-- A field of an object that goes somewhere keeps its type. -/
  | kept {k d : ContainerKind} {o : SchemaObject} {f : Field}
      (destination_eq : p.destination? k = some d) (object_mem : o ∈ p.chosen (s.objects k))
      (field_mem : f ∈ o.fields) (kept : IsKeptBy k.objectType o.name f w) : IsAbout p s w
  /-- There is no container for a lookup table. -/
  | missing {name : String} (missing : p.TellsMissing name w) : IsAbout p s w

/-- **What warnings are about** if they are of a kind by which losses are told. -/
theorem execute_isAbout (hs : s.validate = .ok ()) (hkind : w.kind.tellsLosses = true)
    (hw : w ∈ (p.execute s).findings.warnings) : p.IsAbout s w := by
  rcases mem_warnings_cases hkind hw with ⟨t, ht, hw⟩ | ⟨k, d, hd, o, ho, f, hf, hw⟩
  · rcases convertType_isAbout hkind hw with ⟨message, htells⟩ | ⟨-, name, hmissing⟩
    · exact .type ht htells
    · exact .missing hmissing
  · rcases convertField_isAbout hs hw with ⟨hnone, b, hb, hlossy, htells⟩ | hkept
    · exact .loss hd ho hf hnone hb hlossy htells
    · exact .kept hd ho hf hkept

/-- **What is told of a type is told by its conversion.** -/
theorem tellsOfType_iff (hs : s.validate = .ok ()) (ht : t ∈ s.types) :
    (∃ w ∈ (p.execute s).findings.warnings, TellsOfType t message w) ↔
      ∃ w ∈ (p.convertType t).findings.warnings, TellsOfType t message w := by
  constructor
  · rintro ⟨w, hw, htells⟩
    have ⟨hcustom, htype, hname, _⟩ := htells
    have hkind : w.kind.tellsLosses = true := by
      rw [hcustom]
      rfl
    rcases mem_warnings_cases hkind hw with ⟨u, hu, hwu⟩ | ⟨k, d, -, o, -, f, -, hw⟩
    · rcases convertType_isAbout hkind hwu with ⟨other, -, -, hother, -⟩ | ⟨hnone, -⟩
      · -- another type has another name
        have hkey : u.key = t.key :=
          congrArg Text.lowerCase (Option.some.inj (hother.symm.trans hname))
        obtain rfl := Schema.types_eq_of_key hs hu ht hkey
        exact ⟨w, hwu, htells⟩
      · rw [hnone] at htype
        cases htype
    · -- warnings about fields are about objects
      have hobject : w.objectType = some k.objectType :=
        (convertField_isAbout hs hw).elim (fun ⟨_, _, _, _, hloss⟩ => hloss.2.1) And.left
      rw [hobject] at htype
      exact absurd (Option.some.inj htype) k.objectType_ne_customType
  · rintro ⟨w, hw, htells⟩
    exact ⟨w, mem_warnings_of_type ht hw, htells⟩

end Plan

end SchemaConversion
