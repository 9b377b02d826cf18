import SchemaConversion.Proofs.TypeConversion.Recognition
import SchemaConversion.Proofs.Widening

/-!
# Reading converted types back

A converted type is spelled by the name of a native type, with parameters and a modifier where they
are needed, and it can be given to a conversion in the other direction. This reads the whole first,
and takes parameters off only if the whole is no entry. In a profile whose entries are named in the
usual way (`TypeProfile.IsRegular`), as they are in every database that comes with the library
(`isRegular_of_builtin`), something is always found, and what is found is what was meant unless the
parameters make another entry of it:

> `resolve_reads_back`: a converted type is read as an entry of the target, and this has the
> canonical type that the conversion tells exactly if no entry of the target of another canonical
> type is spelled like it.

> `ten_digits_read_differently`: a number of ten digits becomes one in Oracle, where this is the
> name of an entry for integers.
-/

namespace SchemaConversion

theorem TypeInfo.acceptsParameters_of_length {info : TypeInfo} (h : info.acceptsLength = true) :
    info.acceptsParameters = true := by rw [acceptsParameters, h, Bool.true_or]

theorem TypeInfo.acceptsParameters_of_precision {info : TypeInfo}
    (h : info.acceptsPrecision = true) : info.acceptsParameters = true := by
  rw [acceptsParameters, h, Bool.or_true]

namespace TypeProfile

/-- The entries are named in the usual way. -/
structure IsRegular (p : TypeProfile) : Prop where
  /-- Each entry stands under its name. -/
  named : ∀ info ∈ p.types.values, p.types.find? info.name = some info
  normal : ∀ info ∈ p.types.values, TypeName.normalize info.name = info.name
  /-- Where parameters or a modifier can be put behind a name, it has no parentheses. -/
  plain : ∀ info ∈ p.types.values,
    (info.acceptsParameters || info.supportsUnsigned) = true → '(' ∉ info.name.toList
  /-- Where a modifier can be put behind a name, it stays apart, and the result is no entry. -/
  unmodified : ∀ info ∈ p.types.values, info.supportsUnsigned = true →
    info.name ≠ "" ∧ ',' ∉ info.name.toList ∧ p.lookup? (info.name ++ " unsigned") = none
  /-- An entry that a modifier changes is preferred for no canonical type but its own. -/
  preferred : ∀ t name info, p.preferred t = some name → p.types.find? name = some info →
    info.supportsUnsigned = true → info.canonical = t

instance (p : TypeProfile) : Decidable p.IsRegular :=
  decidable_of_iff
    ((∀ info ∈ p.types.values, p.types.find? info.name = some info ∧
        TypeName.normalize info.name = info.name ∧
        ((info.acceptsParameters || info.supportsUnsigned) = true → '(' ∉ info.name.toList) ∧
        (info.supportsUnsigned = true → info.name ≠ "" ∧ ',' ∉ info.name.toList ∧
          p.lookup? (info.name ++ " unsigned") = none)) ∧
      ∀ t ∈ CanonicalType.all, ∀ name ∈ p.preferred t, ∀ info ∈ p.types.find? name,
        info.supportsUnsigned = true → info.canonical = t)
    ⟨fun ⟨hentry, hpreferred⟩ =>
      ⟨fun info h => (hentry info h).1, fun info h => (hentry info h).2.1,
        fun info h => (hentry info h).2.2.1, fun info h => (hentry info h).2.2.2,
        fun t name info h => hpreferred t (CanonicalType.mem_all t) name h info⟩,
    fun h => ⟨fun info hinfo => ⟨h.named info hinfo, h.normal info hinfo, h.plain info hinfo,
        h.unmodified info hinfo⟩, fun t _ name hname info => h.preferred t name info hname⟩⟩

/-- The databases that come with the library name their types in the usual way. -/
theorem isRegular_of_builtin : ∀ d ∈ Databases.all, d.types.IsRegular := by decide +kernel

variable {p : TypeProfile} {info : TypeInfo} {name : String}

/-- What stands under a name is found by it, whatever the aliases are. -/
theorem lookup?_of_find? (h : p.types.find? name = some info) : p.lookup? name = some info := by
  unfold lookup?
  rw [h]
  rfl

/-- An entry is found by its name as a spelling, since this is its normal form. -/
theorem IsRegular.typeInfo?_name (h : p.IsRegular) (hinfo : info ∈ p.types.values) :
    p.typeInfo? info.name = some info := by
  unfold typeInfo?
  rw [h.normal info hinfo]
  dsimp only
  rw [lookup?_of_find? (h.named info hinfo)]
  rfl

/-- What is left behind a beginning is the rest. -/
theorem isPrefixOf?_append (a b : List Char) : a.isPrefixOf? (a ++ b) = some b := by
  induction a with
  | nil => rfl
  | cons c a ih =>
    rw [List.cons_append, List.isPrefixOf?, if_pos (beq_self_eq_true c), ih]

/-- A modifier behind a name is taken off. -/
theorem withoutUnsigned?_append (h : TypeName.IsNormal name.toList) :
    withoutUnsigned? (name ++ " unsigned") = some name := by
  unfold withoutUnsigned? List.isSuffixOf?
  rw [String.toList_append, List.reverse_append, isPrefixOf?_append, Option.map_some,
    List.reverse_reverse, Option.some_or, Option.map_some, Text.trimChars_eq_self h.trimmed,
    String.ofList_toList]

/-- An entry that a modifier changes stands for its own canonical type. -/
theorem IsRegular.canonical_eq {t : CanonicalType} (h : p.IsRegular)
    (hinfo : p.nativeFor? t = some info) (hunsigned : info.supportsUnsigned = true) :
    info.canonical = t := by
  unfold nativeFor? at hinfo
  rcases Option.or_eq_some_iff.1 hinfo with hpreferred | ⟨-, hfirst⟩
  · -- it is the entry that the profile prefers for the canonical type
    obtain ⟨name, hname, hfound⟩ := Option.bind_eq_some_iff.1 hpreferred
    exact h.preferred t name info hname hfound hunsigned
  · -- it is the first entry of this canonical type
    simpa using List.find?_some hfirst

/-- The name of an entry that a modifier changes, with the modifier. -/
theorem IsRegular.typeInfo?_unsigned (h : p.IsRegular) (hinfo : info ∈ p.types.values)
    (hunsigned : info.supportsUnsigned = true) :
    p.typeInfo? (info.name ++ " unsigned") = some (asUnsigned info) := by
  have hname := TypeName.isNormal_of_eq (h.normal info hinfo)
  have hmodifier : TypeName.IsNormal "unsigned".toList :=
    TypeName.isNormal_of_eq (by decide +kernel)
  have hopen := h.plain info hinfo (by rw [hunsigned, Bool.or_true])
  obtain ⟨hne, hcomma, hnone⟩ := h.unmodified info hinfo hunsigned
  -- the space before the modifier is kept: no pair with it is one that is drawn together
  have hlast (c : Char) (hc : c ∈ info.name.toList.getLast?) : (c, ' ') ∉ TypeName.loosePairs := by
    have hmem := List.mem_of_getLast? hc
    have hspace := Text.ne_space (hname.trimmed.2 c hc)
    intro hpair
    simp only [TypeName.loosePairs, List.mem_cons, Prod.mk.injEq, List.not_mem_nil] at hpair
    rcases hpair with ⟨-, h⟩ | ⟨rfl, -⟩ | ⟨-, h⟩ | ⟨rfl, -⟩ | ⟨-, h⟩ | ⟨rfl, -⟩ | h
    · cases h
    · exact hcomma hmem
    · cases h
    · exact hopen hmem
    · cases h
    · exact hspace rfl
    · exact h
  have hfirst (d : Char) (hd : d ∈ "unsigned".toList.head?) :
      (' ', d) ∉ TypeName.loosePairs := by
    obtain rfl : 'u' = d := Option.some.inj hd
    decide
  have hnormal : TypeName.normalize (info.name ++ " unsigned") = info.name ++ " unsigned" := by
    refine TypeName.normalize_eq_self ?_
    rw [String.toList_append]
    exact hname.join hmodifier (fun hnil => hne (String.toList_inj.1 hnil))
      (by decide) hlast hfirst
  unfold typeInfo?
  rw [hnormal]
  dsimp only
  rw [hnone, withoutUnsigned?_append hname, Option.none_or, Option.bind_some,
    lookup?_of_find? (h.named info hinfo), Option.map_some]

end TypeProfile

namespace TypeConverter

variable {c : TypeConverter} {s given normal name parameters : String} {info : TypeInfo}
  {d : Declared} {b : TypeConversion}

/-! ## Reading a spelling with parameters -/

/-- Parameters in parentheses, with a modifier behind them or without one, are taken off a name
unless the whole is an entry. -/
theorem declared?_parameterized (behind : String) (hname : TypeName.IsNormal name.toList)
    (hopen : '(' ∉ name.toList) (hparameters : TypeName.IsParameters parameters.toList)
    (hbehind : TypeName.IsNormal (")" ++ behind).toList)
    (hnone : c.source.typeInfo? (parameterized name parameters ++ behind) = none)
    (hbase : c.source.typeInfo? (name ++ " " ++ behind) = some info) :
    ∃ d, c.declared? (TypeName.normalize (parameterized name parameters ++ behind)) = some d ∧
      d.info = info := by
  have hlist : (parameterized name parameters ++ behind).toList =
      name.toList ++ '(' :: (parameters.toList ++ ')' :: behind.toList) := by
    unfold parameterized
    simp
  have hparenthesis : TypeName.IsNormal ['('] :=
    TypeName.isNormal_of_eq (s := "(") (by decide +kernel)
  have hnormal : TypeName.normalize (parameterized name parameters ++ behind) =
      parameterized name parameters ++ behind := by
    refine TypeName.normalize_eq_self ?_
    rw [String.toList_append] at hbehind
    rw [hlist]
    exact hname.append (hparenthesis.append (hparameters.toIsNormal.append hbehind))
  -- the first parenthesis is the one behind the name, as the name has none
  have hparts : TypeName.splitParameters (parameterized name parameters ++ behind) =
      some ⟨TypeName.normalize (name ++ " " ++ behind), parameters⟩ := by
    have hbaselist : String.ofList (name.toList ++ ' ' :: behind.toList) =
        name ++ " " ++ behind := by
      rw [← String.toList_inj]
      simp
    rw [← String.ofList_toList (s := parameterized name parameters ++ behind), hlist,
      TypeName.splitParameters_parameterized hopen hparameters.unclosed, hbaselist,
      Text.trimChars_eq_self hparameters.trimmed, String.ofList_toList]
  unfold declared?
  rw [hnormal, hnone]
  dsimp only
  rw [hparts]
  refine ⟨⟨info, if parameters.isEmpty then none else some parameters⟩, ?_, rfl⟩
  show (c.source.typeInfo? (TypeName.normalize (name ++ " " ++ behind))).bind _ = _
  rw [c.source.typeInfo?_normalize, hbase]
  rfl

/-- The parameters that are declared in a normal form. -/
theorem isParameters_of_declared? (h : c.declared? (TypeName.normalize s) = some d)
    (hparameters : d.parameters = some parameters) :
    TypeName.IsParameters parameters.toList := by
  rcases declared?_cases h with hnone | ⟨parts, hparts, hsome⟩
  · rw [hnone] at hparameters
    cases hparameters
  · rw [hsome] at hparameters
    obtain rfl := Option.some.inj hparameters
    exact TypeName.splitParameters_parameters (TypeName.isNormal_normalize s) hparts

/-! ## Converted types -/

/-- The conversion in the other direction. -/
def reversed (c : TypeConverter) : TypeConverter where
  source := c.target
  target := c.source

/-- How a type is spelled that was not modified: by its name alone or with parameters behind it. -/
inductive Spells (info : TypeInfo) : String → Prop
  | name : Spells info info.name
  | parameterized {parameters : String} (haccepts : info.acceptsParameters = true)
    (hparameters : TypeName.IsParameters parameters.toList) :
    Spells info (parameterized info.name parameters)

/-- Defaults are a length, or a precision with a scale, where the entry takes them. -/
theorem withDefaults_cases (info : TypeInfo) (t : CanonicalType) :
    withDefaults info t = info.name ∨
      (info.acceptsLength = true ∧
        ∃ n : Nat, withDefaults info t = parameterized info.name (toString n)) ∨
      info.acceptsPrecision = true ∧ ∃ p s : Nat,
        withDefaults info t = parameterized info.name (toString p ++ "," ++ toString s) := by
  unfold withDefaults
  split
  · next hlength =>
    split
    · exact .inr (.inl ⟨hlength, _, rfl⟩)
    · exact .inl rfl
  · split
    · next hprecision =>
      split
      · exact .inr (.inr ⟨hprecision, _, _, rfl⟩)
      · exact .inl rfl
    · exact .inl rfl

/-- A name with defaults is spelled by its parameters, or alone if there are none. -/
theorem spells_withDefaults (info : TypeInfo) (t : CanonicalType) :
    Spells info (withDefaults info t) := by
  rcases withDefaults_cases info t with heq | ⟨hlength, n, heq⟩ | ⟨hprecision, p, s, heq⟩
  · rw [heq]
    exact .name
  · rw [heq]
    exact .parameterized (TypeInfo.acceptsParameters_of_length hlength)
      (TypeName.isParameters_toString n)
  · rw [heq]
    refine .parameterized (TypeInfo.acceptsParameters_of_precision hprecision) ?_
    rw [String.toList_append, String.toList_append]
    exact ((TypeName.isParameters_toString p).append TypeName.isParameters_comma).append
      (TypeName.isParameters_toString s)

/-- So is a name with declared parameters, if it accepts any. -/
theorem spells_spelling
    (hparameters : ∀ p, d.parameters = some p → TypeName.IsParameters p.toList) :
    Spells info (spelling d info) := by
  unfold spelling
  split
  · next parameters hsome =>
    split
    · next haccepts => exact .parameterized haccepts (hparameters parameters hsome)
    · exact .name
  · exact spells_withDefaults info _

/-- What a carried type is read as, if the whole is no entry. -/
theorem Spells.reads (h : Spells info s) (hregular : c.source.IsRegular)
    (hinfo : info ∈ c.source.types.values) (hnone : c.source.typeInfo? s = none) :
    ∃ d, c.declared? (TypeName.normalize s) = some d ∧ d.info = info := by
  cases h with
  -- a name alone is an entry
  | name =>
    rw [hregular.typeInfo?_name hinfo] at hnone
    cases hnone
  | @parameterized parameters haccepts hparameters =>
    have hplain := hregular.plain info hinfo (by rw [haccepts, Bool.true_or])
    -- what is taken off leaves a space behind, which the normal form drops
    have hbase : c.source.typeInfo? (info.name ++ " " ++ "") = some info := by
      rw [← hregular.typeInfo?_name hinfo]
      refine c.source.typeInfo?_congr (TypeName.normalize_congr ?_)
      rw [String.append_empty, String.toList_append]
      exact (Text.words_append (by decide) _ _).trans (List.append_nil _)
    have hread := declared?_parameterized ""
      (TypeName.isNormal_of_eq (hregular.normal info hinfo)) hplain hparameters
      (TypeName.isNormal_of_eq (by decide +kernel)) (by rw [String.append_empty]; exact hnone) hbase
    rw [String.append_empty] at hread
    exact hread

/-- A native type that the search finds is an entry of the target. -/
theorem targetFor?_mem {t : CanonicalType} {found : TypeInfo × Bool}
    (h : c.targetFor? t = some found) : found.1 ∈ c.target.types.values := by
  obtain ⟨step, -, hstep⟩ := List.exists_of_findSome?_eq_some h
  obtain ⟨info, hinfo, rfl⟩ := Option.map_eq_some_iff.1 hstep
  exact TypeProfile.nativeFor?_mem hinfo

/-- What stands for an unsigned integer when it is modified. -/
theorem modifiable?_eq_some {t : CanonicalType} (h : c.modifiable? t = some info) :
    ∃ signed, signed.unsignedVariant? = some t ∧ c.target.nativeFor? signed = some info ∧
      info.supportsUnsigned = true := by
  unfold modifiable? at h
  split at h
  · cases h
  · obtain ⟨signed, hsigned, h⟩ := Option.bind_eq_some_iff.1 h
    obtain ⟨found, hfound, h⟩ := Option.bind_eq_some_iff.1 h
    split at h
    · next hunsigned =>
      obtain rfl := Option.some.inj h
      exact ⟨signed, by simpa using List.find?_some hsigned, hfound, hunsigned⟩
    · cases h

/-- What a modified type is read as, if the whole is no entry. -/
theorem reads_modified (hregular : c.target.IsRegular)
    (hparameters : ∀ p, d.parameters = some p → TypeName.IsParameters p.toList)
    (h : c.modifiable? d.info.canonical = some info)
    (hnone : c.target.typeInfo? (modified d given normal info).converted = none) :
    ∃ read, c.reversed.declared? (TypeName.normalize (modified d given normal info).converted) =
        some read ∧
      read.info.canonical = d.info.canonical := by
  obtain ⟨signed, hsigned, hnative, hunsigned⟩ := modifiable?_eq_some h
  have hinfo := TypeProfile.nativeFor?_mem hnative
  have hentry := hregular.typeInfo?_unsigned hinfo hunsigned
  have hcanonical : (TypeProfile.asUnsigned info).canonical = d.info.canonical := by
    unfold TypeProfile.asUnsigned
    rw [if_pos hunsigned, hregular.canonical_eq hnative hunsigned, hsigned]
    rfl
  unfold modified at hnone ⊢
  cases hdeclared : d.parameters with
  -- without parameters the modified name is the unsigned form of an entry
  | none =>
    rw [hdeclared] at hnone
    dsimp only at hnone
    rw [hentry] at hnone
    cases hnone
  -- with parameters it is that form once they are taken off
  | some parameters =>
    rw [hdeclared] at hnone
    dsimp only at hnone ⊢
    have hplain := hregular.plain info hinfo (by rw [hunsigned, Bool.or_true])
    have hbase : c.target.typeInfo? (info.name ++ " " ++ " unsigned") =
        some (TypeProfile.asUnsigned info) := by
      rw [← hentry]
      refine c.target.typeInfo?_congr (TypeName.normalize_congr ?_)
      have hcut (rest : List Char) :
          Text.words (info.name.toList ++ ' ' :: rest) =
            Text.words info.name.toList ++ Text.words rest :=
        Text.words_append (by decide) _ _
      have hmodifier : " unsigned".toList = ' ' :: "unsigned".toList := by decide
      have hspaces : Text.words (' ' :: "unsigned".toList) = Text.words "unsigned".toList := by
        decide
      rw [String.toList_append, String.toList_append, String.toList_append, List.append_assoc,
        show " ".toList = [' '] from rfl, List.singleton_append, hmodifier, hcut, hcut, hspaces]
    obtain ⟨read, hread, hreadInfo⟩ := declared?_parameterized (c := c.reversed) " unsigned"
      (TypeName.isNormal_of_eq (hregular.normal info hinfo)) hplain
      (hparameters parameters hdeclared) (TypeName.isNormal_of_eq (by decide +kernel)) hnone hbase
    exact ⟨read, hread, by rw [hreadInfo, hcanonical]⟩

/-- **What a type becomes is read as what it was meant to be**, if the whole is no entry. -/
theorem GoesTo.reads (hregular : c.target.IsRegular)
    (hd : c.declared? (TypeName.normalize s) = some d) (h : c.GoesTo given normal d info b)
    (hnone : c.target.typeInfo? b.converted = none) :
    ∃ read, c.reversed.declared? (TypeName.normalize b.converted) = some read ∧
      read.info.canonical = b.targetCanonical := by
  have hparameters (p : String) (hp : d.parameters = some p) : TypeName.IsParameters p.toList :=
    isParameters_of_declared? hd hp
  cases h with
  | modified h => exact reads_modified hregular hparameters h hnone
  | carried _ h =>
    obtain ⟨read, hread, hreadInfo⟩ := (spells_spelling hparameters).reads (c := c.reversed)
      hregular (targetFor?_mem h) hnone
    exact ⟨read, hread, by rw [hreadInfo]; rfl⟩

/-- **Reading back.** What a type that is no array becomes is always read as an entry of the target
again. The entry has the canonical type that the conversion tells exactly if no entry of another
canonical type is spelled like it. -/
theorem resolve_reads_back (hregular : c.target.IsRegular)
    (hnative : c.replacement? (TypeName.normalize s) = none)
    (harray : arrayElement? (TypeName.normalize s).toList = none) (h : c.resolve s = .ok b) :
    ∃ read, c.reversed.declared? (TypeName.normalize b.converted) = some read ∧
      (read.info.canonical = b.targetCanonical ↔
        ∀ other, c.target.typeInfo? b.converted = some other →
          other.canonical = b.targetCanonical) := by
  obtain ⟨d, info, hd, hgoes⟩ := goesTo_of_resolve hnative harray h
  cases hwhole : c.target.typeInfo? b.converted with
  -- the whole is an entry, and this is what it is read as
  | some other =>
    refine ⟨⟨other, none⟩, declared?_of_typeInfo? hwhole, fun hcanonical found hfound => ?_,
      fun hall => hall other rfl⟩
    obtain rfl := Option.some.inj hfound
    exact hcanonical
  -- the whole is no entry, so its parameters are taken off
  | none =>
    obtain ⟨read, hread, hcanonical⟩ := hgoes.reads hregular hd hwhole
    exact ⟨read, hread, fun _ _ => by rintro ⟨⟩, fun _ => hcanonical⟩

/-- Twelve digits with two of them behind the point are a number in Oracle, too. -/
theorem twelve_digits_read_back :
    ∃ b read, (between Databases.sqlite Databases.oracle).resolve "NUMERIC (12, 2)" = .ok b ∧
      b.converted = "number(12,2)" ∧
      (between Databases.sqlite Databases.oracle).reversed.declared?
        (TypeName.normalize b.converted) = some read ∧
      read.info.canonical = b.targetCanonical := by
  have hregular : (between Databases.sqlite Databases.oracle).target.IsRegular :=
    TypeProfile.isRegular_of_builtin Databases.oracle
      (by simp [Databases.all, Databases.relationalDatabases])
  have harray : arrayElement? (TypeName.normalize "NUMERIC (12, 2)").toList = none := by
    decide +kernel
  have htest : ((between Databases.sqlite Databases.oracle).resolve
      "NUMERIC (12, 2)").toOption.any (fun b => decide (b.converted = "number(12,2)" ∧
        (between Databases.sqlite Databases.oracle).target.typeInfo? b.converted = none)) =
      true := by decide +kernel
  obtain ⟨b, h, hfacts⟩ := exists_ok htest
  obtain ⟨hconverted, hnone⟩ := of_decide_eq_true hfacts
  obtain ⟨read, hread, hiff⟩ :=
    resolve_reads_back hregular (replacement?_eq_none rfl _) harray h
  refine ⟨b, read, h, hconverted, hread, hiff.2 fun other hother => ?_⟩
  rw [hnone] at hother
  cases hother

/-- Ten digits become ten digits in Oracle, too, but this is the name of an entry for integers. -/
theorem ten_digits_read_differently :
    ∃ b read, (between Databases.sqlite Databases.oracle).resolve "numeric(10)" = .ok b ∧
      b.converted = "number(10)" ∧ b.targetCanonical = .numeric ∧ b.lossy = false ∧
      (between Databases.sqlite Databases.oracle).reversed.declared?
        (TypeName.normalize b.converted) = some read ∧
      read.info.canonical = .int32 := by
  have htest : ((between Databases.sqlite Databases.oracle).resolve "numeric(10)").toOption.any
      (fun b => ((between Databases.sqlite Databases.oracle).reversed.declared?
        (TypeName.normalize b.converted)).any fun read =>
          decide (b.converted = "number(10)" ∧ b.targetCanonical = .numeric ∧ b.lossy = false ∧
            read.info.canonical = .int32)) = true := by decide +kernel
  obtain ⟨b, h, hread⟩ := exists_ok htest
  obtain ⟨read, hread, hfacts⟩ := (Option.any_eq_true _ _).1 hread
  obtain ⟨hconverted, htarget, hlossy, hcanonical⟩ := of_decide_eq_true hfacts
  exact ⟨b, read, h, hconverted, htarget, hlossy, hread, hcanonical⟩

end TypeConverter

end SchemaConversion
