import SchemaConversion.Proofs.TypeConversion.Bounds
import SchemaConversion.Proofs.TypeConversion.ReadingBack

/-!
# What is put behind the name of a converted type

The name of the target's entry may be followed by parameters: by those that the spelling declares
or, where it declares none, by the entry's defaults.

Without declared parameters an entry that takes a length has its default length put behind it,
unless there is a length that is natural for the source's type. This is how many characters hold a
value as a text, but it is put behind the name whether the entry is one of texts or not:

> `resolve_attaches_default_iff`: exactly when the default length is attached.

> `timestamp_given_text_length`: points in time get the nine digits of a text that is cut off, and
> not the three that are the default.

Declared parameters are put behind every entry that takes any, and behind every name that is
modified. What they look like does not matter:

> `resolve_parameters_fit_iff`: exactly when they are parameters that the entry takes.

> `enum_values_as_length`: the values of an enumeration become the length of a text.

What an entry of the source takes does no harm among the databases that come with the library:

> `takes_of_builtin`: there the entry of the target takes it as well.
-/

namespace SchemaConversion

namespace TypeName

variable {n p s : Nat}

theorem numeral?_toString (n : Nat) : numeral? (toString n).toList = some n := by
  have hne : (toString n).toList ≠ [] := by
    rw [Nat.toString_eq_ofList_toDigits, String.toList_ofList]
    exact Nat.toDigits_ne_nil
  have hdigits : (toString n).toList.all Char.isDigit = true :=
    List.all_eq_true.2 fun _ hc => isDigit_toString hc
  have hvalue : Nat.ofDigitChars 10 (toString n).toList 0 = n := by
    rw [Nat.toString_eq_ofList_toDigits, String.toList_ofList,
      Nat.ofDigitChars_toDigits (by decide) (by decide)]
  unfold numeral?
  rw [if_pos ⟨hne, hdigits⟩, hvalue]

/-- How many numbers there are between the commas of parameters that hold nothing else. -/
def count? (parameters : String) : Option Nat := (numerals? parameters).map List.length

theorem pieces_toString (n : Nat) :
    Text.pieces (· = ',') (toString n).toList = [(toString n).toList] := by
  refine Text.pieces_eq_singleton fun c hc => decide_eq_false ?_
  rintro rfl
  exact absurd (isDigit_toString hc) (by decide)

theorem count?_toString (n : Nat) : count? (toString n) = some 1 := by
  unfold count? numerals?
  rw [pieces_toString, List.mapM_cons, numeral?_toString]
  rfl

theorem count?_precisionText (p s : Nat) :
    count? (TypeConverter.precisionText p s) = some 2 := by
  unfold count? numerals?
  rw [TypeConverter.toList_precisionText, Text.pieces_append (by decide), pieces_toString,
    pieces_toString, List.singleton_append, List.mapM_cons, List.mapM_cons, numeral?_toString,
    numeral?_toString]
  rfl

end TypeName

namespace TypeInfo

/-- The entry takes these parameters: a single number if it takes any, two if it has a precision
and a scale. -/
def Takes (info : TypeInfo) (parameters : String) : Prop :=
  TypeName.count? parameters = some 1 ∧ info.acceptsParameters = true ∨
    TypeName.count? parameters = some 2 ∧ info.acceptsPrecision = true

instance (info : TypeInfo) (parameters : String) : Decidable (info.Takes parameters) :=
  inferInstanceAs (Decidable (_ ∨ _))

theorem Takes.acceptsParameters {info : TypeInfo} {parameters : String}
    (h : info.Takes parameters) : info.acceptsParameters = true := by
  rcases h with ⟨-, haccepts⟩ | ⟨-, hprecision⟩
  · exact haccepts
  · exact acceptsParameters_of_precision hprecision

/-- The name of an entry with its default length, if it has one, and else the bare name. -/
def withDefaultLength (info : TypeInfo) : String :=
  match info.attachedLength? with
  | some n => TypeConverter.parameterized info.name (toString n)
  | none => info.name

end TypeInfo

/-- The spelling has these parameters behind the name of the entry, with a modifier behind them or
without one. -/
def TypeConversion.Carries (b : TypeConversion) (info : TypeInfo) (parameters : String) : Prop :=
  b.converted = TypeConverter.parameterized info.name parameters ∨
    b.converted = TypeConverter.parameterized info.name parameters ++ " unsigned"

namespace TypeConverter

variable {c : TypeConverter} {s given normal parameters : String} {info : TypeInfo} {d : Declared}
  {b : TypeConversion} {t : CanonicalType} {parts : TypeName.Parts}

/-! ## Default lengths -/

/-- Only unsigned integers are modified, and for these no length is natural. -/
theorem modifiable?_of_naturalLength? {n : Nat} (h : t.naturalLength? = some n) :
    c.modifiable? t = none := by
  cases hmodified : c.modifiable? t with
  | none => rfl
  | some info =>
    -- what is modified has a signed form, and no type of the kinds that have one has a length
    obtain ⟨signed, hsigned, -, -⟩ := modifiable?_eq_some hmodified
    cases signed <;> cases hsigned <;> cases h

/-- A modified name is not one with a length. -/
theorem unsigned_ne_withDefaultLength (info : TypeInfo) :
    info.name ++ " unsigned" ≠ info.withDefaultLength := by
  unfold TypeInfo.withDefaultLength
  split
  · exact parameterized_ne_unsigned _ _
  · rw [Ne, ← String.toList_inj]
    simp

/-- The natural length of the source's type comes before the default one. -/
theorem withDefaults_of_naturalLength? {n : Nat} (hlength : info.acceptsLength = true)
    (h : t.naturalLength? = some n) :
    withDefaults info t = parameterized info.name (toString (cappedBy info.maxLength n)) := by
  unfold withDefaults
  rw [if_pos hlength, h]
  rfl

theorem withDefaults_of_none (hlength : info.acceptsLength = true)
    (h : t.naturalLength? = none) : withDefaults info t = info.withDefaultLength := by
  rw [withDefaults_eq h]
  unfold TypeInfo.withDefaultLength TypeInfo.attachedPrecision?
  rw [if_pos hlength]
  cases info.attachedLength? <;> rfl

/-- The default length is attached exactly if there is no natural one or both are the same. -/
theorem withDefaults_eq_withDefaultLength_iff (hlength : info.acceptsLength = true) :
    withDefaults info t = info.withDefaultLength ↔
      ∀ n, t.naturalLength? = some n →
        info.attachedLength? = some (cappedBy info.maxLength n) := by
  cases hnatural : t.naturalLength? with
  | none => simp [withDefaults_of_none hlength hnatural]
  | some n =>
    rw [withDefaults_of_naturalLength? hlength hnatural]
    unfold TypeInfo.withDefaultLength
    cases hdefault : info.attachedLength? with
    | none => simpa using parameterized_ne info.name _
    | some m =>
      dsimp only
      rw [parameterized_inj, toString_inj]
      simp [eq_comm]

/-- **When the default length is attached.** A type without declared parameters that becomes an
entry with a length, of texts or of anything else, gets the default length of this entry, or none if
it has none, exactly if it is not modified and has no natural length but one that amounts to the
same. Otherwise the natural length is attached. -/
theorem resolve_attaches_default_iff (hnative : c.replacement? (TypeName.normalize s) = none)
    (harray : arrayElement? (TypeName.normalize s).toList = none)
    (hd : c.declared? (TypeName.normalize s) = some d) (hparameters : d.parameters = none)
    (h : c.resolve s = .ok b) :
    ∃ info, c.GoesTo s (TypeName.normalize s) d info b ∧
      (info.acceptsLength = true →
        (b.converted = info.withDefaultLength ↔
          c.modifiable? d.info.canonical = none ∧
            ∀ n, d.info.canonical.naturalLength? = some n →
              info.attachedLength? = some (cappedBy info.maxLength n)) ∧
        ∀ n, d.info.canonical.naturalLength? = some n →
          b.converted = parameterized info.name (toString (cappedBy info.maxLength n))) := by
  obtain ⟨declared, info, hdeclared, hgoes⟩ := goesTo_of_resolve hnative harray h
  obtain rfl := Option.some.inj (hd.symm.trans hdeclared)
  refine ⟨info, hgoes, fun hlength => ?_⟩
  cases hgoes with
  | modified hmodified =>
    -- with a modifier there is no room for a length, and unsigned integers have no natural one
    rw [modified_converted_of_none hparameters]
    constructor
    · refine ⟨fun heq => absurd heq (unsigned_ne_withDefaultLength info), fun ⟨hno, _⟩ => ?_⟩
      rw [hno] at hmodified
      cases hmodified
    · intro n hn
      rw [modifiable?_of_naturalLength? hn] at hmodified
      cases hmodified
  | carried hno _ =>
    rw [carried_converted_of_none hparameters]
    refine ⟨?_, fun n hn => withDefaults_of_naturalLength? hlength hn⟩
    rw [withDefaults_eq_withDefaultLength_iff hlength]
    exact ⟨fun hnatural => ⟨hno, hnatural⟩, fun hnatural => hnatural.2⟩

/-- Bytes from Oracle, whose number is not declared, get the default length of MySQL. -/
theorem bytes_take_default_length :
    ∃ (b : TypeConversion) (info : TypeInfo),
      (between Databases.oracle Databases.mysql).resolve "RAW" = .ok b ∧
      info.canonical.isTextual = false ∧ info.attachedLength? = some 255 ∧
      b.converted = info.withDefaultLength ∧ b.converted = "varbinary(255)" := by
  have htests :
      ((between Databases.oracle Databases.mysql).resolve "RAW").toOption.any
        (fun b => decide (b.converted = "varbinary(255)")) = true ∧
      ((between Databases.oracle Databases.mysql).carriedTo? (TypeName.normalize "RAW")).any
        (fun x => decide (x.1.parameters = none ∧ x.1.info.canonical.naturalLength? = none ∧
          x.2.acceptsLength = true ∧ x.2.canonical.isTextual = false ∧
          x.2.attachedLength? = some 255)) = true := by decide +kernel
  obtain ⟨b, h, hconverted⟩ := exists_ok htests.1
  obtain ⟨⟨d, target⟩, hcarried, hentries⟩ := (Option.any_eq_true _ _).1 htests.2
  obtain ⟨hparameters, hnatural, hlength, htextual, hdefault⟩ := of_decide_eq_true hentries
  obtain ⟨hd, hno, -⟩ := carriedTo?_eq_some hcarried
  obtain ⟨info, hgoes, hattached⟩ := resolve_attaches_default_iff (replacement?_eq_none rfl _)
    (by decide +kernel) hd hparameters h
  obtain ⟨-, rfl⟩ := Prod.mk.inj (hgoes.eq_of_carriedTo? hd hcarried)
  refine ⟨b, target, h, htextual, hdefault, (hattached hlength).1.2 ⟨hno, fun n hn => ?_⟩,
    of_decide_eq_true hconverted⟩
  rw [hnatural] at hn
  cases hn

/-- Points in time in ClickHouse have as many digits behind the second as their length says, three
by default. They are given nine, which is what is left of the thirty-five characters of a text. -/
theorem timestamp_given_text_length :
    ∃ b d info, (between Databases.postgresql Databases.clickhouse).resolve "timestamptz" =
        .ok b ∧
      b.converted = "datetime64(9)" ∧
      (between Databases.postgresql Databases.clickhouse).GoesTo "timestamptz"
        (TypeName.normalize "timestamptz") d info b ∧
      info.acceptsLength = true ∧ info.canonical.isTextual = false ∧
      info.withDefaultLength = "datetime64(3)" := by
  have htests :
      ((between Databases.postgresql Databases.clickhouse).resolve "timestamptz").toOption.any
        (fun b => decide (b.converted = "datetime64(9)")) = true ∧
      ((between Databases.postgresql Databases.clickhouse).carriedTo?
        (TypeName.normalize "timestamptz")).any (fun x =>
          decide (x.2.acceptsLength = true ∧ x.2.canonical.isTextual = false ∧
            x.2.withDefaultLength = "datetime64(3)")) = true := by decide +kernel
  obtain ⟨b, h, hconverted⟩ := exists_ok htests.1
  obtain ⟨d, info, hd, hgoes⟩ :=
    goesTo_of_resolve (replacement?_eq_none rfl _) (by decide +kernel) h
  obtain ⟨carried, hcarried, hentries⟩ := (Option.any_eq_true _ _).1 htests.2
  obtain rfl := hgoes.eq_of_carriedTo? hd hcarried
  obtain ⟨hlength, htextual, hdefault⟩ := of_decide_eq_true hentries
  exact ⟨b, d, info, h, of_decide_eq_true hconverted, hgoes, hlength, htextual, hdefault⟩

/-! ## Declared parameters -/

/-- Defaults are parameters that the entry takes. -/
theorem takes_of_withDefaults (h : withDefaults info t = parameterized info.name parameters) :
    info.Takes parameters := by
  rcases withDefaults_cases info t with heq | ⟨hlength, n, heq⟩ | ⟨hprecision, p, s, heq⟩
  · -- the bare name has no parameters
    exact absurd (heq.symm.trans h) (parameterized_ne _ _).symm
  · obtain rfl := parameterized_inj.1 (heq.symm.trans h)
    exact .inl ⟨TypeName.count?_toString n, TypeInfo.acceptsParameters_of_length hlength⟩
  · obtain rfl := parameterized_inj.1 (heq.symm.trans h)
    exact .inr ⟨TypeName.count?_precisionText p s, hprecision⟩

theorem ne_parameterized_unsigned (name p : String) :
    name ≠ parameterized name p ++ " unsigned" := by
  unfold parameterized
  rw [Ne, ← String.toList_inj]
  simp

theorem parameterized_ne_parameterized_unsigned (name p q : String) :
    parameterized name q ≠ parameterized name p ++ " unsigned" := by
  intro h
  have hlists : (name ++ "(" ++ q).toList ++ [')'] =
      (name ++ "(" ++ p ++ ") unsigne").toList ++ ['d'] := by
    have hlist := congrArg String.toList h
    simpa [parameterized] using hlist
  -- the one ends in a parenthesis, the other in a letter
  exact absurd (List.append_inj' hlists rfl).2 (by decide)

/-- Where nothing is declared, only defaults are carried. -/
theorem GoesTo.takes_of_none (h : c.GoesTo given normal d info b)
    (hparameters : d.parameters = none) (hcarries : b.Carries info parameters) :
    info.Takes parameters := by
  unfold TypeConversion.Carries at hcarries
  cases h with
  | modified _ =>
    rw [modified_converted_of_none hparameters] at hcarries
    rcases hcarries with heq | heq
    · exact absurd heq (parameterized_ne_unsigned _ _)
    · rw [String.append_left_inj] at heq
      exact absurd heq.symm (parameterized_ne _ _)
  | carried _ _ =>
    rw [carried_converted_of_none hparameters] at hcarries
    rcases hcarries with heq | heq
    · exact takes_of_withDefaults heq
    · -- no default ends in a modifier
      have hspells := spells_withDefaults info d.info.canonical
      rw [heq] at hspells
      generalize hs : parameterized info.name parameters ++ " unsigned" = s at hspells
      cases hspells with
      | name => exact absurd hs.symm (ne_parameterized_unsigned _ _)
      | parameterized _ _ => exact absurd hs.symm (parameterized_ne_parameterized_unsigned _ _ _)

/-- **Declared parameters are carried over** to every entry that takes any, and with every
modifier. -/
theorem GoesTo.carries_iff (h : c.GoesTo given normal d info b)
    (hparameters : d.parameters = some parameters) :
    b.Carries info parameters ↔
      (c.modifiable? d.info.canonical).isSome = true ∨ info.acceptsParameters = true := by
  unfold TypeConversion.Carries
  cases h with
  | modified hmodified =>
    simp [modified_converted_of_some hparameters, hmodified]
  | carried hno _ =>
    rw [carried_converted_of_some hparameters, hno]
    by_cases haccepts : info.acceptsParameters = true
    · simp [haccepts]
    · simp [haccepts, (parameterized_ne info.name parameters).symm, ne_parameterized_unsigned]

/-- **When parameters fit.** The parameters in a spelling may be those of its entry's name or none
at all, and then only defaults are carried. Else they are carried over to every entry that takes any
and with every modifier. So what is carried is something that the entry takes exactly if an entry
that is modified takes any, and an entry that takes any is given one number, or two where it has a
precision and a scale. -/
theorem resolve_parameters_fit_iff (hnative : c.replacement? (TypeName.normalize s) = none)
    (harray : arrayElement? (TypeName.normalize s).toList = none)
    (hparts : TypeName.splitParameters (TypeName.normalize s) = some parts)
    (h : c.resolve s = .ok b) :
    ∃ d info, c.declared? (TypeName.normalize s) = some d ∧
      c.GoesTo s (TypeName.normalize s) d info b ∧
      (d.parameters.isSome = true → (b.Carries info parts.parameters ↔
        (c.modifiable? d.info.canonical).isSome = true ∨ info.acceptsParameters = true)) ∧
      ((b.Carries info parts.parameters → info.Takes parts.parameters) ↔
        (d.parameters.isSome = true →
          ((c.modifiable? d.info.canonical).isSome = true → info.acceptsParameters = true) ∧
          (info.acceptsParameters = true →
            TypeName.count? parts.parameters = some 1 ∨
              TypeName.count? parts.parameters = some 2 ∧ info.acceptsPrecision = true))) := by
  obtain ⟨d, info, hd, hgoes⟩ := goesTo_of_resolve hnative harray h
  refine ⟨d, info, hd, hgoes, fun hsome => hgoes.carries_iff (declared?_parameters hd hparts hsome),
    ?_⟩
  cases hsome : d.parameters with
  | none =>
    -- the parameters belong to the name of the source's entry
    refine ⟨fun _ hno => ?_, fun _ => hgoes.takes_of_none hsome⟩
    cases hno
  | some parameters =>
    have hdeclared := declared?_parameters hd hparts (by rw [hsome]; rfl)
    rw [hgoes.carries_iff hdeclared]
    -- to fit means to be taken, which one number or two can be
    constructor
    · intro hfits _
      refine ⟨fun hmodified => (hfits (.inl hmodified)).acceptsParameters, fun haccepts => ?_⟩
      rcases hfits (.inr haccepts) with ⟨hone, -⟩ | htwo
      · exact .inl hone
      · exact .inr htwo
    · intro hshape hcarried
      obtain ⟨hmodified, hnumbers⟩ := hshape rfl
      have haccepts : info.acceptsParameters = true := hcarried.elim hmodified id
      rcases hnumbers haccepts with hone | htwo
      · exact .inl ⟨hone, haccepts⟩
      · exact .inr htwo

/-- Twelve digits with two of them behind the point are parameters that MySQL takes, too. -/
theorem amounts_keep_digits :
    ∃ b info, (between Databases.sqlite Databases.mysql).resolve "NUMERIC (12, 2)" = .ok b ∧
      b.converted = "decimal(12,2)" ∧ b.Carries info "12,2" ∧ info.Takes "12,2" := by
  have hparts : TypeName.splitParameters (TypeName.normalize "NUMERIC (12, 2)") =
      some ⟨"numeric", "12,2"⟩ := by decide +kernel
  have htests :
      ((between Databases.sqlite Databases.mysql).resolve "NUMERIC (12, 2)").toOption.any
        (fun b => decide (b.converted = "decimal(12,2)")) = true ∧
      ((between Databases.sqlite Databases.mysql).carriedTo?
        (TypeName.normalize "NUMERIC (12, 2)")).any (fun x =>
          decide (x.1.parameters.isSome = true ∧ x.2.acceptsPrecision = true)) = true := by
    decide +kernel
  obtain ⟨b, h, hconverted⟩ := exists_ok htests.1
  obtain ⟨carried, hcarried, hentries⟩ := (Option.any_eq_true _ _).1 htests.2
  obtain ⟨hsome, hprecision⟩ := of_decide_eq_true hentries
  obtain ⟨d, info, hd, hgoes, hcarries, hfits⟩ :=
    resolve_parameters_fit_iff (replacement?_eq_none rfl _) (by decide +kernel) hparts h
  obtain rfl := hgoes.eq_of_carriedTo? hd hcarried
  have hno := (carriedTo?_eq_some hcarried).2.1
  have hkept : b.Carries info "12,2" :=
    (hcarries hsome).2 (.inr (TypeInfo.acceptsParameters_of_precision hprecision))
  refine ⟨b, info, h, of_decide_eq_true hconverted, hkept, hfits.2 (fun _ => ⟨fun hmodified => ?_,
    fun _ => .inr ⟨by decide +kernel, hprecision⟩⟩) hkept⟩
  rw [hno] at hmodified
  cases hmodified

/-- The values of an enumeration are put behind the name of a text, which takes a length. -/
theorem enum_values_as_length :
    ∃ b d info, (between Databases.mysql Databases.sqlserver).resolve "enum('a','b')" = .ok b ∧
      b.converted = "nvarchar('a','b')" ∧
      (between Databases.mysql Databases.sqlserver).GoesTo "enum('a','b')"
        (TypeName.normalize "enum('a','b')") d info b ∧
      info.acceptsLength = true ∧ info.acceptsPrecision = false ∧
      b.Carries info "'a','b'" ∧ ¬info.Takes "'a','b'" := by
  have htests :
      ((between Databases.mysql Databases.sqlserver).resolve "enum('a','b')").toOption.any
        (fun b => decide (b.converted = "nvarchar('a','b')")) = true ∧
      ((between Databases.mysql Databases.sqlserver).carriedTo?
        (TypeName.normalize "enum('a','b')")).any (fun x =>
          decide (x.2.name = "nvarchar" ∧ x.2.acceptsLength = true ∧
            x.2.acceptsPrecision = false ∧ ¬x.2.Takes "'a','b'")) = true := by decide +kernel
  obtain ⟨b, h, hspelled⟩ := exists_ok htests.1
  obtain ⟨carried, hcarried, hentries⟩ := (Option.any_eq_true _ _).1 htests.2
  obtain ⟨d, info, hd, hgoes⟩ :=
    goesTo_of_resolve (replacement?_eq_none rfl _) (by decide +kernel) h
  obtain rfl := hgoes.eq_of_carriedTo? hd hcarried
  obtain ⟨hname, hlength, hprecision, hnot⟩ := of_decide_eq_true hentries
  have hconverted : b.converted = "nvarchar('a','b')" := of_decide_eq_true hspelled
  refine ⟨b, d, info, h, hconverted, hgoes, hlength, hprecision, .inl ?_, hnot⟩
  rw [hconverted, hname]
  decide +kernel

/-! ## Parameters among the databases of the library -/

/-- What the databases of the library have in common: their entries with parameters are none that a
modifier changes or makes, those with a precision and a scale are exact numbers, and what exact
numbers become has a precision and a scale if it takes parameters at all. -/
theorem parameters_of_builtin : ∀ d ∈ Databases.all,
    (∀ info ∈ d.types.types.values, info.acceptsParameters = true →
      info.supportsUnsigned = false ∧ signedForm? info.canonical = none ∧
        (info.acceptsPrecision = true → info.canonical ∈ [CanonicalType.decimal, .numeric])) ∧
    ∀ t ∈ [CanonicalType.decimal, .numeric], ∀ found ∈ (between d d).targetFor? t,
      found.1.acceptsParameters = true → found.1.acceptsPrecision = true := by decide +kernel

/-- **Parameters among the databases of the library.** What the source's entry takes is, where it
is carried over, taken by the target's entry, too. -/
theorem takes_of_builtin {source target : DatabaseDefinition} (hsource : source ∈ Databases.all)
    (htarget : target ∈ Databases.all) (hd : (between source target).declared? normal = some d)
    (h : (between source target).GoesTo given normal d info b)
    (hparameters : d.parameters = some parameters) (htakes : d.info.Takes parameters)
    (hcarries : b.Carries info parameters) : info.Takes parameters := by
  have haccepts := htakes.acceptsParameters
  obtain ⟨name, hname⟩ := declared?_typeInfo? hd
  have hentry : d.info ∈ source.types.types.values := by
    rcases TypeProfile.typeInfo?_mem hname with hmem | ⟨entry, hmem, hunsigned, hinfo⟩
    · exact hmem
    · -- what a modifier changes takes no parameters
      have hsame : entry.acceptsParameters = d.info.acceptsParameters := by
        rw [hinfo, TypeProfile.asUnsigned, if_pos hunsigned]
        rfl
      have hno := ((parameters_of_builtin source hsource).1 entry hmem (hsame.trans haccepts)).1
      rw [hno] at hunsigned
      cases hunsigned
  obtain ⟨-, hsigned, hexact⟩ := (parameters_of_builtin source hsource).1 d.info hentry haccepts
  -- so it becomes nothing that is modified, and keeps two numbers only as an exact number
  have hno : (between source target).modifiable? d.info.canonical = none := by
    unfold modifiable?
    rw [hsigned]
    split <;> rfl
  have hinfo : info.acceptsParameters = true := by
    simpa [hno] using (h.carries_iff hparameters).1 hcarries
  rcases htakes with ⟨hone, -⟩ | ⟨htwo, hprecision⟩
  · exact .inl ⟨hone, hinfo⟩
  · cases h with
    | modified hmodified =>
      rw [hno] at hmodified
      cases hmodified
    | carried _ hfound =>
      exact .inr ⟨htwo,
        (parameters_of_builtin target htarget).2 d.info.canonical (hexact hprecision) _ hfound
          hinfo⟩

end TypeConverter

end SchemaConversion
