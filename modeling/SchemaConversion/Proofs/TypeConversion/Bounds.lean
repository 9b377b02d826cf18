import SchemaConversion.Proofs.TypeConversion.Recognition

/-!
# What fits into a converted type

A conversion that is not lossy is one that no bound of the target has been found to cut off. What is
looked at is the first of the declared parameters or, where none are declared, how much the two
entries take at most.

> `resolve_fits_iff`: the first number fits if it is compared with the bound of the target, and
> everything else only if it happens to.

A number is compared if it belongs to parameters that are taken off the name, stands for a length
below `2 ^ 64`, and the type is not written with a modifier. The second one, which is the number of
digits behind the point, never is:

> `forty_digits_lost`: forty digits behind the point become forty in a type that has thirty.

Where none are declared, the target's defaults are put behind its name, and these are not looked at
at all.

> `resolve_keeps_room_iff`: what the defaults leave room for, told from the two entries.

> `unsigned_digits_lost`: integers of up to twenty digits go into eighteen.
-/

namespace SchemaConversion

namespace TypeInfo

/-- Declared numbers are within the bounds of an entry. -/
structure Fits (info : TypeInfo) (first : Nat) (second : Option Nat) : Prop where
  bound : ∀ bound, info.bound? = some bound → first ≤ bound
  scale : ∀ n scale, second = some n → info.maxScale = some scale → n ≤ scale

/-- The length of what an entry holds if none is declared; none if unbounded. -/
def capacity? (info : TypeInfo) : Option Nat := info.defaultLength.or info.maxLength

/-- The length that is put behind the name if the source declares none. -/
def attachedLength? (info : TypeInfo) : Option Nat :=
  if info.acceptsLength then info.defaultLength.map (TypeConverter.cappedBy info.maxLength)
  else none

/-- The precision and scale that are put behind the name if the source declares none. -/
def attachedPrecision? (info : TypeInfo) : Option (Nat × Nat) :=
  if info.acceptsLength then none
  else if info.acceptsPrecision then info.defaultPrecision
  else none

end TypeInfo

namespace CanonicalType

/-- The least and the greatest value of an integer type. -/
def integerRange? : CanonicalType → Option (Int × Int)
  | .int8 => some (-2 ^ 7, 2 ^ 7 - 1)
  | .int16 => some (-2 ^ 15, 2 ^ 15 - 1)
  | .int32 => some (-2 ^ 31, 2 ^ 31 - 1)
  | .int64 => some (-2 ^ 63, 2 ^ 63 - 1)
  | .uint8 => some (0, 2 ^ 8 - 1)
  | .uint16 => some (0, 2 ^ 16 - 1)
  | .uint32 => some (0, 2 ^ 32 - 1)
  | .uint64 => some (0, 2 ^ 64 - 1)
  | _ => none

/-- An integer type has this value. -/
def HasValue (t : CanonicalType) (v : Int) : Prop :=
  ∃ low high, t.integerRange? = some (low, high) ∧ low ≤ v ∧ v ≤ high

/-- The types with a range are those that count as integers. -/
theorem integerRange?_isSome (t : CanonicalType) : t.integerRange?.isSome = t.isInteger := by
  cases t <;> rfl

/-- No range is empty. -/
theorem integerRange?_le {t : CanonicalType} {low high : Int}
    (h : t.integerRange? = some (low, high)) : low ≤ high := by
  cases t <;> simp only [integerRange?, reduceCtorEq, Option.some.injEq, Prod.mk.injEq] at h <;>
    obtain ⟨rfl, rfl⟩ := h <;> decide

/-- All values are small if the least and the greatest are. -/
theorem values_lt_iff {t : CanonicalType} {k : Nat} :
    (∀ v, t.HasValue v → v.natAbs < k) ↔
      ∀ low high, t.integerRange? = some (low, high) → low.natAbs < k ∧ high.natAbs < k := by
  constructor
  · intro h low high hrange
    have hle := integerRange?_le hrange
    exact ⟨h low ⟨low, high, hrange, Int.le_refl low, hle⟩,
      h high ⟨low, high, hrange, hle, Int.le_refl high⟩⟩
  -- any value lies between the two ends
  · rintro h v ⟨low, high, hrange, hlow, hhigh⟩
    have hends := h low high hrange
    omega

end CanonicalType

namespace TypeConverter

variable {c : TypeConverter} {s given normal : String} {info : TypeInfo} {d : Declared}
  {b : TypeConversion} {parts : TypeName.Parts} {first : Nat} {second : Option Nat}

/-! ## Declared parameters -/

/-- The first declared number is compared with the bound of the target. -/
def Compares (c : TypeConverter) (d : Declared) (first : Nat) : Prop :=
  c.modifiable? d.info.canonical = none ∧ d.parameters.isSome = true ∧ first < 2 ^ 64

/-- Declared parameters are those of the spelling. -/
theorem declared?_parameters (h : c.declared? normal = some d)
    (hparts : TypeName.splitParameters normal = some parts) (hsome : d.parameters.isSome = true) :
    d.parameters = some parts.parameters := by
  rcases declared?_cases h with hnone | ⟨others, hothers, hparameters⟩
  · rw [hnone] at hsome
    cases hsome
  · rw [hparts] at hothers
    obtain rfl := Option.some.inj hothers
    exact hparameters

/-- What is not lossy has not been found to be cut off. -/
theorem GoesTo.boundWarning?_eq_none (h : c.GoesTo given normal d info b)
    (hno : c.modifiable? d.info.canonical = none) (hlossless : b.lossy = false) :
    c.boundWarning? d info = none := by
  cases h with
  | modified h =>
    rw [hno] at h
    cases h
  | carried _ _ =>
    have hbound := (Bool.or_eq_false_iff.1 hlossless).2
    exact Option.isNone_iff_eq_none.1 (Option.isSome_eq_false_iff.1 hbound)

/-- **What is compared fits.** -/
theorem first_le_of_boundWarning? {size bound : Nat} (h : c.boundWarning? d info = none)
    (hsize : d.parameters.bind TypeName.declaredBound? = some size)
    (hbound : info.bound? = some bound) : size ≤ bound := by
  unfold boundWarning? at h
  rw [hsize, hbound] at h
  dsimp only at h
  split at h
  · cases h
  · next hle => exact Nat.le_of_not_lt hle

/-- Where nothing declared is compared, the entries are. -/
theorem bound_le_of_boundWarning? {bound sourceBound : Nat} (h : c.boundWarning? d info = none)
    (hsize : d.parameters.bind TypeName.declaredBound? = none) (hbound : info.bound? = some bound)
    (hsource : d.info.bound? = some sourceBound) : sourceBound ≤ bound := by
  unfold boundWarning? at h
  rw [hsize, hbound, hsource] at h
  dsimp only at h
  split at h
  · cases h
  · next hle => exact Nat.le_of_not_lt hle

/-- What is compared is the first number, or nothing that is declared. -/
theorem declaredBound?_eq (hd : c.declared? normal = some d)
    (hparts : TypeName.splitParameters normal = some parts)
    (hnumerals : TypeName.numerals? parts.parameters = some (first :: second.toList)) :
    d.parameters.bind TypeName.declaredBound? =
      if d.parameters.isSome = true ∧ first < 2 ^ 64 then some first else none := by
  cases hparameters : d.parameters with
  | none => rfl
  | some parameters =>
    have hdeclared := declared?_parameters hd hparts (by rw [hparameters]; rfl)
    obtain rfl := Option.some.inj (hparameters.symm.trans hdeclared)
    rw [Option.bind_some, TypeName.declaredBound?_of_numerals? hnumerals, Option.isSome_some]
    simp only [true_and]

/-- **When declared parameters fit.** If nothing is told to be lost, then where the first of them is
not compared with the bound of the target, this is at least as large as the bound of the source,
unless the type is modified. And the parameters fit exactly if the first one does in this case and
the second one, which is never compared, does in any. -/
theorem resolve_fits_iff (hnative : c.replacement? (TypeName.normalize s) = none)
    (harray : arrayElement? (TypeName.normalize s).toList = none)
    (hparts : TypeName.splitParameters (TypeName.normalize s) = some parts)
    (hnumerals : TypeName.numerals? parts.parameters = some (first :: second.toList))
    (h : c.resolve s = .ok b) (hlossless : b.lossy = false) :
    ∃ d info, c.declared? (TypeName.normalize s) = some d ∧
      c.GoesTo s (TypeName.normalize s) d info b ∧
      (¬c.Compares d first → c.modifiable? d.info.canonical = none →
        ∀ bound sourceBound, info.bound? = some bound → d.info.bound? = some sourceBound →
          sourceBound ≤ bound) ∧
      (info.Fits first second ↔
        (¬c.Compares d first → ∀ bound, info.bound? = some bound → first ≤ bound) ∧
          ∀ n scale, second = some n → info.maxScale = some scale → n ≤ scale) := by
  obtain ⟨d, info, hd, hgoes⟩ := goesTo_of_resolve hnative harray h
  have hsize := declaredBound?_eq hd hparts hnumerals
  refine ⟨d, info, hd, hgoes, fun hnot hno bound sourceBound hbound hsource => ?_,
    fun hfits => ⟨fun _ => hfits.bound, hfits.scale⟩, ?_⟩
  · -- nothing declared has been compared, so the bounds of the entries have
    rw [if_neg fun hcompares => hnot ⟨hno, hcompares⟩] at hsize
    exact bound_le_of_boundWarning? (hgoes.boundWarning?_eq_none hno hlossless) hsize hbound hsource
  · rintro ⟨hothers, hscale⟩
    refine ⟨fun bound hbound => ?_, hscale⟩
    -- the first number has been compared with the bound, or it is one of the others
    by_cases hcompares : c.Compares d first
    · obtain ⟨hno, hcompared⟩ := hcompares
      rw [if_pos hcompared] at hsize
      exact first_le_of_boundWarning? (hgoes.boundWarning?_eq_none hno hlossless) hsize hbound
    · exact hothers hcompares bound hbound

/-- The source type of a normal form and the native type that it is carried to, if it is not
modified. -/
def carriedTo? (c : TypeConverter) (normal : String) : Option (Declared × TypeInfo) := do
  let d ← c.declared? normal
  let found ← c.targetFor? d.info.canonical
  if (c.modifiable? d.info.canonical).isSome then none else some (d, found.1)

/-- What is carried is declared, not modified, and goes to a native type that the search finds. -/
theorem carriedTo?_eq_some {x : Declared × TypeInfo} (h : c.carriedTo? normal = some x) :
    c.declared? normal = some x.1 ∧ c.modifiable? x.1.info.canonical = none ∧
      ∃ lossy, c.targetFor? x.1.info.canonical = some (x.2, lossy) := by
  obtain ⟨d, hd, h⟩ := Option.bind_eq_some_iff.1 h
  obtain ⟨⟨info, lossy⟩, hfound, h⟩ := Option.bind_eq_some_iff.1 h
  split at h
  · cases h
  · next hno =>
    rw [Bool.not_eq_true, Option.isSome_eq_false_iff, Option.isNone_iff_eq_none] at hno
    obtain rfl := Option.some.inj h
    exact ⟨hd, hno, lossy, hfound⟩

/-- A type that is carried goes nowhere else. -/
theorem GoesTo.eq_of_carriedTo? {x : Declared × TypeInfo} (h : c.GoesTo given normal d info b)
    (hd : c.declared? normal = some d) (hx : c.carriedTo? normal = some x) : x = (d, info) := by
  obtain ⟨hd', hno, lossy, htarget⟩ := carriedTo?_eq_some hx
  obtain rfl := Option.some.inj (hd'.symm.trans hd)
  cases h with
  | modified h =>
    rw [hno] at h
    cases h
  | carried _ h =>
    rw [htarget] at h
    rw [← (Prod.mk.inj (Option.some.inj h)).1]

/-- Thirty digits behind the point fit into MySQL, which has room for as many. -/
theorem thirty_digits_fit :
    ∃ b d info, (between Databases.sqlite Databases.mysql).resolve "NUMERIC (50, 30)" = .ok b ∧
      b.converted = "decimal(50,30)" ∧ b.lossy = false ∧
      (between Databases.sqlite Databases.mysql).GoesTo "NUMERIC (50, 30)"
        (TypeName.normalize "NUMERIC (50, 30)") d info b ∧
      info.bound? = some 65 ∧ info.maxScale = some 30 ∧ info.Fits 50 (some 30) := by
  have hparts : TypeName.splitParameters (TypeName.normalize "NUMERIC (50, 30)") =
      some ⟨"numeric", "50,30"⟩ := by decide +kernel
  have hnumerals : TypeName.numerals? "50,30" = some (50 :: (some 30).toList) := by decide +kernel
  have htests :
      ((between Databases.sqlite Databases.mysql).resolve "NUMERIC (50, 30)").toOption.any
        (fun b => decide (b.converted = "decimal(50,30)" ∧ b.lossy = false)) = true ∧
      ((between Databases.sqlite Databases.mysql).carriedTo?
        (TypeName.normalize "NUMERIC (50, 30)")).any (fun x =>
          decide (x.1.parameters.isSome = true ∧ x.2.bound? = some 65 ∧
            x.2.maxScale = some 30)) = true := by decide +kernel
  obtain ⟨b, h, hfacts⟩ := exists_ok htests.1
  obtain ⟨hconverted, hlossless⟩ := of_decide_eq_true hfacts
  obtain ⟨d, info, hd, hgoes, -, hiff⟩ := resolve_fits_iff (replacement?_eq_none rfl _)
    (by decide +kernel) hparts hnumerals h hlossless
  obtain ⟨carried, hcarried, hentries⟩ := (Option.any_eq_true _ _).1 htests.2
  have hno := (carriedTo?_eq_some hcarried).2.1
  obtain rfl := hgoes.eq_of_carriedTo? hd hcarried
  obtain ⟨hsome, hbound, hscale⟩ := of_decide_eq_true hentries
  refine ⟨b, d, info, h, hconverted, hlossless, hgoes, hbound, hscale, hiff.2 ⟨fun hnot => ?_, ?_⟩⟩
  · exact absurd ⟨hno, hsome, by decide⟩ hnot
  · rintro n scale ⟨⟩ hn
    rw [hscale] at hn
    obtain rfl := Option.some.inj hn
    exact Nat.le_refl 30

/-- Forty do not fit, and this is not told. -/
theorem forty_digits_lost :
    ∃ b d info, (between Databases.sqlite Databases.mysql).resolve "numeric(50,40)" = .ok b ∧
      b.converted = "decimal(50,40)" ∧ b.lossy = false ∧
      (between Databases.sqlite Databases.mysql).GoesTo "numeric(50,40)"
        (TypeName.normalize "numeric(50,40)") d info b ∧
      info.maxScale = some 30 ∧ ¬info.Fits 50 (some 40) := by
  have htests :
      ((between Databases.sqlite Databases.mysql).resolve "numeric(50,40)").toOption.any
        (fun b => decide (b.converted = "decimal(50,40)" ∧ b.lossy = false)) = true ∧
      ((between Databases.sqlite Databases.mysql).carriedTo?
        (TypeName.normalize "numeric(50,40)")).any (fun x => decide (x.2.maxScale = some 30)) =
          true := by decide +kernel
  obtain ⟨b, h, hfacts⟩ := exists_ok htests.1
  obtain ⟨hconverted, hlossless⟩ := of_decide_eq_true hfacts
  obtain ⟨d, info, hd, hgoes⟩ :=
    goesTo_of_resolve (replacement?_eq_none rfl _) (by decide +kernel) h
  obtain ⟨carried, hcarried, hentries⟩ := (Option.any_eq_true _ _).1 htests.2
  obtain rfl := hgoes.eq_of_carriedTo? hd hcarried
  have hscale := of_decide_eq_true hentries
  refine ⟨b, d, info, h, hconverted, hlossless, hgoes, hscale, fun hfits => ?_⟩
  exact absurd (hfits.scale 40 30 rfl hscale) (by decide)

/-! ## How a converted type is spelled -/

/-- A modified type without parameters is a name with the modifier. -/
theorem modified_converted_of_none (h : d.parameters = none) :
    (modified d given normal info).converted = info.name ++ " unsigned" := by
  unfold modified
  rw [h]

/-- Parameters stand between the name and the modifier. -/
theorem modified_converted_of_some {parameters : String} (h : d.parameters = some parameters) :
    (modified d given normal info).converted =
      parameterized info.name parameters ++ " unsigned" := by
  unfold modified
  rw [h]

/-- A carried type without parameters gets the defaults of the target. -/
theorem carried_converted_of_none {lossy : Bool} (h : d.parameters = none) :
    (c.carried d given normal info lossy).converted = withDefaults info d.info.canonical := by
  show spelling d info = _
  unfold spelling
  rw [h]

/-- Declared parameters are put behind the name if the target accepts any. -/
theorem carried_converted_of_some {lossy : Bool} {parameters : String}
    (h : d.parameters = some parameters) :
    (c.carried d given normal info lossy).converted =
      if info.acceptsParameters = true then parameterized info.name parameters
      else info.name := by
  show spelling d info = _
  unfold spelling
  rw [h]

/-! ## Attached defaults -/

/-- How a precision and a scale are spelled. -/
def precisionText (precision scale : Nat) : String :=
  toString precision ++ "," ++ toString scale

/-- The parameters of a name can be told from the whole. -/
theorem parameterized_inj {name p q : String} :
    parameterized name p = parameterized name q ↔ p = q := by
  unfold parameterized
  rw [← String.toList_inj, ← String.toList_inj]
  simp

theorem parameterized_ne (name p : String) : parameterized name p ≠ name := by
  unfold parameterized
  rw [Ne, ← String.toList_inj]
  simp

/-- A modifier is not taken for parameters, since these end in a parenthesis. -/
theorem parameterized_ne_unsigned (name p : String) :
    name ++ " unsigned" ≠ parameterized name p := by
  unfold parameterized
  rw [Ne, ← String.toList_inj]
  simp

theorem toString_inj {m n : Nat} : toString m = toString n ↔ m = n := by
  refine ⟨fun h => ?_, congrArg toString⟩
  rw [Nat.toString_eq_ofList_toDigits, Nat.toString_eq_ofList_toDigits, String.ofList_inj] at h
  rw [← Nat.ofDigitChars_toDigits (n := m) (by decide : 1 < 10) (by decide), h,
    Nat.ofDigitChars_toDigits (by decide) (by decide)]

theorem comma_notMem_toString (n : Nat) : ',' ∉ (toString n).toList := fun h =>
  absurd (TypeName.isDigit_toString h) (by decide)

theorem toList_precisionText (p s : Nat) :
    (precisionText p s).toList = (toString p).toList ++ ',' :: (toString s).toList := by
  unfold precisionText
  simp

/-- The comma tells the precision from the scale. -/
theorem precisionText_inj {p s q t : Nat} :
    precisionText p s = precisionText q t ↔ p = q ∧ s = t := by
  refine ⟨fun h => ?_, fun ⟨hp, hs⟩ => by rw [hp, hs]⟩
  have hsplit := TypeName.splitAt?_append (comma_notMem_toString p) (toString s).toList
  rw [← toList_precisionText, h, toList_precisionText,
    TypeName.splitAt?_append (comma_notMem_toString q)] at hsplit
  obtain ⟨hp, hs⟩ := Prod.mk.inj (Option.some.inj hsplit)
  exact ⟨(toString_inj.1 (String.toList_inj.1 hp)).symm,
    (toString_inj.1 (String.toList_inj.1 hs)).symm⟩

/-- A length has no comma, so it is no precision with a scale. -/
theorem toString_ne_precisionText (n p s : Nat) : toString n ≠ precisionText p s := by
  intro h
  refine comma_notMem_toString n ?_
  rw [h, toList_precisionText]
  simp

/-- The spelling of a type for which no length is natural. -/
theorem withDefaults_eq {t : CanonicalType} (h : t.naturalLength? = none) :
    withDefaults info t =
      match info.attachedLength?, info.attachedPrecision? with
      | some n, _ => parameterized info.name (toString n)
      | none, some (p, s) => parameterized info.name (precisionText p s)
      | none, none => info.name := by
  unfold withDefaults TypeInfo.attachedLength? TypeInfo.attachedPrecision?
  rw [h, Option.none_or]
  cases info.acceptsLength with
  | true => cases info.defaultLength <;> rfl
  | false =>
    cases info.acceptsPrecision with
    | true => cases info.defaultPrecision <;> rfl
    | false => rfl

/-- A length stands behind the name exactly if the entry attaches it. -/
theorem withDefaults_eq_length_iff {t : CanonicalType} {n : Nat} (h : t.naturalLength? = none) :
    withDefaults info t = parameterized info.name (toString n) ↔
      info.attachedLength? = some n := by
  rw [withDefaults_eq h]
  split
  · -- a length is attached
    next _ m hm =>
    rw [parameterized_inj, toString_inj, hm, Option.some.injEq]
  · -- a precision with a scale is attached, which is not spelled like a length
    next p s hnone _ =>
    rw [parameterized_inj, hnone]
    exact ⟨fun heq => absurd heq.symm (toString_ne_precisionText n p s), fun heq => by cases heq⟩
  · -- nothing is attached, so nothing stands behind the name
    next hnone _ =>
    rw [hnone]
    exact ⟨fun heq => absurd heq.symm (parameterized_ne _ _), fun heq => by cases heq⟩

/-- A precision with a scale stands behind the name exactly if the entry attaches them. -/
theorem withDefaults_eq_precision_iff {t : CanonicalType} {p s : Nat}
    (h : t.naturalLength? = none) :
    withDefaults info t = parameterized info.name (precisionText p s) ↔
      info.attachedPrecision? = some (p, s) := by
  rw [withDefaults_eq h]
  split
  · next _ n hn =>
    -- a type with a length has no precision
    have hnone : info.attachedPrecision? = none := by
      unfold TypeInfo.attachedLength? at hn
      unfold TypeInfo.attachedPrecision?
      split at hn
      · next hlength => rw [if_pos hlength]
      · cases hn
    rw [parameterized_inj, hnone]
    exact ⟨fun heq => absurd heq (toString_ne_precisionText n p s), fun heq => by cases heq⟩
  · next q t _ hq =>
    rw [parameterized_inj, precisionText_inj, hq, Option.some.injEq, Prod.mk.injEq]
  · next _ hnone =>
    rw [hnone]
    exact ⟨fun heq => absurd heq.symm (parameterized_ne _ _), fun heq => by cases heq⟩

/-- Defaults that are put behind the name of the target leave room for all that the source holds. -/
structure KeepsRoom (d : Declared) (info : TypeInfo) (b : TypeConversion) : Prop where
  length : ∀ n, b.converted = parameterized info.name (toString n) →
    ∃ capacity, d.info.capacity? = some capacity ∧ capacity ≤ n
  digits : ∀ p s, b.converted = parameterized info.name (precisionText p s) →
    ∀ v, d.info.canonical.HasValue v → v.natAbs < 10 ^ (p - s)

/-- What the two entries have to be like so that defaults leave room. -/
structure LeavesRoom (source info : TypeInfo) : Prop where
  /-- The length is what the source is compared with, or it is long enough. -/
  length : ∀ n, info.attachedLength? = some n →
    (source.defaultLength = none ∧ source.maxLength.isSome = true ∧ info.bound? = some n) ∨
      ∃ capacity, source.capacity? = some capacity ∧ capacity ≤ n
  digits : ∀ p s, info.attachedPrecision? = some (p, s) →
    ∀ low high, source.canonical.integerRange? = some (low, high) →
      low.natAbs < 10 ^ (p - s) ∧ high.natAbs < 10 ^ (p - s)

/-- The room that a carried type leaves is the room between the two entries. -/
theorem keepsRoom_carried_iff {lossy : Bool} (hparameters : d.parameters = none)
    (hnatural : d.info.canonical.naturalLength? = none) (hbound : c.boundWarning? d info = none) :
    KeepsRoom d info (c.carried d given normal info lossy) ↔ LeavesRoom d.info info := by
  constructor
  · rintro ⟨hlength, hdigits⟩
    rw [carried_converted_of_none hparameters] at hlength hdigits
    refine ⟨fun n hn => .inr (hlength n ((withDefaults_eq_length_iff hnatural).2 hn)),
      fun p s hprecision => ?_⟩
    exact CanonicalType.values_lt_iff.1
      (hdigits p s ((withDefaults_eq_precision_iff hnatural).2 hprecision))
  · rintro ⟨hlength, hdigits⟩
    refine ⟨fun n hn => ?_, fun p s hprecision => ?_⟩
    · rw [carried_converted_of_none hparameters, withDefaults_eq_length_iff hnatural] at hn
      -- either the source has been compared with this length, or its entry shows the room
      rcases hlength n hn with ⟨hdefault, hmaximum, htarget⟩ | hroom
      · obtain ⟨maximum, hmaximum⟩ := Option.isSome_iff_exists.1 hmaximum
        have hsource : d.info.bound? = some maximum := by
          unfold TypeInfo.bound?
          rw [hmaximum, Option.some_or]
        have hsize : d.parameters.bind TypeName.declaredBound? = none := by
          rw [hparameters, Option.bind_none]
        refine ⟨maximum, ?_, bound_le_of_boundWarning? hbound hsize htarget hsource⟩
        unfold TypeInfo.capacity?
        rw [hdefault, Option.none_or, hmaximum]
      · exact hroom
    · rw [carried_converted_of_none hparameters,
        withDefaults_eq_precision_iff hnatural] at hprecision
      exact CanonicalType.values_lt_iff.2 (hdigits p s hprecision)

/-- A modifier leaves no place for defaults. -/
theorem keepsRoom_modified (hparameters : d.parameters = none) :
    KeepsRoom d info (modified d given normal info) := by
  refine ⟨fun n hn => ?_, fun p s hprecision => ?_⟩
  · rw [modified_converted_of_none hparameters] at hn
    exact absurd hn (parameterized_ne_unsigned _ _)
  · rw [modified_converted_of_none hparameters] at hprecision
    exact absurd hprecision (parameterized_ne_unsigned _ _)

/-- **When defaults leave room.** If nothing is told to be lost, and a type without parameters and
without a natural length is not modified, then defaults that are attached leave room for what it
holds exactly if the two entries are such that they do. -/
theorem resolve_keeps_room_iff (hnative : c.replacement? (TypeName.normalize s) = none)
    (harray : arrayElement? (TypeName.normalize s).toList = none)
    (hd : c.declared? (TypeName.normalize s) = some d) (hparameters : d.parameters = none)
    (hnatural : d.info.canonical.naturalLength? = none) (h : c.resolve s = .ok b)
    (hlossless : b.lossy = false) :
    ∃ info, c.GoesTo s (TypeName.normalize s) d info b ∧
      (KeepsRoom d info b ↔
        (c.modifiable? d.info.canonical = none → LeavesRoom d.info info)) := by
  obtain ⟨declared, info, hdeclared, hgoes⟩ := goesTo_of_resolve hnative harray h
  obtain rfl := Option.some.inj (hd.symm.trans hdeclared)
  refine ⟨info, hgoes, ?_⟩
  have hwarning := hgoes.boundWarning?_eq_none
  cases hgoes with
  | modified hmodified =>
    -- a modified type gets no defaults
    refine ⟨fun _ hno => ?_, fun _ => keepsRoom_modified hparameters⟩
    rw [hno] at hmodified
    cases hmodified
  | carried hno _ =>
    rw [keepsRoom_carried_iff hparameters hnatural (hwarning hno hlossless)]
    exact ⟨fun hroom _ => hroom, fun hroom => hroom hno⟩

/-- The texts of Milvus are as long as those of MySQL where nothing is declared. -/
theorem texts_keep_room :
    ∃ b d info, (between Databases.milvus Databases.mysql).resolve "varchar" = .ok b ∧
      b.converted = "varchar(255)" ∧ b.lossy = false ∧
      (between Databases.milvus Databases.mysql).GoesTo "varchar" (TypeName.normalize "varchar") d
        info b ∧
      info.attachedLength? = some 255 ∧ KeepsRoom d info b := by
  have htests :
      ((between Databases.milvus Databases.mysql).resolve "varchar").toOption.any
        (fun b => decide (b.converted = "varchar(255)" ∧ b.lossy = false)) = true ∧
      ((between Databases.milvus Databases.mysql).carriedTo? (TypeName.normalize "varchar")).any
        (fun x => decide (x.1.parameters = none ∧ x.1.info.canonical.naturalLength? = none ∧
          x.1.info.capacity? = some 255 ∧ x.2.attachedLength? = some 255 ∧
          x.2.attachedPrecision? = none)) = true := by decide +kernel
  have harray : arrayElement? (TypeName.normalize "varchar").toList = none := by decide +kernel
  obtain ⟨b, h, hfacts⟩ := exists_ok htests.1
  obtain ⟨hconverted, hlossless⟩ := of_decide_eq_true hfacts
  obtain ⟨⟨d, target⟩, hcarried, hentries⟩ := (Option.any_eq_true _ _).1 htests.2
  obtain ⟨hparameters, hnatural, hcapacity, hlength, hprecision⟩ := of_decide_eq_true hentries
  have hd := (carriedTo?_eq_some hcarried).1
  obtain ⟨info, hgoes, hiff⟩ := resolve_keeps_room_iff (replacement?_eq_none rfl _) harray hd
    hparameters hnatural h hlossless
  obtain ⟨-, rfl⟩ := Prod.mk.inj (hgoes.eq_of_carriedTo? hd hcarried)
  refine ⟨b, d, target, h, hconverted, hlossless, hgoes, hlength, hiff.2 fun _ => ⟨?_, ?_⟩⟩
  · -- the length of the target is the one that the source has by default
    intro n hn
    obtain rfl := Option.some.inj (hlength.symm.trans hn)
    exact .inr ⟨255, hcapacity, Nat.le_refl 255⟩
  · intro p s hp
    rw [hprecision] at hp
    cases hp

/-- The unsigned integers of InfluxDB have up to twenty digits. They are said to go into eighteen
without loss. -/
theorem unsigned_digits_lost :
    ∃ b d info, (between Databases.influxdb Databases.sqlserver).resolve "uinteger" = .ok b ∧
      b.converted = "decimal(18,0)" ∧ b.lossy = false ∧
      (between Databases.influxdb Databases.sqlserver).GoesTo "uinteger"
        (TypeName.normalize "uinteger") d info b ∧
      d.info.canonical = .uint64 ∧ info.attachedPrecision? = some (18, 0) ∧
      ¬KeepsRoom d info b := by
  have htests :
      ((between Databases.influxdb Databases.sqlserver).resolve "uinteger").toOption.any
        (fun b => decide (b.converted = "decimal(18,0)" ∧ b.lossy = false)) = true ∧
      ((between Databases.influxdb Databases.sqlserver).carriedTo?
        (TypeName.normalize "uinteger")).any (fun x =>
          decide (x.1.info.canonical = .uint64 ∧ x.2.name = "decimal" ∧
            x.2.attachedPrecision? = some (18, 0))) = true := by decide +kernel
  obtain ⟨b, h, hfacts⟩ := exists_ok htests.1
  obtain ⟨hconverted, hlossless⟩ := of_decide_eq_true hfacts
  obtain ⟨d, info, hd, hgoes⟩ :=
    goesTo_of_resolve (replacement?_eq_none rfl _) (by decide +kernel) h
  obtain ⟨carried, hcarried, hentries⟩ := (Option.any_eq_true _ _).1 htests.2
  obtain rfl := hgoes.eq_of_carriedTo? hd hcarried
  obtain ⟨hcanonical, hname, hprecision⟩ := of_decide_eq_true hentries
  refine ⟨b, d, info, h, hconverted, hlossless, hgoes, hcanonical, hprecision, fun hroom => ?_⟩
  have hspelled : b.converted = parameterized info.name (precisionText 18 0) := by
    rw [hconverted, hname]
    decide +kernel
  have hvalue : d.info.canonical.HasValue (2 ^ 64 - 1) := by
    rw [hcanonical]
    exact ⟨0, 2 ^ 64 - 1, rfl, by decide, by decide⟩
  exact absurd (hroom.digits 18 0 hspelled _ hvalue) (by decide)

end TypeConverter

end SchemaConversion
