import SchemaConversion.Proofs.Conversion.Preparation
import SchemaConversion.Proofs.ConversionPath

/-!
# Better targets

A target gets better when it supports more object types and everything else stays as it is:

> `FeatureProfile.Improves`: where the better profile differs, it supports.

The rule for an object type then stays what it is or becomes direct (`ObjectRule.of_improves`). How
hard a conversion is depends on how many rules are not direct and on whether all of them drop, and
with such rules it never becomes harder:

> `Complexity.ofRules_mono`: whatever the compatibility of the paradigms.

> `generate_improves`: a better target of the same paradigms makes no matrix harder, and no feasible
> one impossible.
-/

namespace SchemaConversion

variable {p better : FeatureProfile} {t : ObjectType}

/-! ## Profiles and rules -/

/-- Whatever the better profile treats in another way, it supports. -/
def FeatureProfile.Improves (better p : FeatureProfile) : Prop :=
  ∀ t, better.support t = p.support t ∨ better.supports t = true

/-- To support one object type more is an improvement. -/
theorem FeatureProfile.improves_set (p : FeatureProfile) (t : ObjectType) {state : SupportState}
    (h : state.isSupported = true) : (p.set t (some state)).Improves p := by
  intro u
  by_cases hu : u = t
  · right
    unfold FeatureProfile.supports FeatureProfile.set
    dsimp only
    rw [if_pos hu]
    exact h
  · left
    unfold FeatureProfile.set
    dsimp only
    rw [if_neg hu]

namespace ObjectRule

/-- The rules for what the target supports are direct. -/
theorem action_eq_direct_iff : (of t (p.support t)).action = .direct ↔ p.supports t = true := by
  unfold of FeatureProfile.supports
  cases p.support t with
  | none => simp
  | some state =>
    dsimp only
    split
    · next h => simpa using h
    · -- what is not supported is emulated or dropped
      next h => split <;> simpa using h

/-- **In a better target a rule stays what it is or becomes direct.** -/
theorem of_improves (h : better.Improves p) (t : ObjectType) :
    of t (better.support t) = of t (p.support t) ∨ (of t (better.support t)).action = .direct :=
  (h t).imp (congrArg (of t)) action_eq_direct_iff.2

/-- Rules for the same object types of which some have become direct. -/
def AreEased (rules' rules : List ObjectRule) : Prop :=
  List.Forall₂ (fun rule' rule => rule' = rule ∨ rule'.action = .direct) rules' rules

variable {rules' rules : List ObjectRule}

/-- In a better target the rules for any object types are eased. -/
theorem areEased_of_improves (h : better.Improves p) (ts : List ObjectType) :
    AreEased (ts.map fun t => of t (better.support t)) (ts.map fun t => of t (p.support t)) := by
  unfold AreEased
  rw [List.forall₂_map_left_iff, List.forall₂_map_right_iff, List.forall₂_same]
  exact fun t _ => of_improves h t

/-- No more of the rules are not direct. -/
theorem AreEased.countP_le (h : AreEased rules' rules) :
    rules'.countP (·.action != .direct) ≤ rules.countP (·.action != .direct) := by
  induction h with
  | nil => exact Nat.le_refl _
  | @cons rule' rule rules' rules hrule _ ih =>
    rw [List.countP_cons, List.countP_cons]
    rcases hrule with rfl | hdirect
    · -- a rule that stays counts in both lists or in none
      omega
    · -- a rule that has become direct counts at most in the old list
      rw [if_neg (by rw [hdirect]; decide)]
      omega

/-- If all the rules drop, they did so before. -/
theorem AreEased.all_drop (h : AreEased rules' rules)
    (hall : rules'.all (·.action == .drop) = true) : rules.all (·.action == .drop) = true := by
  induction h with
  | nil => rfl
  | @cons rule' rule rules' rules hrule _ ih =>
    rw [List.all_cons, Bool.and_eq_true] at hall ⊢
    refine ⟨?_, ih hall.2⟩
    -- a direct rule does not drop, so the first rule is the same as before
    rcases hrule with rfl | hdirect
    · exact hall.1
    · rw [hdirect] at hall
      exact absurd hall.1 (by decide)

end ObjectRule

/-! ## Complexity -/

namespace Complexity

/-- Between equal sets of paradigms the number of unsupported object types decides. -/
theorem ofRules_identical (rules : List ObjectRule) :
    ofRules .identical rules =
      if rules.countP (·.action != .direct) = 0 then .trivial
      else if rules.countP (·.action != .direct) ≤ maxSimpleUnsupported then .simple
      else .moderate := rfl

/-- **Rules that have become direct make nothing harder.** -/
theorem ofRules_mono {rules' rules : List ObjectRule} (h : ObjectRule.AreEased rules' rules)
    (compatibility : Compatibility) :
    ofRules compatibility rules' ≤ ofRules compatibility rules := by
  cases compatibility with
  -- equal paradigms: the fewer rules are not direct, the easier
  | identical =>
    have hcount := h.countP_le
    rw [ofRules_identical, ofRules_identical]
    generalize rules'.countP (·.action != .direct) = n' at hcount ⊢
    generalize rules.countP (·.action != .direct) = n at hcount ⊢
    by_cases hnone : n' = 0
    · rw [if_pos hnone]
      exact Nat.zero_le _
    · have hsome : n ≠ 0 := fun hn => hnone (Nat.le_zero.1 (hn ▸ hcount))
      rw [if_neg hnone, if_neg hsome]
      by_cases hfew : n ≤ maxSimpleUnsupported
      · rw [if_pos (Nat.le_trans hcount hfew), if_pos hfew]
        exact Nat.le_refl _
      · rw [if_neg hfew]
        split <;> decide
  -- in between the rules do not count
  | compatible => exact Nat.le_refl _
  | overlapping => exact Nat.le_refl _
  -- incompatible paradigms: what counts is whether all rules drop
  | incompatible =>
    unfold ofRules
    dsimp only
    split
    · next hall =>
      rw [if_pos (h.all_drop hall)]
      decide
    · split <;> decide

end Complexity

/-! ## Matrices -/

/-- A feature profile is required with success exactly if it is found. -/
theorem Registry.requireFeatureProfile_eq_ok {r : Registry} {id : String} :
    r.requireFeatureProfile id = .ok p ↔ r.featureProfile? id = some p := by
  unfold requireFeatureProfile
  cases r.featureProfile? id <;> simp

/-- A feature profile is found under the identifiers that its database is normalized to. -/
theorem Registry.featureProfile?_withFeatureProfile (r : Registry) (p : FeatureProfile)
    (id : String) :
    (r.withFeatureProfile p).featureProfile? id =
      if r.normalize id = key p.database then some p else r.featureProfile? id :=
  Dictionary.find?_insert ..

/-- A feature profile changes nothing about the capabilities of databases. -/
theorem Registry.capabilities?_withFeatureProfile (r : Registry) (p : FeatureProfile)
    (id : String) : (r.withFeatureProfile p).capabilities? id = r.capabilities? id := rfl

/-- A database that is registered has its own features. -/
theorem Registry.featureProfile?_withDatabase (r : Registry) (d : DatabaseDefinition) {id : String}
    (h : (r.withDatabase d).normalize id = key d.id) :
    (r.withDatabase d).featureProfile? id = some (d.features.forDatabase d.id) := by
  unfold withDatabase at h ⊢
  rw [featureProfile?_withFeatureProfile]
  exact if_pos h

namespace ConversionMatrix

variable {r r' : Registry} {estimator estimator' : Estimator} {m m' : ConversionMatrix}
  {source source' target target' : String}

/-- A matrix is computed from what is registered about its databases. -/
theorem generate_eq_between (h : generate r estimator source target = .ok m) :
    ∃ sourceFeatures targetFeatures, r.featureProfile? source = some sourceFeatures ∧
      r.featureProfile? target = some targetFeatures ∧
      m = between r estimator m.source m.target sourceFeatures targetFeatures := by
  unfold generate at h
  simp only [bind_eq_ok, Registry.requireFeatureProfile_eq_ok] at h
  obtain ⟨_, -, _, -, sourceFeatures, hsource, targetFeatures, htarget, _, -, _, -, heq⟩ := h
  cases heq
  exact ⟨sourceFeatures, targetFeatures, hsource, htarget, rfl⟩

/-- There is a rule for each object type that the source supports, and its state in the target
dictates it. -/
theorem rule?_between (r : Registry) (estimator : Estimator) (source target : Capabilities)
    (sourceFeatures targetFeatures : FeatureProfile) (t : ObjectType) :
    (between r estimator source target sourceFeatures targetFeatures).rule? t =
      if sourceFeatures.supports t then some (.of t (targetFeatures.support t)) else none := by
  have hsame : (fun rule : ObjectRule => rule.objectType == t) ∘
      (fun u => ObjectRule.of u (targetFeatures.support u)) = fun u => u == t :=
    funext fun u => by rw [Function.comp_apply, ObjectRule.objectType_of]
  show ((ObjectType.all.filter sourceFeatures.supports).map fun u =>
    ObjectRule.of u (targetFeatures.support u)).find? (·.objectType == t) = _
  rw [List.find?_map, hsame]
  split
  · next h =>
    have hmem : t ∈ ObjectType.all.filter sourceFeatures.supports :=
      List.mem_filter.2 ⟨t.mem_all, h⟩
    obtain ⟨u, hu⟩ := Option.isSome_iff_exists.1
      (List.find?_isSome (p := fun u => u == t).2 ⟨t, hmem, beq_self_eq_true t⟩)
    have hsame : u = t := eq_of_beq (List.find?_some (p := fun u => u == t) hu)
    rw [hu, hsame]
    rfl
  · next h =>
    rw [Option.map_eq_none_iff, List.find?_eq_none]
    intro u hu heq
    rw [eq_of_beq heq] at hu
    exact h (List.mem_filter.1 hu).2

/-- In the matrix for a better target a rule stays what it is or is direct. -/
theorem rule?_of_improves (h : better.Improves p) {sourceFeatures : FeatureProfile}
    {from₁ from₂ to₁ to₂ : Capabilities} (t : ObjectType) :
    (between r' estimator' from₂ to₂ sourceFeatures better).rule? t =
        (between r estimator from₁ to₁ sourceFeatures p).rule? t ∨
      ∃ rule, (between r' estimator' from₂ to₂ sourceFeatures better).rule? t = some rule ∧
        rule.action = .direct := by
  rw [rule?_between, rule?_between]
  split
  · rcases ObjectRule.of_improves h t with hsame | hdirect
    · exact .inl (congrArg some hsame)
    · -- the rule of the better target is the direct one
      exact .inr ⟨_, rfl, hdirect⟩
  · exact .inl rfl

/-- **Better targets are never worse.** Of two targets with the same paradigms, the second of which
supports some object types more and is the same otherwise, the second is no harder for any source.
Every object type with a direct rule has one for the better target as well, and a rule for that
which is not direct has been there before. So a feasible pair does not become impossible. The
databases may be registered in different registries, and in the same one under different
identifiers. -/
theorem generate_improves (hm : generate r estimator source target = .ok m)
    (hm' : generate r' estimator' source' target' = .ok m') (hsource : m'.source = m.source)
    (hfeatures : r'.featureProfile? source' = r.featureProfile? source)
    (hparadigms : m'.target.paradigms = m.target.paradigms)
    (hp : r.featureProfile? target = some p) (hbetter : r'.featureProfile? target' = some better)
    (h : better.Improves p) :
    m'.complexity ≤ m.complexity ∧
      (∀ t rule, m.rule? t = some rule → rule.action = .direct →
        ∃ rule', m'.rule? t = some rule' ∧ rule'.action = .direct) ∧
      (∀ t rule', m'.rule? t = some rule' → rule'.action ≠ .direct → m.rule? t = some rule') ∧
      (m.isFeasible = true → m'.isFeasible = true) := by
  obtain ⟨sf, tf, hsf, htf, heq⟩ := generate_eq_between hm
  obtain ⟨sf', tf', hsf', htf', heq'⟩ := generate_eq_between hm'
  obtain rfl := Option.some.inj (htf.symm.trans hp)
  obtain rfl := Option.some.inj (htf'.symm.trans hbetter)
  rw [hfeatures, hsf] at hsf'
  obtain rfl := Option.some.inj hsf'
  -- the compatibility is the same, since it depends on the paradigms alone
  have hle : m'.complexity ≤ m.complexity := by
    rw [heq, heq']
    show Complexity.ofRules (.between m'.source.paradigms m'.target.paradigms) _ ≤
      Complexity.ofRules (.between m.source.paradigms m.target.paradigms) _
    rw [hsource, hparadigms]
    exact Complexity.ofRules_mono (ObjectRule.areEased_of_improves h sf.supportedTypes) _
  have hrules (t : ObjectType) : m'.rule? t = m.rule? t ∨
      ∃ rule, m'.rule? t = some rule ∧ rule.action = .direct := by
    rw [heq, heq']
    exact rule?_of_improves h t
  refine ⟨hle, fun t rule hrule hdirect => ?_, fun t rule' hrule' hother => ?_, fun hfeasible => ?_⟩
  · -- a direct rule is still there if it is the same, and else another direct one is
    rcases hrules t with hsame | heased
    · exact ⟨rule, hsame.trans hrule, hdirect⟩
    · exact heased
  · -- a rule that is not direct has not been eased, so it is the same
    rcases hrules t with hsame | ⟨rule, hrule, hdirect⟩
    · exact hsame.symm.trans hrule'
    · obtain rfl := Option.some.inj (hrule.symm.trans hrule')
      exact absurd hdirect hother
  · -- only the highest complexity is not feasible
    have hbefore := Complexity.ne_impossible_iff.1 hfeasible
    exact Complexity.ne_impossible_iff.2 (Nat.le_trans hle hbefore)

/-- The support of a store of items that holds buckets as well. -/
def bucketFeatures : FeatureProfile :=
  (Databases.dynamodb.features.forDatabase "dynamodb").set .bucket
    (some (.limited [] "large objects are split"))

/-- The same databases with this one instead. -/
def bucketStorage : Registry := ConversionPath.storage.withFeatureProfile bucketFeatures

/-- Buckets do not go into a store of items, unless it gets better and holds them. -/
theorem buckets_become_feasible :
    ∃ m m', generate ConversionPath.storage (EstimatorSettings.estimator {}) "s3" "dynamodb" =
        .ok m ∧
      generate bucketStorage (EstimatorSettings.estimator {}) "s3" "dynamodb" = .ok m' ∧
      m.complexity = .impossible ∧ m'.complexity = .complex ∧ m'.complexity ≤ m.complexity := by
  have htest : (generate ConversionPath.storage (EstimatorSettings.estimator {}) "s3"
      "dynamodb").toOption.any (fun m => m.complexity = .impossible) = true := by decide +kernel
  have htest' : (generate bucketStorage (EstimatorSettings.estimator {}) "s3"
      "dynamodb").toOption.any (fun m => m.complexity = .complex) = true := by decide +kernel
  obtain ⟨m, hm, hcomplexity⟩ := exists_ok htest
  obtain ⟨m', hm', hcomplexity'⟩ := exists_ok htest'
  -- both databases are the same in both registries, and so is the profile of the source
  obtain ⟨hsource, htarget⟩ := generate_pair hm
  obtain ⟨hsource', htarget'⟩ := generate_pair hm'
  unfold bucketStorage at hsource' htarget'
  rw [Registry.capabilities?_withFeatureProfile] at hsource' htarget'
  have hsources : m'.source = m.source := Option.some.inj (hsource'.symm.trans hsource)
  have htargets : m'.target = m.target := Option.some.inj (htarget'.symm.trans htarget)
  have hother : ConversionPath.storage.normalize "s3" ≠ Registry.key bucketFeatures.database := by
    decide +kernel
  have hfeatures : bucketStorage.featureProfile? "s3" =
      ConversionPath.storage.featureProfile? "s3" :=
    (Registry.featureProfile?_withFeatureProfile ..).trans (if_neg hother)
  have hp : ConversionPath.storage.featureProfile? "dynamodb" =
      some (Databases.dynamodb.features.forDatabase "dynamodb") :=
    Registry.featureProfile?_withDatabase _ Databases.dynamodb (by decide +kernel)
  have hbetter : bucketStorage.featureProfile? "dynamodb" = some bucketFeatures :=
    (Registry.featureProfile?_withFeatureProfile ..).trans (if_pos (by decide +kernel))
  have hmono := generate_improves hm hm' hsources hfeatures
    (congrArg Capabilities.paradigms htargets) hp hbetter
    (FeatureProfile.improves_set _ .bucket rfl)
  exact ⟨m, m', hm, hm', of_decide_eq_true hcomplexity, of_decide_eq_true hcomplexity', hmono.1⟩

end ConversionMatrix

end SchemaConversion
