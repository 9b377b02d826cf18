import SchemaConversion.ConversionPath
import SchemaConversion.Databases
import SchemaConversion.Proofs.Registry

/-!
# The best path

Between databases without a feasible matrix every other database is tried as an intermediate one.
The search goes through their identifiers in order and keeps the first of the easiest paths:

> `easiest?_filterMap`: of equally hard paths the one through the least identifier is kept, by
> induction on the identifiers.

What can be kept is told apart from the search:

> `Bridges`: a registered database, neither source nor target, with feasible matrices on both sides.

> `find_eq_ok_iff`, `find_eq_error_iff`: the best of what bridges the two is found, and nothing is
> found exactly if nothing does.

The identifiers are looked up as they are registered. If no alias is registered for one of them, a
path leads from the source to the target, its steps meet, and it is one level harder than the harder
one, for which there is always room above a feasible step (`Bridges.isPathOf`).

> `find_easiest`: all of this in one.
-/

namespace SchemaConversion

namespace Complexity

variable {a b : Complexity}

theorem lt_iff : a < b ↔ a.level < b.level := Iff.rfl

theorem eq_iff : a = b ↔ a.level = b.level := by
  constructor
  · rintro rfl
    rfl
  · intro h
    cases a <;> cases b <;> first | rfl | cases h

/-- Only the impossible is not feasible. -/
theorem ne_impossible_iff : (a != .impossible) = true ↔ a ≤ .complex := by
  cases a <;> decide

/-- Two steps are as easy as some complexity if each of them is. -/
theorem max_le_iff {c : Complexity} : max a b ≤ c ↔ a ≤ c ∧ b ≤ c := by
  cases a <;> cases b <;> cases c <;> decide

/-- What is not impossible is made one level harder. -/
theorem level_worse (h : a ≤ .complex) : a.worse.level = a.level + 1 := by
  cases a with
  | impossible => exact absurd h (by decide)
  | _ => rfl

end Complexity

namespace ConversionPath

variable {r : Registry} {estimator : Estimator} {source target id : String}
  {m first second : ConversionMatrix} {path best : ConversionPath}

/-! ## The easiest of many -/

/-- There is an easiest path unless there is no path. -/
theorem easiest?_eq_none {paths : List ConversionPath} : easiest? paths = none ↔ paths = [] := by
  cases paths with
  | nil => simp [easiest?]
  | cons path rest =>
    rw [easiest?]
    cases easiest? rest <;> simp

/-- A path that is easier, or as easy and through an identifier that is no greater. -/
def Precedes (id : String) (path : ConversionPath) (id' : String) (path' : ConversionPath) : Prop :=
  path.complexity < path'.complexity ∨ path.complexity = path'.complexity ∧ id ≤ id'

theorem Precedes.refl (id : String) (path : ConversionPath) : Precedes id path id path :=
  .inr ⟨rfl, String.le_refl id⟩

/-- A path that is no harder than one that precedes others, and through a lesser identifier than
theirs, precedes them as well. -/
theorem Precedes.of_not_lt {id₁ id₂ id₃ : String} {path₁ path₂ path₃ : ConversionPath}
    (h : Precedes id₂ path₂ id₃ path₃) (hlt : ¬path₂.complexity < path₁.complexity)
    (hid : id₁ ≤ id₃) : Precedes id₁ path₁ id₃ path₃ := by
  unfold Precedes at h ⊢
  simp only [Complexity.lt_iff, Complexity.eq_iff] at hlt h ⊢
  by_cases hstrict : path₁.complexity.level < path₃.complexity.level
  · exact .inl hstrict
  · exact .inr ⟨by omega, hid⟩

/-- **Of paths found in the order of identifiers, the one that is kept precedes all.** -/
theorem easiest?_filterMap {ids : List String} {f : String → Option ConversionPath}
    (hids : ids.Pairwise (· < ·)) (h : easiest? (ids.filterMap f) = some best) :
    ∃ id ∈ ids, f id = some best ∧
      ∀ id' ∈ ids, ∀ path', f id' = some path' → Precedes id best id' path' := by
  induction ids generalizing best with
  | nil => cases h
  | cons first ids ih =>
    obtain ⟨hfirst, hrest⟩ := List.pairwise_cons.1 hids
    simp only [List.forall_mem_cons]
    cases hf : f first with
    | none =>
      rw [List.filterMap_cons_none hf] at h
      obtain ⟨id, hid, hbest, hleast⟩ := ih hrest h
      exact ⟨id, List.mem_cons_of_mem _ hid, hbest, nofun, hleast⟩
    | some path =>
      have hhead {id : String} {best : ConversionPath} (h : Precedes id best first path) :
          ∀ path', some path = some path' → Precedes id best first path' := by
        rintro _ ⟨⟩
        exact h
      rw [List.filterMap_cons_some hf, easiest?] at h
      cases hothers : easiest? (ids.filterMap f) with
      | none =>
        rw [hothers] at h
        obtain rfl := Option.some.inj h
        have hnone := List.filterMap_eq_nil_iff.1 (easiest?_eq_none.1 hothers)
        refine ⟨first, List.mem_cons_self, hf, hhead (.refl first path),
          fun id' hid' path' h' => ?_⟩
        rw [hnone id' hid'] at h'
        cases h'
      | some other =>
        rw [hothers] at h
        have hkept := Option.some.inj h
        obtain ⟨id, hid, hother, hleast⟩ := ih hrest hothers
        by_cases hlt : other.complexity < path.complexity
        · -- a later path is easier
          rw [if_pos hlt] at hkept
          subst hkept
          exact ⟨id, List.mem_cons_of_mem _ hid, hother, hhead (.inl hlt), hleast⟩
        · -- the path is as easy as any later one, and through a lesser identifier
          rw [if_neg hlt] at hkept
          subst hkept
          refine ⟨first, List.mem_cons_self, hf, hhead (.refl first path),
            fun id' hid' path' hpath' => ?_⟩
          have hbefore : first ≤ id' := String.not_lt.1 (String.lt_asymm (hfirst id' hid'))
          exact (hleast id' hid' path' hpath').of_not_lt hlt hbefore

/-! ## Intermediate databases -/

/-- A registered database, neither the source nor the target of a matrix, with feasible matrices
from the source and to the target. -/
structure Bridges (r : Registry) (estimator : Estimator) (m : ConversionMatrix) (id : String)
    (first second : ConversionMatrix) : Prop where
  registered : id ∈ r.databaseIds
  ne_source : id ≠ m.source.id
  ne_target : id ≠ m.target.id
  comes : ConversionMatrix.generate r estimator m.source.id id = .ok first
  goes : ConversionMatrix.generate r estimator id m.target.id = .ok second
  comes_le : first.complexity ≤ .complex
  goes_le : second.complexity ≤ .complex

/-- A database that bridges the two such that no other one makes an easier path, and none with a
lesser identifier one as easy. -/
structure BridgesBest (r : Registry) (estimator : Estimator) (m : ConversionMatrix) (id : String)
    (first second : ConversionMatrix) : Prop where
  bridges : Bridges r estimator m id first second
  best : ∀ id' first' second', Bridges r estimator m id' first' second' →
    Precedes id (.through first.step second.step) id' (.through first'.step second'.step)

/-- A path leads through a database if there are matrices for both steps and none of them is
impossible. -/
theorem through?_eq_some :
    through? r estimator source target id = some path ↔
      ∃ first second, ConversionMatrix.generate r estimator source id = .ok first ∧
        ConversionMatrix.generate r estimator id target = .ok second ∧
        first.complexity ≤ .complex ∧ second.complexity ≤ .complex ∧
        path = .through first.step second.step := by
  unfold through?
  cases ConversionMatrix.generate r estimator source id with
  | error e => simp [Except.toOption]
  | ok first =>
    cases ConversionMatrix.generate r estimator id target with
    | error e => simp [Except.toOption]
    | ok second =>
      have hfeasible : (first.isFeasible && second.isFeasible) = true ↔
          first.complexity ≤ .complex ∧ second.complexity ≤ .complex := by
        rw [Bool.and_eq_true]
        exact and_congr Complexity.ne_impossible_iff Complexity.ne_impossible_iff
      show (if first.isFeasible && second.isFeasible then
        some (through first.step second.step) else none) = some path ↔ _
      rw [Option.ite_none_right_eq_some, hfeasible]
      constructor
      · rintro ⟨⟨hfirst, hsecond⟩, heq⟩
        exact ⟨first, second, rfl, rfl, hfirst, hsecond, (Option.some.inj heq).symm⟩
      · rintro ⟨_, _, hfirst, hsecond, hfirst', hsecond', rfl⟩
        cases hfirst
        cases hsecond
        exact ⟨⟨hfirst', hsecond'⟩, rfl⟩

/-- The databases that are tried. -/
def others (r : Registry) (m : ConversionMatrix) : List String :=
  r.databaseIds.filter fun id => id ≠ m.source.id && id ≠ m.target.id

/-- What a path may lead through is any other database than the two. -/
theorem mem_others :
    id ∈ others r m ↔ id ∈ r.databaseIds ∧ id ≠ m.source.id ∧ id ≠ m.target.id := by
  simp [others]

/-- The other databases are tried in ascending order. -/
theorem others_pairwise (r : Registry) (m : ConversionMatrix) :
    (others r m).Pairwise (· < ·) :=
  (List.pairwise_map.2 r.capabilities.ascending).filter _

/-- **The databases with a path through them are those that bridge the two.** -/
theorem bridges_iff :
    (∃ first second, Bridges r estimator m id first second ∧
        path = .through first.step second.step) ↔
      id ∈ others r m ∧ through? r estimator m.source.id m.target.id id = some path := by
  rw [mem_others, through?_eq_some]
  constructor
  · rintro ⟨first, second, h, rfl⟩
    exact ⟨⟨h.registered, h.ne_source, h.ne_target⟩, first, second, h.comes, h.goes, h.comes_le,
      h.goes_le, rfl⟩
  · rintro ⟨⟨hmem, hsource, htarget⟩, first, second, hfirst, hsecond, hfirst', hsecond', rfl⟩
    exact ⟨first, second, ⟨hmem, hsource, htarget, hfirst, hsecond, hfirst', hsecond'⟩, rfl⟩

/-- The databases and matrices that make the best path are unique. -/
theorem BridgesBest.unique {id' : String} {first' second' : ConversionMatrix}
    (h : BridgesBest r estimator m id first second)
    (h' : BridgesBest r estimator m id' first' second') :
    id = id' ∧ first = first' ∧ second = second' := by
  have hid : id = id' := by
    have hle := h.best _ _ _ h'.bridges
    have hge := h'.best _ _ _ h.bridges
    unfold Precedes at hle hge
    simp only [Complexity.lt_iff, Complexity.eq_iff] at hle hge
    rcases hle with hlt | ⟨heq, hid⟩
    · omega
    · rcases hge with hlt | ⟨-, hid'⟩
      · omega
      · exact String.le_antisymm hid hid'
  subst hid
  have hfirst := h.bridges.comes.symm.trans h'.bridges.comes
  have hsecond := h.bridges.goes.symm.trans h'.bridges.goes
  exact ⟨rfl, Except.ok.inj hfirst, Except.ok.inj hsecond⟩

/-! ## The search -/

/-- The easiest path through another database. -/
def easiestThrough? (r : Registry) (estimator : Estimator) (m : ConversionMatrix) :
    Option ConversionPath :=
  easiest? ((others r m).filterMap (through? r estimator m.source.id m.target.id))

/-- No path leads through another database exactly if none bridges the two. -/
theorem easiestThrough?_eq_none :
    easiestThrough? r estimator m = none ↔
      ∀ id first second, ¬Bridges r estimator m id first second := by
  unfold easiestThrough?
  rw [easiest?_eq_none, List.filterMap_eq_nil_iff]
  constructor
  · intro hnone id first second hbridges
    obtain ⟨hid, hpath⟩ := bridges_iff.1 ⟨first, second, hbridges, rfl⟩
    rw [hnone id hid] at hpath
    cases hpath
  · intro hnone id hid
    by_contra hsome
    obtain ⟨path, hpath⟩ := Option.ne_none_iff_exists'.1 hsome
    obtain ⟨first, second, hbridges, -⟩ := bridges_iff.2 ⟨hid, hpath⟩
    exact hnone id first second hbridges

/-- **What is kept is the best path**, and there is only one. -/
theorem easiestThrough?_eq_some :
    easiestThrough? r estimator m = some path ↔
      ∃ id first second, BridgesBest r estimator m id first second ∧
        path = .through first.step second.step := by
  have hkept {best : ConversionPath} (hbest : easiestThrough? r estimator m = some best) :
      ∃ id first second, BridgesBest r estimator m id first second ∧
        best = .through first.step second.step := by
    obtain ⟨id, hid, hpath, hleast⟩ := easiest?_filterMap (others_pairwise r m) hbest
    obtain ⟨first, second, hbridges, rfl⟩ := bridges_iff.2 ⟨hid, hpath⟩
    refine ⟨id, first, second, ⟨hbridges, fun id' first' second' hbridges' => ?_⟩, rfl⟩
    obtain ⟨hid', hpath'⟩ := bridges_iff.1 ⟨first', second', hbridges', rfl⟩
    exact hleast id' hid' _ hpath'
  constructor
  · exact hkept
  · rintro ⟨id, first, second, hbest, rfl⟩
    cases heasiest : easiestThrough? r estimator m with
    | none => exact absurd hbest.bridges (easiestThrough?_eq_none.1 heasiest id first second)
    | some best =>
      obtain ⟨id', first', second', hbest', rfl⟩ := hkept heasiest
      obtain ⟨-, rfl, rfl⟩ := hbest.unique hbest'
      rfl

/-- Where the direct matrix is feasible, its step is the path. -/
theorem find_of_feasible (hm : ConversionMatrix.generate r estimator source target = .ok m)
    (h : m.isFeasible = true) : find r estimator source target = .ok (.direct m.step) := by
  unfold find
  rw [hm]
  simp only [bind, Except.bind, h, if_true]
  rfl

/-- Where the direct matrix is not feasible, the search is among the other databases. -/
theorem find_of_infeasible (hm : ConversionMatrix.generate r estimator source target = .ok m)
    (h : m.isFeasible = false) :
    find r estimator source target =
      match easiestThrough? r estimator m with
      | some path => .ok path
      | none => .error (.noPathFound m.source.id m.target.id) := by
  unfold find
  rw [hm]
  simp only [bind, Except.bind, h, Bool.false_eq_true, if_false]
  rfl

/-- **What is found is the best path**, if there is any. -/
theorem find_eq_ok_iff (hm : ConversionMatrix.generate r estimator source target = .ok m)
    (h : m.isFeasible = false) :
    find r estimator source target = .ok path ↔
      ∃ id first second, BridgesBest r estimator m id first second ∧
        path = .through first.step second.step := by
  rw [find_of_infeasible hm h, ← easiestThrough?_eq_some]
  cases easiestThrough? r estimator m <;> simp

/-- **No path is found** exactly if no database bridges the two. -/
theorem find_eq_error_iff (hm : ConversionMatrix.generate r estimator source target = .ok m)
    (h : m.isFeasible = false) {error : ConversionError} :
    find r estimator source target = .error error ↔
      error = .noPathFound m.source.id m.target.id ∧
        ∀ id first second, ¬Bridges r estimator m id first second := by
  rw [find_of_infeasible hm h, ← easiestThrough?_eq_none]
  cases easiestThrough? r estimator m <;> simp [eq_comm]

end ConversionPath

/-! ## Where paths lead -/

namespace Registry

variable {r : Registry} {id : String} {c : Capabilities}

/-- No identifier of a database is registered as an alias. -/
def IsUnaliased (r : Registry) : Prop := ∀ id ∈ r.databaseIds, r.aliases.find? id = none

instance (r : Registry) : Decidable r.IsUnaliased := inferInstanceAs (Decidable (∀ id ∈ _, _))

/-- A database with capabilities is among those that are tried. -/
theorem mem_databaseIds (h : r.capabilities? id = some c) : r.normalize id ∈ r.databaseIds := by
  obtain ⟨before, after, hentries, -⟩ := List.lookup_eq_some_iff.1 h
  exact List.mem_map.2 ⟨(r.normalize id, c), by simp [hentries], rfl⟩

/-- The identifier of a database stands for itself, if it is as identifiers are looked up. -/
theorem IsUnaliased.normalize_eq_self (h : r.IsUnaliased) (hid : id ∈ r.databaseIds)
    (hkey : key id = id) : r.normalize id = id := by
  refine (Registry.normalize_eq_self hkey).2 fun next hnext => ?_
  rw [h id hid] at hnext
  cases hnext

/-- A database that has been found is found again under its identifier. -/
theorem IsUnaliased.normalize_found (h : r.IsUnaliased) (hr : r.IsSound)
    (hc : r.capabilities? id = some c) : r.normalize c.id = c.id := by
  rw [hr.capabilities?_id hc]
  exact h.normalize_eq_self (mem_databaseIds hc) (hr.key_normalize id)

end Registry

namespace ConversionPath

variable {r : Registry} {estimator : Estimator} {source target id : String}
  {m first second : ConversionMatrix} {path : ConversionPath}

/-- **The steps through a database** lead from the source to the target and meet at what its
identifier is normalized to. -/
theorem Bridges.endpoints (h : Bridges r estimator m id first second) (hr : r.IsSound)
    (hids : r.IsUnaliased) (hm : ConversionMatrix.generate r estimator source target = .ok m) :
    first.source.id = m.source.id ∧ first.target.id = r.normalize id ∧
      second.source.id = r.normalize id ∧ second.target.id = m.target.id := by
  obtain ⟨hsource, htarget⟩ := ConversionMatrix.generate_pair hm
  obtain ⟨hcomes, hin⟩ := ConversionMatrix.generate_pair h.comes
  obtain ⟨hout, hgoes⟩ := ConversionMatrix.generate_pair h.goes
  refine ⟨?_, hr.capabilities?_id hin, hr.capabilities?_id hout, ?_⟩
  · rw [hr.capabilities?_id hcomes, hids.normalize_found hr hsource]
  · rw [hr.capabilities?_id hgoes, hids.normalize_found hr htarget]

/-- **A path in two steps is strictly harder than each of them**, by one level. -/
theorem Bridges.level_complexity (h : Bridges r estimator m id first second) :
    (through first.step second.step).complexity.level =
      (max first.complexity second.complexity).level + 1 :=
  Complexity.level_worse (Complexity.max_le_iff.2 ⟨h.comes_le, h.goes_le⟩)

/-- What every path has that is found where the direct matrix is `m`. -/
structure IsPathOf (m : ConversionMatrix) (path : ConversionPath) : Prop where
  source : path.source = m.source.id
  target : path.target = m.target.id
  recommended : path.recommended = true ↔ path.complexity < .impossible
  meets : ∀ first second, path = .through first second →
    first.target = second.source ∧ path.intermediate? = some first.target
  harder : ∀ first second, path = .through first second →
    path.complexity.level = (max first.complexity second.complexity).level + 1 ∧
      max first.complexity second.complexity < path.complexity

/-- The direct step is a path. -/
theorem isPathOf_direct (m : ConversionMatrix) : IsPathOf m (.direct m.step) where
  source := rfl
  target := rfl
  recommended := decide_eq_true_iff
  meets _ _ h := by cases h
  harder _ _ h := by cases h

/-- Two steps through a database that bridges the two are a path. -/
theorem Bridges.isPathOf (h : Bridges r estimator m id first second) (hr : r.IsSound)
    (hids : r.IsUnaliased) (hm : ConversionMatrix.generate r estimator source target = .ok m) :
    IsPathOf m (.through first.step second.step) := by
  obtain ⟨hsource, hin, hout, htarget⟩ := h.endpoints hr hids hm
  refine ⟨hsource, htarget, decide_eq_true_iff, fun _ _ heq => ?_, fun _ _ heq => ?_⟩
  · cases heq
    exact ⟨hin.trans hout.symm, rfl⟩
  · cases heq
    have hlevel := h.level_complexity
    exact ⟨hlevel, Nat.lt_of_lt_of_eq (Nat.lt_succ_self _) hlevel.symm⟩

/-- **The path that is found.** In whatever way the registry has been filled, as long as none of its
databases has an alias for its identifier: a failure of the direct matrix is passed on, the direct
step is taken exactly if the matrix is feasible, and otherwise the easiest of the paths through all
databases that bridge the two, with the least identifier among those that are as easy. There is no
path exactly if no database bridges them. -/
theorem find_easiest (hr : r.Reachable) (hids : r.IsUnaliased) (estimator : Estimator)
    (source target : String) :
    (∀ error, ConversionMatrix.generate r estimator source target = .error error →
      find r estimator source target = .error error) ∧
    ∀ m, ConversionMatrix.generate r estimator source target = .ok m →
      (∀ step, find r estimator source target = .ok (.direct step) ↔
        m.isFeasible = true ∧ step = m.step) ∧
      (m.isFeasible = false →
        (∀ path, find r estimator source target = .ok path ↔
          ∃ id first second, BridgesBest r estimator m id first second ∧
            path = .through first.step second.step) ∧
        ∀ error, find r estimator source target = .error error ↔
          error = .noPathFound m.source.id m.target.id ∧
            ∀ id first second, ¬Bridges r estimator m id first second) ∧
      (∀ path, find r estimator source target = .ok path → IsPathOf m path) ∧
      ∀ id first second, Bridges r estimator m id first second →
        first.step.target = r.normalize id ∧ second.step.source = r.normalize id ∧
          (Registry.key id = id → r.normalize id = id) := by
  have hsound := Registry.isSound_of_reachable hr
  refine ⟨fun error herror => ?_, fun m hm => ?_⟩
  · unfold find
    rw [herror]
    rfl
  · have hdirect := find_of_feasible hm
    refine ⟨fun step => ⟨fun h => ?_, fun h => ?_⟩, fun hinfeasible =>
      ⟨fun path => find_eq_ok_iff hm hinfeasible, fun error => find_eq_error_iff hm hinfeasible⟩,
      fun path hpath => ?_, fun id first second hbridges => ?_⟩
    · cases hfeasible : m.isFeasible with
      | true =>
        rw [hdirect hfeasible] at h
        cases h
        exact ⟨rfl, rfl⟩
      | false =>
        obtain ⟨_, _, _, -, heq⟩ := (find_eq_ok_iff hm hfeasible).1 h
        cases heq
    · rw [h.2]
      exact hdirect h.1
    · cases hfeasible : m.isFeasible with
      | true =>
        rw [hdirect hfeasible] at hpath
        cases hpath
        exact isPathOf_direct m
      | false =>
        obtain ⟨id, first, second, hbest, rfl⟩ := (find_eq_ok_iff hm hfeasible).1 hpath
        exact hbest.bridges.isPathOf hsound hids hm
    · obtain ⟨-, hin, hout, -⟩ := hbridges.endpoints hsound hids hm
      exact ⟨hin, hout, fun hkey => hids.normalize_eq_self hbridges.registered hkey⟩

/-- A store of objects, a store of items and a database of several models. -/
def storage : Registry :=
  ((Registry.empty.withDatabase Databases.s3).withDatabase Databases.arangodb).withDatabase
    Databases.dynamodb

/-- Objects become items by way of the database of several models. -/
theorem storage_path_found :
    ∃ m first second, storage.Reachable ∧ storage.IsUnaliased ∧
      ConversionMatrix.generate storage (EstimatorSettings.estimator {}) "S3" "dynamodb" = .ok m ∧
      m.isFeasible = false ∧
      BridgesBest storage (EstimatorSettings.estimator {}) m "arangodb" first second ∧
      find storage (EstimatorSettings.estimator {}) "S3" "dynamodb" =
        .ok (.through first.step second.step) := by
  have hreachable : storage.Reachable :=
    ((Registry.reachable_empty.withDatabase _).withDatabase _).withDatabase _
  have hids : storage.IsUnaliased := by decide +kernel
  have htest : (ConversionMatrix.generate storage (EstimatorSettings.estimator {})
      "S3" "dynamodb").toOption.any (fun m => !m.isFeasible) = true := by decide +kernel
  obtain ⟨m, hm, hinfeasible⟩ := exists_ok htest
  have hfeasible : m.isFeasible = false := by simpa using hinfeasible
  have htest' : (find storage (EstimatorSettings.estimator {}) "S3" "dynamodb").toOption.any
      (fun path => path.isMultiStep) = true := by decide +kernel
  obtain ⟨path, hpath, -⟩ := exists_ok htest'
  have hfound := (find_easiest hreachable hids (EstimatorSettings.estimator {}) "S3"
    "dynamodb").2 m hm
  obtain ⟨id, first, second, hbest, rfl⟩ := ((hfound.2.1 hfeasible).1 path).1 hpath
  -- there is no other database in between
  have honly : ∀ id ∈ storage.databaseIds, id ≠ "s3" → id ≠ "dynamodb" → id = "arangodb" := by
    decide +kernel
  have hids' : m.source.id = "s3" ∧ m.target.id = "dynamodb" := by
    obtain ⟨hsource, htarget⟩ := ConversionMatrix.generate_pair hm
    have hsound := Registry.isSound_of_reachable hreachable
    rw [hsound.capabilities?_id hsource, hsound.capabilities?_id htarget]
    decide +kernel
  have hid := honly id hbest.bridges.registered (hids'.1 ▸ hbest.bridges.ne_source)
    (hids'.2 ▸ hbest.bridges.ne_target)
  rw [hid] at hbest
  exact ⟨m, first, second, hreachable, hids, hm, hfeasible, hbest, hpath⟩

end ConversionPath

end SchemaConversion
