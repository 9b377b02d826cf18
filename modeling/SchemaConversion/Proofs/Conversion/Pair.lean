import SchemaConversion.Proofs.Registry
import SchemaConversion.Proofs.Conversion.Preparation

/-!
# Which databases are converted

A request is validated for the databases that its spellings stand for, which must be different. The
conversion is then made for the normalized spellings, which are normalized once more whenever
something is looked up:

> `prepare_pair`: so the databases of a plan are those that the validated ones stand for in turn.

They are the same as long as no alias leads on from a validated database:

> `convert_pair_iff`: the pair of a report is the pair that was validated exactly if none does.

> `warehouse_pair_differs`: an alias for a database that is itself an alias. The request is for two
> databases, and the report is about one.
-/

namespace SchemaConversion

namespace ConversionEngine

variable {e : ConversionEngine} {r : ConversionRequest} {p : Plan} {s : Schema}
  {m : ConversionMatrix} {c : CompletedConversion}

/-- A valid request is for two databases that are known and different. -/
theorem validated_pair (h : e.validate r = .ok s) :
    ∃ source target, e.registry.capabilities? r.source = some source ∧
      e.registry.capabilities? r.target = some target ∧ source.id ≠ target.id := by
  unfold validate at h
  cases hs : r.schema with
  | none =>
    rw [hs] at h
    cases h
  | some schema =>
    rw [hs] at h
    simp only [bind_eq_ok, guard_eq_ok, Registry.requireCapabilities_eq_ok] at h
    obtain ⟨-, source, hsource, target, htarget, hne, -⟩ := h
    exact ⟨source, target, hsource, htarget, hne⟩

/-- A matrix is about the databases that are looked up for it. -/
theorem matrix_pair {source target : String} (h : e.matrix source target = .ok m) :
    e.registry.capabilities? source = some m.source ∧
      e.registry.capabilities? target = some m.target :=
  ConversionMatrix.generate_pair h

/-- **The databases of a plan** are those that the normalized spellings stand for. -/
theorem prepare_pair (h : e.prepare r = .ok (p, s)) :
    e.registry.capabilities? (e.registry.normalize r.source) = some p.matrix.source ∧
      e.registry.capabilities? (e.registry.normalize r.target) = some p.matrix.target := by
  obtain ⟨-, m, hm, -, -, st, tt, tf, -, -, -, rfl⟩ := prepare_eq_ok.1 h
  exact matrix_pair hm

/-- What is found under a spelling is found for its normal form too exactly if no alias leads on
from it. -/
theorem found_again_iff (hr : e.registry.IsSound) {spelling : String} {found again : Capabilities}
    (hfound : e.registry.capabilities? spelling = some found)
    (hagain : e.registry.capabilities? (e.registry.normalize spelling) = some again) :
    again = found ↔ e.registry.IsFinal found.id := by
  have hid := hr.capabilities?_id hfound
  have hagain_id := hr.capabilities?_id hagain
  rw [hid, ← hr.normalize_normalize_iff]
  constructor
  · rintro rfl
    exact hagain_id.symm.trans hid
  · intro hnormal
    -- the normal form is looked up under the identifier that the spelling stands for
    have hsame : e.registry.capabilities? (e.registry.normalize spelling) =
        e.registry.capabilities? spelling := by
      unfold Registry.capabilities?
      rw [hnormal]
    rw [hsame, hfound] at hagain
    exact (Option.some.inj hagain).symm

end ConversionEngine

/-! ## Registries -/

/-- The registry of the databases that come with the library is one that registrations lead to. -/
theorem Registry.reachable_builtin : Registry.builtin.Reachable := by
  refine List.foldlRecOn Databases.all _ reachable_empty ?_
  intro r h d _
  exact h.withDatabase d

/-- None of its aliases stands for another. -/
theorem Registry.isFlat_builtin : Registry.builtin.IsFlat :=
  isFlat_of_entries (by decide +kernel)

namespace Shop

/-- An engine where the warehouse is a database whose identifier stands for another database. -/
def warehouseEngine : ConversionEngine where
  registry := (((Registry.empty.withDatabase Databases.postgresql).withDatabase
    Databases.mariadb).withAlias "warehouse" "mariadb").withAlias "mariadb" "postgresql"

/-- A conversion of the shop from the warehouse. -/
def warehouseRequest : ConversionRequest :=
  { request with source := "Warehouse", target := "postgresql" }

theorem reachable_engine : engine.registry.Reachable :=
  (Registry.reachable_empty.withDatabase _).withDatabase _

theorem reachable_warehouseEngine : warehouseEngine.registry.Reachable :=
  (((Registry.reachable_empty.withDatabase _).withDatabase _).register (.spelling _ _)).register
    (.spelling _ _)

end Shop

namespace ConversionEngine

variable {e : ConversionEngine} {r : ConversionRequest} {c : CompletedConversion}

/-- **The pair that is converted.** In whatever way the registry has been filled: a request that is
answered is for two databases that are known and different, and the report is about those that
their identifiers stand for in turn. It is about the same two exactly if no alias leads on from
their identifiers, and this is so for all requests if no alias stands for another, that is if it
changes nothing to normalize once more. -/
theorem convert_pair_iff (hr : e.registry.Reachable) (h : e.convert r = .ok c) :
    ∃ source target, e.registry.capabilities? r.source = some source ∧
      e.registry.capabilities? r.target = some target ∧ source.id ≠ target.id ∧
      source.id = e.registry.normalize r.source ∧ target.id = e.registry.normalize r.target ∧
      c.report.matrix.source.id = e.registry.normalize source.id ∧
      c.report.matrix.target.id = e.registry.normalize target.id ∧
      (c.report.matrix.source = source ↔ e.registry.IsFinal source.id) ∧
      (c.report.matrix.target = target ↔ e.registry.IsFinal target.id) ∧
      (e.registry.IsFlat → e.registry.IsFinal source.id ∧ e.registry.IsFinal target.id) ∧
      (e.registry.IsFlat ↔
        ∀ id, e.registry.normalize (e.registry.normalize id) = e.registry.normalize id) := by
  obtain ⟨p, s, hprepare, rfl⟩ := convert_eq_ok.1 h
  obtain ⟨source, target, hsource, htarget, hne⟩ := validated_pair (prepare_eq_ok.1 hprepare).1
  -- the request is checked for its own spellings, and the plan is made for the normalized ones
  obtain ⟨hsource', htarget'⟩ := prepare_pair hprepare
  have hsound := Registry.isSound_of_reachable hr
  have hsource_id := hsound.capabilities?_id hsource
  have htarget_id := hsound.capabilities?_id htarget
  refine ⟨source, target, hsource, htarget, hne, hsource_id, htarget_id, ?_, ?_,
    found_again_iff hsound hsource hsource', found_again_iff hsound htarget htarget',
    fun hflat => ?_, hsound.isFlat_iff⟩
  · rw [hsource_id]
    exact hsound.capabilities?_id hsource'
  · rw [htarget_id]
    exact hsound.capabilities?_id htarget'
  · rw [hsource_id, htarget_id]
    exact ⟨hflat.isFinal _, hflat.isFinal _⟩

/-- The shop is converted from and to the databases that the request is for. -/
theorem shop_pair_converted :
    ∃ c source target, Shop.engine.registry.Reachable ∧
      Shop.engine.convert Shop.request = .ok c ∧
      Shop.engine.registry.capabilities? "postgresql" = some source ∧
      Shop.engine.registry.capabilities? "mongodb" = some target ∧
      c.report.matrix.source = source ∧ c.report.matrix.target = target ∧
      c.report.matrix.source.id ≠ c.report.matrix.target.id := by
  obtain ⟨c, h, -, -⟩ := Shop.converts
  obtain ⟨source, target, hsource, htarget, hne, -, -, -, -, hsource_iff, htarget_iff, hfinal, -⟩ :=
    convert_pair_iff Shop.reachable_engine h
  have hflat : Shop.engine.registry.IsFlat := Registry.isFlat_of_entries (by decide +kernel)
  have hsource_eq := hsource_iff.2 (hfinal hflat).1
  have htarget_eq := htarget_iff.2 (hfinal hflat).2
  refine ⟨c, source, target, Shop.reachable_engine, h, hsource, htarget, hsource_eq, htarget_eq, ?_⟩
  rw [hsource_eq, htarget_eq]
  exact hne

/-- The warehouse stands for MariaDB, which stands for PostgreSQL. So the conversion of the
warehouse to PostgreSQL is valid, and its report is about PostgreSQL twice. -/
theorem warehouse_pair_differs :
    ∃ c source, Shop.warehouseEngine.registry.Reachable ∧
      Shop.warehouseEngine.convert Shop.warehouseRequest = .ok c ∧
      Shop.warehouseEngine.registry.capabilities? "Warehouse" = some source ∧
      source.id = "mariadb" ∧ c.report.matrix.source.id = "postgresql" ∧
      c.report.matrix.target.id = "postgresql" := by
  have htest : (Shop.warehouseEngine.convert Shop.warehouseRequest).toOption.any (fun c =>
      (Shop.warehouseEngine.registry.capabilities? "Warehouse").any fun source =>
        decide (source.id = "mariadb" ∧ c.report.matrix.source.id = "postgresql" ∧
          c.report.matrix.target.id = "postgresql")) = true := by decide +kernel
  obtain ⟨c, h, hc⟩ := exists_ok htest
  obtain ⟨source, hsource, hfacts⟩ := (Option.any_eq_true _ _).1 hc
  obtain ⟨hwarehouse, hpair⟩ := of_decide_eq_true hfacts
  exact ⟨c, source, Shop.reachable_warehouseEngine, h, hsource, hwarehouse, hpair⟩

end ConversionEngine

end SchemaConversion
