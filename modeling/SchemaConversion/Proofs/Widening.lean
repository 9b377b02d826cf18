import SchemaConversion.Proofs.TypeConversion
import Mathlib.Data.Prod.Lex
import Mathlib.Order.Lex
import Mathlib.Data.List.Induction
import Mathlib.Data.List.Lex
import Mathlib.Data.List.Perm.Subperm

/-!
# Widening finds the closest type that the target has

Where the target has no native type for a canonical one, substitutes for it are searched, breadth
first. A route from a type says at each step which of the substitutes comes next, by its place
among them. Routes have an order (`CanonicalType.rank`): a shorter one comes first, and of two that
are as long the one that takes the closer substitute where they part. This is the order in which
the search comes upon types:

> `Explores`: what a search preserves. Each type is found once and in the order of the routes, and
> what has been tried leads to nothing that has not been found, on a route no later.

> `widenings_found`: in the end all that a route leads to has been found, and on the first of the
> routes that lead to it.

There are as many rounds as types, which is enough on a graph with circles because each type is
found once. So the native type that is found is the right one:

> `targetFor_finds`: it belongs to the end of the first route that leads to a type the target has,
> and something is lost exactly if a step of this route loses something. The search fails exactly
> if no route leads to such a type.
-/

namespace SchemaConversion

namespace CanonicalType

/-! ## Routes -/

/-- The steps of a route, if the types on it have so many substitutes. -/
def steps? : CanonicalType → List Nat → Option (List Fallback)
  | _, [] => some []
  | t, place :: route =>
    (t.fallbacks[place]?).bind fun step => (steps? step.canonical route).map (step :: ·)

/-- The type at the end of steps from this one. -/
def endOf (t : CanonicalType) (steps : List Fallback) : CanonicalType :=
  (steps.getLast?.map Fallback.canonical).getD t

/-- What is found at the end of steps from a type: with loss if one of them loses something. -/
def after (t : CanonicalType) (steps : List Fallback) : Fallback :=
  ⟨t.endOf steps, steps.any Fallback.lossy⟩

/-- A route from one type leads to another, with or without loss. -/
def LeadsTo (t : CanonicalType) (route : List Nat) (f : Fallback) : Prop :=
  ∃ steps, t.steps? route = some steps ∧ t.after steps = f

/-- How far a route goes and where it turns. -/
def rank (route : List Nat) : ℕ ×ₗ List ℕ := toLex (route.length, route)

variable {t : CanonicalType} {route route' : List Nat} {place place' : Nat} {f : Fallback}

theorem endOf_cons (t : CanonicalType) (step : Fallback) (steps : List Fallback) :
    t.endOf (step :: steps) = step.canonical.endOf steps := by
  unfold endOf
  cases steps with
  | nil => rfl
  | cons next steps => rw [List.getLast?_cons_cons, List.getLast?_cons, Option.map_some,
      Option.getD_some, Option.getD_some]

theorem endOf_append_singleton (t : CanonicalType) (steps : List Fallback) (step : Fallback) :
    t.endOf (steps ++ [step]) = step.canonical := by
  unfold endOf
  rw [List.getLast?_concat, Option.map_some, Option.getD_some]

/-- A route goes on from where it has led. -/
theorem steps?_append_singleton (t : CanonicalType) (route : List Nat) (place : Nat) :
    t.steps? (route ++ [place]) =
      (t.steps? route).bind fun steps =>
        ((t.endOf steps).fallbacks[place]?).map fun step => steps ++ [step] := by
  induction route generalizing t with
  | nil =>
    rw [List.nil_append, steps?, steps?, Option.bind_some]
    show _ = (t.fallbacks[place]?).map fun step => [] ++ [step]
    cases t.fallbacks[place]? <;> rfl
  | cons first route ih =>
    rw [List.cons_append, steps?, steps?]
    cases t.fallbacks[first]? with
    | none => rfl
    | some step =>
      rw [Option.bind_some, Option.bind_some, ih]
      cases step.canonical.steps? route with
      | none => rfl
      | some steps =>
        rw [Option.bind_some, Option.map_some, Option.bind_some, endOf_cons, Option.map_map]
        rfl

theorem leadsTo_nil : t.LeadsTo [] f ↔ f = .lossless t := by
  constructor
  · rintro ⟨steps, hsteps, rfl⟩
    cases hsteps
    rfl
  · rintro rfl
    exact ⟨[], rfl, rfl⟩

/-- What is found one step behind what a route leads to. -/
def onward (found step : Fallback) : Fallback := ⟨step.canonical, found.lossy || step.lossy⟩

/-- A route leads one step behind what it leads to without its last turn. -/
theorem leadsTo_append_singleton :
    t.LeadsTo (route ++ [place]) f ↔
      ∃ found step, t.LeadsTo route found ∧ found.canonical.fallbacks[place]? = some step ∧
        f = onward found step := by
  have hafter (steps : List Fallback) (step : Fallback) :
      t.after (steps ++ [step]) = onward (t.after steps) step := by
    unfold after onward
    rw [endOf_append_singleton, List.any_append, List.any_cons, List.any_nil, Bool.or_false]
  unfold LeadsTo
  rw [steps?_append_singleton]
  simp only [Option.bind_eq_some_iff, Option.map_eq_some_iff]
  constructor
  · rintro ⟨_, ⟨steps, hsteps, step, hstep, rfl⟩, rfl⟩
    exact ⟨_, step, ⟨steps, hsteps, rfl⟩, hstep, hafter steps step⟩
  · rintro ⟨_, step, ⟨steps, hsteps, rfl⟩, hstep, rfl⟩
    exact ⟨_, ⟨steps, hsteps, step, hstep, rfl⟩, hafter steps step⟩

/-! ## The order of routes -/

theorem rank_injective : Function.Injective rank := by
  intro a b h
  exact (Prod.mk.inj (toLex.injective h)).2

theorem length_le_of_rank_le (h : rank route ≤ rank route') : route.length ≤ route'.length :=
  (Prod.Lex.toLex_le_toLex'.1 h).1

theorem rank_nil_lt (route : List Nat) (place : Nat) : rank [] < rank (route ++ [place]) := by
  refine Prod.Lex.toLex_lt_toLex.2 (.inl ?_)
  rw [List.length_append]
  exact Nat.succ_pos _

/-- Routes part where the routes part that they go on from. -/
theorem rank_append_lt (h : rank route < rank route') (place place' : Nat) :
    rank (route ++ [place]) < rank (route' ++ [place']) := by
  -- of two routes that are as long the first turn where they part decides, and not the last one
  have hlist : ∀ {a b : List Nat}, a.length = b.length → a < b → a ++ [place] < b ++ [place'] := by
    intro a
    induction a with
    | nil =>
      intro b hlength hlt
      rw [List.length_eq_zero_iff.1 hlength.symm] at hlt
      exact absurd hlt (lt_irrefl _)
    | cons x a ih =>
      intro b hlength hlt
      cases b with
      | nil => cases hlength
      | cons y b =>
        rw [List.cons_append, List.cons_append, List.cons_lt_cons_iff]
        rcases List.cons_lt_cons_iff.1 hlt with hxy | ⟨hxy, hab⟩
        · exact .inl hxy
        · exact .inr ⟨hxy, ih (Nat.succ.inj hlength) hab⟩
  rcases Prod.Lex.toLex_lt_toLex.1 h with hshorter | ⟨hlength, hlt⟩
  · refine Prod.Lex.toLex_lt_toLex.2 (.inl ?_)
    rw [List.length_append, List.length_append]
    exact Nat.add_lt_add_right hshorter 1
  · refine Prod.Lex.toLex_lt_toLex.2 (.inr ⟨?_, hlist hlength hlt⟩)
    rw [List.length_append, List.length_append]
    exact congrArg (· + 1) hlength

/-- Routes that go on in the same way keep their order. -/
theorem rank_append_le (h : rank route ≤ rank route') (place : Nat) :
    rank (route ++ [place]) ≤ rank (route' ++ [place]) := by
  rcases lt_or_eq_of_le h with hlt | heq
  · exact le_of_lt (rank_append_lt hlt place place)
  · rw [rank_injective heq]

/-- From one type the closer substitute comes first. -/
theorem rank_place_lt (route : List Nat) (h : place < place') :
    rank (route ++ [place]) < rank (route ++ [place']) := by
  refine Prod.Lex.toLex_lt_toLex.2 (.inr ⟨?_, ?_⟩)
  · rw [List.length_append, List.length_append]
    rfl
  · exact List.append_left_lt (List.cons_lt_cons_iff.2 (.inl h))

/-! ## The search -/

/-- What a search has come upon, and by which route. -/
structure Visit where
  route : List Nat
  found : Fallback

/-- A search has tried these substitutes of types, each told by the route to the type and a place,
and nothing else. -/
structure Explores (t : CanonicalType) (Tried : List Nat → Nat → Prop) (visits : List Visit) :
    Prop where
  start : ⟨[], .lossless t⟩ ∈ visits
  leads : ∀ v ∈ visits, t.LeadsTo v.route v.found
  ordered : visits.Pairwise fun v w => rank v.route < rank w.route
  distinct : visits.Pairwise fun v w => v.found.canonical ≠ w.found.canonical
  origin : ∀ v ∈ visits, v.route = [] ∨
    ∃ route place, Tried route place ∧ v.route = route ++ [place]
  closed : ∀ route place, Tried route place → ∀ f, t.LeadsTo (route ++ [place]) f →
    ∃ v ∈ visits, v.found.canonical = f.canonical ∧ rank v.route ≤ rank (route ++ [place])

/-- A substitute of a type that has been visited is visited next, unless it has been before. -/
def nextVisits (visits : List Visit) (v : Visit) (place : Nat) (step : Fallback) : List Visit :=
  if visits.any (·.found.canonical == step.canonical) then visits
  else visits ++ [⟨v.route ++ [place], onward v.found step⟩]

variable {Tried : List Nat → Nat → Prop} {visits : List Visit} {v : Visit} {step : Fallback}

/-- What a route leads to is determined by the route. -/
theorem LeadsTo.unique {g : Fallback} (hf : t.LeadsTo route f) (hg : t.LeadsTo route g) :
    f = g := by
  obtain ⟨steps, hsteps, rfl⟩ := hf
  obtain ⟨steps', hsteps', rfl⟩ := hg
  rw [hsteps] at hsteps'
  rw [Option.some.inj hsteps']

/-- A route behind all that have been tried is behind all on which something has been found. -/
theorem Explores.rank_lt (h : Explores t Tried visits)
    (hlater : ∀ r p, Tried r p → rank (r ++ [p]) < rank (route ++ [place])) :
    ∀ w ∈ visits, rank w.route < rank (route ++ [place]) := by
  intro w hw
  rcases h.origin w hw with hnil | ⟨r, p, htried, heq⟩
  · rw [hnil]
    exact rank_nil_lt _ _
  · rw [heq]
    exact hlater r p htried

/-- **One substitute more.** It comes behind all that have been tried. -/
theorem Explores.next (h : Explores t Tried visits) (hv : v ∈ visits)
    (hstep : v.found.canonical.fallbacks[place]? = some step)
    (hlater : ∀ r p, Tried r p → rank (r ++ [p]) < rank (v.route ++ [place])) :
    Explores t (fun r p => Tried r p ∨ r = v.route ∧ p = place)
      (nextVisits visits v place step) := by
  have hbefore := h.rank_lt hlater
  have hleads : t.LeadsTo (v.route ++ [place]) (onward v.found step) :=
    leadsTo_append_singleton.2 ⟨v.found, step, h.leads v hv, hstep, rfl⟩
  unfold nextVisits
  by_cases hknown : visits.any (·.found.canonical == step.canonical) = true
  · rw [if_pos hknown]
    obtain ⟨w, hw, hsame⟩ := List.any_eq_true.1 hknown
    refine ⟨h.start, h.leads, h.ordered, h.distinct, fun u hu => ?_, ?_⟩
    · rcases h.origin u hu with hnil | ⟨r, p, htried, heq⟩
      · exact .inl hnil
      · exact .inr ⟨r, p, .inl htried, heq⟩
    · rintro r p (htried | ⟨rfl, rfl⟩) f hf
      · exact h.closed r p htried f hf
      · -- it has been found before, on a route that was tried before
        rw [hf.unique hleads]
        exact ⟨w, hw, eq_of_beq hsame, le_of_lt (hbefore w hw)⟩
  · rw [if_neg hknown]
    -- it has not been found, so it is put behind everything that has
    have hnew : ∀ w ∈ visits, w.found.canonical ≠ step.canonical := by
      intro w hw hsame
      exact hknown (List.any_eq_true.2 ⟨w, hw, beq_iff_eq.2 hsame⟩)
    refine ⟨List.mem_append_left _ h.start, fun w hw => ?_, ?_, ?_, fun w hw => ?_, ?_⟩
    · rcases List.mem_append.1 hw with hw | hw
      · exact h.leads w hw
      · rw [List.mem_singleton.1 hw]
        exact hleads
    · refine List.pairwise_append.2 ⟨h.ordered, List.pairwise_singleton _ _, fun w hw u hu => ?_⟩
      rw [List.mem_singleton.1 hu]
      exact hbefore w hw
    · refine List.pairwise_append.2 ⟨h.distinct, List.pairwise_singleton _ _, fun w hw u hu => ?_⟩
      rw [List.mem_singleton.1 hu]
      exact hnew w hw
    · rcases List.mem_append.1 hw with hw | hw
      · rcases h.origin w hw with hnil | ⟨r, p, htried, heq⟩
        · exact .inl hnil
        · exact .inr ⟨r, p, .inl htried, heq⟩
      · rw [List.mem_singleton.1 hw]
        exact .inr ⟨v.route, place, .inr ⟨rfl, rfl⟩, rfl⟩
    · rintro r p (htried | ⟨rfl, rfl⟩) f hf
      · obtain ⟨w, hw, hfound⟩ := h.closed r p htried f hf
        exact ⟨w, List.mem_append_left _ hw, hfound⟩
      · rw [hf.unique hleads]
        exact ⟨_, List.mem_append_right _ (List.mem_singleton_self _), rfl, le_refl _⟩

theorem map_found_nextVisits (visits : List Visit) (v : Visit) (place : Nat) (step : Fallback) :
    (nextVisits visits v place step).map Visit.found =
      if (visits.map Visit.found).any (·.canonical == step.canonical) then visits.map Visit.found
      else visits.map Visit.found ++ [onward v.found step] := by
  unfold nextVisits
  rw [List.any_map]
  by_cases hknown : visits.any (·.found.canonical == step.canonical) = true
  · rw [if_pos hknown]
    exact (if_pos hknown).symm
  · rw [if_neg hknown, List.map_append]
    exact (if_neg hknown).symm

theorem isPrefix_nextVisits (visits : List Visit) (v : Visit) (place : Nat) (step : Fallback) :
    visits <+: nextVisits visits v place step := by
  unfold nextVisits
  split
  · exact List.prefix_rfl
  · exact List.prefix_append _ _

/-- **All substitutes of a type.** They come behind those of the types before. -/
theorem Explores.expand (hlater : ∀ route place, Tried route place → rank route < rank v.route)
    {rest : List Fallback} : ∀ {done : List Fallback} {visits : List Visit},
    Explores t (fun r p => Tried r p ∨ r = v.route ∧ p < done.length) visits → v ∈ visits →
    v.found.canonical.fallbacks = done ++ rest →
    ∃ visits', visits <+: visits' ∧
      visits'.map Visit.found = rest.foldl (fun found step =>
        if found.any (·.canonical == step.canonical) then found
        else found ++ [onward v.found step]) (visits.map Visit.found) ∧
      Explores t (fun r p => Tried r p ∨ r = v.route) visits' := by
  induction rest with
  | nil =>
    intro done visits h hv hall
    rw [List.append_nil] at hall
    refine ⟨visits, List.prefix_rfl, rfl, h.start, h.leads, h.ordered, h.distinct,
      fun w hw => ?_, ?_⟩
    · rcases h.origin w hw with hnil | ⟨r, p, htried | ⟨hr, -⟩, heq⟩
      · exact .inl hnil
      · exact .inr ⟨r, p, .inl htried, heq⟩
      · exact .inr ⟨r, p, .inr hr, heq⟩
    · rintro r p (htried | rfl) f hf
      · exact h.closed r p (.inl htried) f hf
      · -- a place that leads on is that of a substitute
        obtain ⟨found, step, hfound, hstep, -⟩ := leadsTo_append_singleton.1 hf
        rw [hfound.unique (h.leads v hv), hall] at hstep
        have hp : p < done.length := (List.getElem?_eq_some_iff.1 hstep).1
        exact h.closed v.route p (.inr ⟨rfl, hp⟩) f hf
  | cons step rest ih =>
    intro done visits h hv hall
    have hstep : v.found.canonical.fallbacks[done.length]? = some step := by
      rw [hall, List.getElem?_append_right (le_refl _), Nat.sub_self]
      rfl
    have hnext := h.next hv hstep (by
      rintro r p (htried | ⟨rfl, hp⟩)
      · exact rank_append_lt (hlater r p htried) _ _
      · exact rank_place_lt _ hp)
    have hmore : Explores t (fun r p => Tried r p ∨ r = v.route ∧ p < (done ++ [step]).length)
        (nextVisits visits v done.length step) := by
      have htried : (fun r p => (Tried r p ∨ r = v.route ∧ p < done.length) ∨
          r = v.route ∧ p = done.length) =
          fun r p => Tried r p ∨ r = v.route ∧ p < (done ++ [step]).length := by
        funext r p
        rw [List.length_append, List.length_singleton, Nat.lt_succ_iff_lt_or_eq]
        exact propext (by tauto)
      rw [htried] at hnext
      exact hnext
    have hgrows := isPrefix_nextVisits visits v done.length step
    obtain ⟨visits', hgrown, hfound, hexplores⟩ :=
      ih hmore (hgrows.subset hv) (by rw [hall, List.append_assoc]; rfl)
    refine ⟨visits', hgrows.trans hgrown, ?_, hexplores⟩
    rw [hfound, map_found_nextVisits, List.foldl_cons]

/-- What has been found after so many rounds. -/
def foundAfter (t : CanonicalType) (rounds : Nat) : List Fallback :=
  (List.range rounds).foldl (fun found i => match found[i]? with
    | some current => CanonicalType.expand found current
    | none => found) [.lossless t]

theorem explores_start (t : CanonicalType) :
    Explores t (fun _ _ => False) [⟨[], .lossless t⟩] where
  start := List.mem_singleton_self _
  leads v hv := by
    rw [List.mem_singleton.1 hv]
    exact leadsTo_nil.2 rfl
  ordered := List.pairwise_singleton _ _
  distinct := List.pairwise_singleton _ _
  origin v hv := by
    rw [List.mem_singleton.1 hv]
    exact .inl rfl
  closed _ _ htried := htried.elim

/-- **After so many rounds** as many types are expanded, in the order in which they were found. -/
theorem explores_rounds (t : CanonicalType) (rounds : Nat) :
    ∃ visits, visits.map Visit.found = t.foundAfter rounds ∧
      Explores t (fun r _ => ∃ v ∈ visits.take rounds, v.route = r) visits := by
  induction rounds with
  | zero =>
    refine ⟨[⟨[], .lossless t⟩], rfl, ?_⟩
    have hnone : (fun (r : List Nat) (_ : Nat) =>
        ∃ v ∈ List.take 0 [(⟨[], .lossless t⟩ : Visit)], v.route = r) = fun _ _ => False := by
      funext r p
      simp
    rw [hnone]
    exact explores_start t
  | succ rounds ih =>
    obtain ⟨visits, hfound, h⟩ := ih
    have hround : t.foundAfter (rounds + 1) = match (t.foundAfter rounds)[rounds]? with
        | some current => CanonicalType.expand (t.foundAfter rounds) current
        | none => t.foundAfter rounds := by
      unfold foundAfter
      rw [List.range_succ, List.foldl_append]
      rfl
    rw [hround, ← hfound, List.getElem?_map]
    -- there is another type to expand, or all have been
    by_cases hlt : rounds < visits.length
    · have hget : visits[rounds]? = some visits[rounds] := List.getElem?_eq_getElem hlt
      rw [hget, Option.map_some]
      dsimp only
      have hv : visits[rounds] ∈ visits := List.getElem_mem hlt
      -- the types before it were found on earlier routes
      have hlater : ∀ (r : List Nat) (_ : Nat), (∃ w ∈ visits.take rounds, w.route = r) →
          rank r < rank visits[rounds].route := by
        rintro r - ⟨w, hw, rfl⟩
        obtain ⟨j, hj, rfl⟩ := List.mem_take_iff_getElem.1 hw
        have hj' : j < rounds := lt_of_lt_of_le hj (Nat.min_le_left _ _)
        exact List.pairwise_iff_getElem.1 h.ordered j rounds _ hlt hj'
      have hexplores : Explores t (fun r p => (∃ w ∈ visits.take rounds, w.route = r) ∨
          r = visits[rounds].route ∧ p < ([] : List Fallback).length) visits := by
        simpa using h
      obtain ⟨visits', hgrown, hfound', hexplores'⟩ :=
        Explores.expand hlater hexplores hv (List.nil_append _).symm
      refine ⟨visits', hfound', ?_⟩
      obtain ⟨more, rfl⟩ := hgrown
      rw [List.take_append_of_le_length hlt, List.take_succ_eq_append_getElem hlt]
      simp only [List.mem_append, List.mem_singleton, or_and_right, exists_or, exists_eq_left,
        eq_comm (b := visits[rounds].route)] at hexplores' ⊢
      exact hexplores'
    · have hge : visits.length ≤ rounds := Nat.le_of_not_lt hlt
      rw [List.getElem?_eq_none hge, Option.map_none]
      refine ⟨visits, rfl, ?_⟩
      rw [List.take_of_length_le hge] at h
      rw [List.take_of_length_le (Nat.le_succ_of_le hge)]
      exact h

theorem mem_all (t : CanonicalType) : t ∈ all := by cases t <;> decide

/-- Every type is found once at most, so there are no more types to expand than there are. -/
theorem Explores.length_le (h : Explores t Tried visits) : visits.length ≤ all.length := by
  have hnodup : (visits.map (·.found.canonical)).Nodup := List.pairwise_map.2 h.distinct
  have hsubset : visits.map (·.found.canonical) ⊆ all := fun d _ => mem_all d
  have hlength := (List.subperm_of_subset hnodup hsubset).length_le
  rw [List.length_map] at hlength
  exact hlength

/-- **Everything is found**, and on no detour: what a route leads to has been found on a route that
comes no later. -/
theorem Explores.complete (h : Explores t (fun r _ => ∃ v ∈ visits, v.route = r) visits)
    (route : List Nat) : ∀ f, t.LeadsTo route f →
    ∃ v ∈ visits, v.found.canonical = f.canonical ∧ rank v.route ≤ rank route := by
  induction route using List.reverseRecOn with
  | nil =>
    intro f hf
    rw [leadsTo_nil.1 hf]
    exact ⟨_, h.start, rfl, le_refl _⟩
  | append_singleton route place ih =>
    intro f hf
    -- the route without its last turn leads to something that has been found, so the turn can be
    -- taken from there
    obtain ⟨found, step, hfound, hstep, rfl⟩ := leadsTo_append_singleton.1 hf
    obtain ⟨v, hv, hsame, hrank⟩ := ih found hfound
    rw [← hsame] at hstep
    have hleads : t.LeadsTo (v.route ++ [place]) (onward v.found step) :=
      leadsTo_append_singleton.2 ⟨v.found, step, h.leads v hv, hstep, rfl⟩
    obtain ⟨w, hw, hwsame, hwrank⟩ := h.closed v.route place ⟨v, hv, rfl⟩ _ hleads
    exact ⟨w, hw, hwsame, le_trans hwrank (rank_append_le hrank place)⟩

/-- **What the widenings of a type are**: what is found on routes, in their order. -/
theorem widenings_found (t : CanonicalType) :
    ∃ visits : List Visit, visits.map Visit.found = t.widenings ∧
      (∀ v ∈ visits, t.LeadsTo v.route v.found) ∧
      visits.Pairwise (fun v w => rank v.route < rank w.route) ∧
      ∀ route f, t.LeadsTo route f →
        ∃ v ∈ visits, v.found.canonical = f.canonical ∧ rank v.route ≤ rank route := by
  obtain ⟨visits, hfound, h⟩ := t.explores_rounds all.length
  rw [List.take_of_length_le h.length_le] at h
  exact ⟨visits, hfound, h.leads, h.ordered, h.complete⟩

end CanonicalType

/-! ## The native type -/

open CanonicalType (rank)

/-- Of the routes from a type to types that the profile has, this is the first. -/
structure TypeProfile.ReachesFirst (p : TypeProfile) (t : CanonicalType) (route : List Nat)
    (steps : List CanonicalType.Fallback) : Prop where
  steps_eq : t.steps? route = some steps
  has : (p.nativeFor? (t.endOf steps)).isSome = true
  first : ∀ route' steps', t.steps? route' = some steps' → rank route' < rank route →
    p.nativeFor? (t.endOf steps') = none

namespace TypeProfile.ReachesFirst

variable {p : TypeProfile} {t : CanonicalType} {route route' : List Nat}
  {steps steps' : List CanonicalType.Fallback}

/-- No other type that the profile has is closer. -/
theorem rank_le (h : p.ReachesFirst t route steps) (hsteps : t.steps? route' = some steps')
    (hhas : (p.nativeFor? (t.endOf steps')).isSome = true) : rank route ≤ rank route' := by
  by_contra hlt
  rw [h.first route' steps' hsteps (lt_of_not_ge hlt)] at hhas
  cases hhas

/-- There is one route that is first. -/
theorem unique (h : p.ReachesFirst t route steps) (h' : p.ReachesFirst t route' steps') :
    steps = steps' := by
  have hrank := le_antisymm (h.rank_le h'.steps_eq h'.has) (h'.rank_le h.steps_eq h.has)
  have hsteps := h.steps_eq
  rw [CanonicalType.rank_injective hrank, h'.steps_eq] at hsteps
  exact (Option.some.inj hsteps).symm

end TypeProfile.ReachesFirst

namespace TypeConverter

variable {c : TypeConverter} {t : CanonicalType} {info : TypeInfo} {lossy : Bool}

/-- What is found is reached first. -/
theorem targetFor?_reachesFirst (h : c.targetFor? t = some (info, lossy)) :
    ∃ route steps, c.target.ReachesFirst t route steps ∧
      c.target.nativeFor? (t.endOf steps) = some info ∧
      lossy = steps.any CanonicalType.Fallback.lossy := by
  obtain ⟨visits, hfound, hleads, hordered, hcomplete⟩ := t.widenings_found
  unfold targetFor? at h
  rw [← hfound, List.findSome?_map] at h
  obtain ⟨before, v, later, rfl, hv, hbefore⟩ := List.findSome?_eq_some_iff.1 h
  obtain ⟨native, hnative, heq⟩ := Option.map_eq_some_iff.1 hv
  obtain ⟨rfl, rfl⟩ := Prod.mk.inj heq
  obtain ⟨steps, hsteps, hafter⟩ := hleads v (by simp)
  have hend : t.endOf steps = v.found.canonical :=
    congrArg CanonicalType.Fallback.canonical hafter
  have hlossy : steps.any CanonicalType.Fallback.lossy = v.found.lossy :=
    congrArg CanonicalType.Fallback.lossy hafter
  rw [← hend] at hnative
  refine ⟨v.route, steps, ⟨hsteps, by rw [hnative]; rfl, fun route' steps' hsteps' hlt => ?_⟩,
    hnative, hlossy.symm⟩
  -- what an earlier route leads to has been found before
  obtain ⟨w, hw, hsame, hrank⟩ := hcomplete route' _ ⟨steps', hsteps', rfl⟩
  have hwlt : rank w.route < rank v.route := lt_of_le_of_lt hrank hlt
  have hwbefore : w ∈ before := by
    rcases List.mem_append.1 hw with hw | hw
    · exact hw
    · have hlater := (List.pairwise_append.1 hordered).2.1
      rcases List.mem_cons.1 hw with rfl | hw
      · exact absurd hwlt (lt_irrefl _)
      · exact absurd hwlt (lt_asymm (List.rel_of_pairwise_cons hlater hw))
  have hnone := Option.map_eq_none_iff.1 (hbefore w hwbefore)
  rw [hsame] at hnone
  exact hnone

/-- Nothing is found exactly if no route leads to a type that the target has. -/
theorem targetFor?_eq_none :
    c.targetFor? t = none ↔
      ∀ route steps, t.steps? route = some steps → c.target.nativeFor? (t.endOf steps) = none := by
  obtain ⟨visits, hfound, hleads, -, hcomplete⟩ := t.widenings_found
  unfold targetFor?
  rw [← hfound, List.findSome?_map, List.findSome?_eq_none_iff]
  constructor
  · intro hnone route steps hsteps
    obtain ⟨w, hw, hsame, -⟩ := hcomplete route _ ⟨steps, hsteps, rfl⟩
    have hw := Option.map_eq_none_iff.1 (hnone w hw)
    rw [hsame] at hw
    exact hw
  · intro hnone v hv
    obtain ⟨steps, hsteps, hafter⟩ := hleads v hv
    have hend : t.endOf steps = v.found.canonical :=
      congrArg CanonicalType.Fallback.canonical hafter
    have hnative := hnone v.route steps hsteps
    rw [hend] at hnative
    exact Option.map_eq_none_iff.2 hnative

/-- **Widening is exact.** The native type is the one for the end of the first route to a type that
the target has, the type itself if it has that; no other type that it has is fewer steps away. The
result is lossy exactly if a step of this route is. Nothing is found exactly if no route leads to a
type that the target has, and the failure says so. -/
theorem targetFor_finds (c : TypeConverter) (t : CanonicalType) :
    (∀ info lossy, c.targetFor t = .ok (info, lossy) ↔
      ∃ route steps, c.target.ReachesFirst t route steps ∧
        c.target.nativeFor? (t.endOf steps) = some info ∧
        (lossy = true ↔ ∃ step ∈ steps, step.lossy = true)) ∧
    (∀ route steps, c.target.ReachesFirst t route steps →
      ∀ route' steps', t.steps? route' = some steps' →
        (c.target.nativeFor? (t.endOf steps')).isSome = true → route.length ≤ route'.length) ∧
    ∀ e, c.targetFor t = .error e ↔
      e = .noEquivalent c.target.database t.name ∧
        ∀ route steps, t.steps? route = some steps →
          c.target.nativeFor? (t.endOf steps) = none := by
  have hok (info : TypeInfo) (lossy : Bool) :
      c.targetFor t = .ok (info, lossy) ↔ c.targetFor? t = some (info, lossy) := by
    unfold targetFor
    cases c.targetFor? t <;> simp
  refine ⟨fun info lossy => ?_, fun route steps h route' steps' hsteps hhas =>
    CanonicalType.length_le_of_rank_le (h.rank_le hsteps hhas), fun e => ?_⟩
  · rw [hok]
    constructor
    · intro h
      obtain ⟨route, steps, hfirst, hnative, rfl⟩ := targetFor?_reachesFirst h
      exact ⟨route, steps, hfirst, hnative, List.any_eq_true⟩
    · rintro ⟨route, steps, hfirst, hnative, hlossy⟩
      cases hfound : c.targetFor? t with
      | none =>
        rw [targetFor?_eq_none.1 hfound route steps hfirst.steps_eq] at hnative
        cases hnative
      | some found =>
        obtain ⟨info', lossy'⟩ := found
        obtain ⟨route', steps', hfirst', hnative', rfl⟩ := targetFor?_reachesFirst hfound
        -- the first route is unique, and so are the native type and the loss
        obtain rfl := hfirst.unique hfirst'
        rw [hnative] at hnative'
        obtain rfl := Option.some.inj hnative'
        have hsame : lossy = steps.any CanonicalType.Fallback.lossy := by
          rw [Bool.eq_iff_iff, hlossy, List.any_eq_true]
        rw [hsame]
  · rw [← targetFor?_eq_none]
    unfold targetFor
    cases c.targetFor? t <;> simp [eq_comm]

end TypeConverter

end SchemaConversion
