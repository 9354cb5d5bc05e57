import Mathlib.Data.List.MinMax
import Oxid.Lease
import Oxid.Wallet.Realm.Reconciliation

/-!
# Single flight

The coordinator of a realm is a pool of leases whose generation is the revision: every
transition is a few moves of that pool (`run_moves`), which issue the effects it emits and
redeem the one it accepts (`outputs_moves`).
-/

namespace Oxid.Wallet.Realm
open Transition Lease CoordinatorState Option List UInt64 Realm

/-! ## The coordinator as a pool of leases -/

def CoordinatorInput.settled : CoordinatorInput → Option CoordinatorEffect
  | .effectCompleted effect _ | .effectExpired effect => some effect
  | .reconcile _ | .observe _ | .cancel => none

open CoordinatorInput

def accepted (state : CoordinatorState) (input : CoordinatorInput) : List CoordinatorEffect :=
  match input.settled with
  | some effect => if state.accepts effect then [effect] else []
  | none => []

def emitted (state : CoordinatorState) (input : CoordinatorInput) : List CoordinatorEffect :=
  (reduce state input).effects

def revised (state : CoordinatorState) (input : CoordinatorInput) : List UInt64 :=
  if (reduce state input).state.revision = state.revision then []
  else [(reduce state input).state.revision]

def coordinate (state : CoordinatorState) (input : CoordinatorInput) : Option CoordinatorState :=
  some (reduce state input).state

def CoordinatorState.pool (state : CoordinatorState) : Lease.Pool ReconciliationEffect :=
  ⟨state.revision.toNat, {kind | state.leases.active kind}⟩

def CoordinatorEffect.ticket (effect : CoordinatorEffect) : Lease.Ticket ReconciliationEffect :=
  ⟨effect.revision.toNat, effect.kind⟩

open CoordinatorEffect

def issues (effects : List CoordinatorEffect) : List (Lease.Move ReconciliationEffect) :=
  if effects = [] then [] else [.issue (effects.map (·.kind))]

def revokes (state : CoordinatorState) : CoordinatorInput → List (Lease.Move ReconciliationEffect)
  | .cancel => if state.hasActiveLeases then [.revoke] else []
  | _ => []

def moves (state : CoordinatorState) (input : CoordinatorInput) :
    List (Lease.Move ReconciliationEffect) :=
  (accepted state input).map (.redeem ·.kind) ++ issues (emitted state input) ++
    revokes state input

def RevisionFits (state : CoordinatorState) (input : CoordinatorInput) : Prop :=
  (reduce state input).state.revision ≠ state.revision → state.revision.toNat + 1 < 2 ^ 64

section Pool
variable {state : CoordinatorState} {trigger : ReconciliationTrigger} {effect : CoordinatorEffect}
  {facet : FacetState} {input : CoordinatorInput} {revision : UInt64}

theorem nextRevision_ne (revision : UInt64) : nextRevision revision ≠ revision := by
  have hlt := revision.toNat_lt
  rw [nextRevision]
  split_ifs with h
  · rintro heq
    rw [← heq] at h
    exact absurd h (by decide)
  · intro heq
    have := congrArg toNat heq
    rw [UInt64.toNat_add] at this
    simp at this
    omega

theorem toNat_nextRevision (h : revision.toNat + 1 < 2 ^ 64) :
    (nextRevision revision).toNat = revision.toNat + 1 := by
  have hsum : (revision + 1).toNat = revision.toNat + 1 := by
    rw [UInt64.toNat_add, UInt64.toNat_one]
    exact Nat.mod_eq_of_lt h
  have hne : ¬ (revision + 1 == 0) := by
    rw [beq_iff_eq, ← UInt64.toNat_inj, hsum]
    simp
  rw [nextRevision]
  simp only [hne]
  exact hsum

theorem live_pool_eq_empty (h : state.hasActiveLeases = false) : state.pool.live = ∅ := by
  ext kind
  simp [pool, hasActiveLeases_eq_false_iff.mp h kind]

theorem settled_eq_report (input : CoordinatorInput) :
    input.settled = input.report.map Prod.fst := by
  cases input <;> rfl

theorem accepted_of_report (h : input.report = some (effect, facet)) :
    accepted state input = if state.accepts effect then [effect] else [] := by
  rw [accepted, settled_eq_report, h]
  rfl

theorem revokes_of_report (h : input.report = some (effect, facet)) : revokes state input = [] := by
  cases input with
  | cancel => cases h
  | _ => rfl

theorem reconcile_revision (h : state.hasActiveLeases = false) :
    (reconcile state trigger).state.revision = state.revision ∨
      (reconcile state trigger).state.revision = nextRevision state.revision := by
  obtain ⟨-, hrec⟩ | ⟨-, hrec⟩ := reconcile_cases h trigger
  · exact .inl (by rw [hrec]; rfl)
  · exact .inr (by rw [hrec, frame_foldl_lease.1])

theorem Reduction.revision_cases {t} (h : Reduction state input t) :
    t.state.revision = state.revision ∨ t.state.revision = nextRevision state.revision := by
  cases h with
  | planned _ idle => exact reconcile_revision idle
  | ended _ _ idle =>
    cases state.pendingTrigger with
    | none => exact .inl rfl
    | some => exact reconcile_revision idle
  | retained | refused | released | observed => exact .inl rfl
  | cancelled =>
    rw [cancel]
    split_ifs
    · exact .inr rfl
    · exact .inl rfl

theorem run_reconcile (h : state.hasActiveLeases = false)
    (hfits : (reconcile state trigger).state.revision ≠ state.revision →
      state.revision.toNat + 1 < 2 ^ 64) :
    run step state.pool (issues (reconcile state trigger).effects) =
      some (reconcile state trigger).state.pool := by
  obtain ⟨-, hrec⟩ | ⟨hplan, hrec⟩ := reconcile_cases h trigger
  · simp [hrec, unchanged, issues]
  · have hfits := hfits (by rw [hrec, frame_foldl_lease.1]; exact nextRevision_ne _)
    have hkinds : (reconcile state trigger).effects.map (·.kind) = plan trigger state.facets := by
      simp [hrec, Function.comp_def]
    have hne : (reconcile state trigger).effects ≠ [] := by simpa [hrec] using hplan
    rw [issues, if_neg hne, run_cons, hkinds,
      step_issue (live_pool_eq_empty h) (plan_nodup trigger state.facets),
      bind_some, run_nil, some.injEq, hrec]
    ext kind
    · simp [pool, toNat_nextRevision hfits]
    · simp [pool, active_foldl_lease]

theorem run_redeem (h : state.accepts effect) (report : input.report = some (effect, facet))
    (effects : List CoordinatorEffect) :
    run step state.pool ((accepted state input).map (.redeem ·.kind) ++ issues effects ++
        revokes state input) =
      run step (release state effect.kind facet).pool (issues effects) := by
  have hlive : effect.kind ∈ state.pool.live := by
    simp only [accepts, Bool.and_eq_true] at h
    exact h.2
  have hpool : ({ state.pool with live := state.pool.live \ {effect.kind} } : Lease.Pool _) =
      (release state effect.kind facet).pool := by
    ext kind
    · rfl
    · by_cases hk : kind = effect.kind <;> simp [pool, release, hk]
  simp [accepted_of_report report, revokes_of_report report, h, step_redeem hlive, hpool]

/-- **A transition is a few moves of the pool.** -/
theorem run_moves (hfits : RevisionFits state input) :
    run step state.pool (moves state input) = some (reduce state input).state.pool := by
  have hr := reduction_reduce state input
  rw [RevisionFits] at hfits
  rw [moves, emitted]
  generalize reduce state input = t at hr hfits ⊢
  cases hr with
  | planned _ idle => simpa [accepted, settled, revokes] using run_reconcile idle hfits
  | retained => simp [accepted, settled, unchanged, issues, revokes, pool]
  | refused report refused =>
    simp [accepted_of_report report, revokes_of_report report, refused, unchanged, issues]
  | released report accepted =>
    rw [run_redeem accepted report]
    rfl
  | ended report accepted idle =>
    rw [run_redeem accepted report]
    cases hpending : state.pendingTrigger with
    | none => rfl
    | some =>
      rw [hpending] at hfits
      exact run_reconcile idle hfits
  | observed => simp [accepted, settled, observe, unchanged, issues, revokes, pool]
  | cancelled =>
    cases hactive : state.hasActiveLeases with
    | true =>
      have hcancel : (cancel state).state.revision = nextRevision state.revision := by
        simp [cancel, hactive, unchanged]
      have hfits := hfits (by rw [hcancel]; exact nextRevision_ne _)
      simp [accepted, settled, cancel, hactive, unchanged, issues, revokes,
        step_revoke, pool, toNat_nextRevision hfits]
    | false => simp [accepted, settled, cancel, hactive, unchanged, issues, revokes]

theorem accepted_cases (state : CoordinatorState) (input : CoordinatorInput) :
    accepted state input = [] ∨ ∃ effect, accepted state input = [effect] ∧
      input.settled = some effect ∧ state.accepts effect := by
  rw [accepted]
  cases input.settled with
  | none => exact .inl rfl
  | some effect =>
    by_cases h : state.accepts effect
    · exact .inr ⟨effect, if_pos h, rfl, h⟩
    · exact .inl (if_neg h)

theorem reduce_starts (h : emitted state input ≠ []) :
    ∃ idle trigger, reduce state input = reconcile idle trigger ∧
      idle.hasActiveLeases = false ∧ idle.revision = state.revision ∧
      ∀ kind, state.leases.active kind → input.settled = some ⟨state.revision, kind⟩ := by
  have hr := reduction_reduce state input
  rw [emitted] at h
  generalize reduce state input = t at hr h ⊢
  cases hr with
  | planned trigger idle =>
    refine ⟨state, trigger, rfl, idle, rfl, ?_⟩
    intro kind hkind
    rw [hasActiveLeases_eq_false_iff.mp idle kind] at hkind
    cases hkind
  | @ended _ effect _ report accepted idle =>
    cases hpending : state.pendingTrigger with
    | none =>
      rw [hpending] at h
      exact absurd rfl h
    | some trigger =>
      refine ⟨_, trigger, rfl, idle, rfl, ?_⟩
      intro kind hkind
      -- the only lease there was is the one that ended
      have hother := hasActiveLeases_eq_false_iff.mp idle kind
      simp only [accepts, Bool.and_eq_true, beq_iff_eq] at accepted
      by_cases hk : kind = effect.kind
      · rw [settled_eq_report, report, hk, ← accepted.1]
        rfl
      · simp [ended, release, hk, hkind] at hother
  | retained | refused | released | observed => exact absurd rfl h
  | cancelled =>
    rw [cancel] at h
    split_ifs at h <;> exact absurd rfl h

theorem emitted_revision (state : CoordinatorState) (input : CoordinatorInput) :
    ((emitted state input).map (·.kind)).Nodup ∧
      ∀ e ∈ emitted state input, e.revision = nextRevision state.revision ∧
        e.revision = (reduce state input).state.revision := by
  by_cases h : emitted state input = []
  · simp [h]
  · obtain ⟨idle, trigger, heq, hidle, hrev, _⟩ := reduce_starts h
    rw [emitted, heq, ← hrev]
    obtain ⟨-, hrec⟩ | ⟨-, hrec⟩ := reconcile_cases hidle trigger
    · simp [hrec, unchanged]
    · simp [hrec, Function.comp_def, plan_nodup]

theorem outputs_revokes {p} : outputs step issued p (revokes state input) = [] ∧
      outputs step redeemed p (revokes state input) = [] := by
  cases input with
  | cancel =>
    cases h : state.hasActiveLeases <;> simp [revokes, h, outputs, issued, redeemed, step_revoke]
  | _ => simp [revokes]

theorem outputs_issues {p} (hfits : RevisionFits state input)
    (hp : p.generation = state.revision.toNat) :
    outputs step issued p (issues (emitted state input) ++ revokes state input) =
        (emitted state input).map (·.ticket) ∧
      outputs step redeemed p (issues (emitted state input) ++ revokes state input) = [] := by
  by_cases h : emitted state input = []
  · simp [issues, h, outputs_revokes]
  · have htickets : (emitted state input).map (·.ticket) =
        ((emitted state input).map (·.kind)).map (⟨p.generation + 1, ·⟩) := by
      rw [List.map_map]
      refine map_congr_left fun e he => ?_
      have hrev := (emitted_revision state input).2 e he
      have hlt := hfits (by rw [← hrev.2, hrev.1]; exact nextRevision_ne _)
      simp [ticket, hrev.1, toNat_nextRevision hlt, hp]
    rw [issues, if_neg h, htickets]
    cases hq : step p (.issue ((emitted state input).map (·.kind))) with
    | none => simp [outputs, hq, issued, redeemed]
    | some => simp [outputs, hq, issued, redeemed, outputs_revokes]

theorem outputs_moves (hfits : RevisionFits state input) :
    outputs step issued state.pool (moves state input) = (emitted state input).map (·.ticket) ∧
      outputs step redeemed state.pool (moves state input) =
        (accepted state input).map (·.ticket) := by
  obtain haccepted | ⟨effect, haccepted, _, haccepts⟩ := accepted_cases state input
  · rw [moves, haccepted, map_nil, nil_append]
    exact outputs_issues hfits rfl
  · simp only [accepts, Bool.and_eq_true, beq_iff_eq] at haccepts
    have hlive : effect.kind ∈ state.pool.live := haccepts.2
    have hrest := outputs_issues hfits
      (p := { state.pool with live := state.pool.live \ {effect.kind} }) rfl
    have hticket : effect.ticket = ⟨state.pool.generation, effect.kind⟩ := by
      rw [ticket, haccepts.1]
      rfl
    simp [moves, haccepted, outputs, step_redeem hlive, hrest, issued, redeemed, hticket]

end Pool

section Runs
variable {facets : ReconciliationState} {inputs before after : List CoordinatorInput}
  {input : CoordinatorInput} {state : CoordinatorState}

theorem toNat_revision_eq (h : run coordinate (.new facets) inputs = some state)
    (hlen : (outputs coordinate revised (.new facets) inputs).length < 2 ^ 64 - 1) :
    state.revision.toNat = (outputs coordinate revised (.new facets) inputs).length := by
  refine run_induction (motive := fun inputs state =>
    (outputs coordinate revised (.new facets) inputs).length < 2 ^ 64 - 1 →
      state.revision.toNat = (outputs coordinate revised (.new facets) inputs).length)
    (fun _ => rfl) ?_ inputs state h hlen
  intro inputs p input q hp ih hstep hlen
  rw [outputs_concat hp, length_append] at hlen ⊢
  obtain rfl : (reduce p input).state = q := some.inj hstep
  by_cases hsame : (reduce p input).state.revision = p.revision
  · simp only [revised, hsame, if_true, length_nil] at hlen ⊢
    exact ih hlen
  · simp only [revised, hsame, if_false, length_singleton] at hlen ⊢
    have ih := ih (by omega)
    rw [(reduction_reduce p input).revision_cases.resolve_left hsame, toNat_nextRevision (by omega),
      ih]

theorem everyStep_revisionFits
    (hlen : (outputs coordinate revised (.new facets) inputs).length < 2 ^ 64 - 1) :
    EveryStep coordinate RevisionFits (.new facets) inputs := by
  rintro before input after p rfl hp hchanged
  have hsplit : before ++ input :: after = (before ++ [input]) ++ after := by simp
  have hq : run coordinate (.new facets) (before ++ [input]) = some (reduce p input).state :=
    run_concat_eq_some.mpr ⟨p, hp, rfl⟩
  rw [hsplit, outputs_append hq, outputs_concat hp, length_append, length_append] at hlen
  simp only [revised, hchanged, if_false, length_singleton] at hlen
  rw [toNat_revision_eq hp (by omega)]
  omega

theorem run_coherent (h : run coordinate (.new facets) inputs = some state) : state.Coherent :=
  run_invariant (new_coherent facets)
    (fun _ input _ hp hstep => some.inj hstep ▸ reduce_coherent hp input) h

theorem run_pool (hfits : EveryStep coordinate RevisionFits (.new facets) inputs)
    (h : run coordinate (.new facets) inputs = some state) : run step (new facets).pool
        (outputs coordinate moves (.new facets) inputs) = some state.pool :=
  run_outputs (fun _ _ _ hC hstep => some.inj hstep ▸ run_moves hC) hfits h

theorem outputs_pool (hfits : EveryStep coordinate RevisionFits (.new facets) inputs)
    (h : run coordinate (.new facets) inputs = some state) : outputs step issued (new facets).pool
          (outputs coordinate moves (.new facets) inputs) =
        (outputs coordinate emitted (.new facets) inputs).map (·.ticket) ∧
      outputs step redeemed (new facets).pool (outputs coordinate moves (.new facets) inputs) =
        (outputs coordinate accepted (.new facets) inputs).map (·.ticket) := by
  have next : ∀ p i q, RevisionFits p i → coordinate p i = some q →
      run step p.pool (moves p i) = some q.pool :=
    fun _ _ _ hC hstep => some.inj hstep ▸ run_moves hC
  exact ⟨outputs_of_run_outputs next (fun _ _ hC => (outputs_moves hC).1) hfits h,
    outputs_of_run_outputs next (fun _ _ hC => (outputs_moves hC).2) hfits h⟩

theorem exists_run_coordinate (s : CoordinatorState) (inputs : List CoordinatorInput) :
    ∃ t, run coordinate s inputs = some t := by
  induction inputs generalizing s with
  | nil => exact ⟨s, rfl⟩
  | cons input _ ih => exact ih (reduce s input).state

theorem ticket_injective : Function.Injective ticket := by
  intro e e' h
  have hrev := congrArg Lease.Ticket.generation h
  have hkind := congrArg Lease.Ticket.key h
  cases e
  cases e'
  simp_all [ticket, UInt64.toNat_inj]

structure EmitsFresh (facets : ReconciliationState) (before : List CoordinatorInput)
    (state : CoordinatorState) (input : CoordinatorInput) : Prop where
  ends : emitted state input ≠ [] →
    ∀ kind, state.leases.active kind → input.settled = some ⟨state.revision, kind⟩
  shared : ∀ e ∈ emitted state input, e.revision = (reduce state input).state.revision
  untaken : ∀ earlier rest p, before = earlier ++ rest →
    run coordinate (.new facets) earlier = some p →
      ∀ e ∈ emitted state input, p.revision < e.revision
  unused : ∀ e ∈ emitted state input,
    ∀ e' ∈ outputs coordinate emitted (.new facets) before, e'.revision < e.revision
  distinct : ((emitted state input).map (·.kind)).Nodup

theorem emitsFresh (hfits : EveryStep coordinate RevisionFits (.new facets) (before ++ [input]))
    (h : run coordinate (.new facets) before = some state) :
    EmitsFresh facets before state input := by
  have hnext : ∀ e ∈ emitted state input, e.revision.toNat = state.revision.toNat + 1 := by
    intro e he
    have hrev := (emitted_revision state input).2 e he
    have hlt := hfits.last h (by rw [← hrev.2, hrev.1]; exact nextRevision_ne _)
    rw [hrev.1, toNat_nextRevision hlt]
  refine ⟨?_, ?_, ?_, ?_, (emitted_revision state input).1⟩
  · intro hne
    obtain ⟨_, _, _, _, _, hlast⟩ := reduce_starts hne
    exact hlast
  · intro e he
    exact ((emitted_revision state input).2 e he).2
  · intro earlier rest p hsplit hp e he
    subst hsplit
    rw [run_append, hp] at h
    -- from the earlier state the pool's generation has only grown
    have hfits' : EveryStep coordinate RevisionFits p rest := hfits.of_concat.of_append_run hp
    have hle := generation_le_of_run
      (run_outputs (fun _ _ _ hC hstep => some.inj hstep ▸ run_moves hC) hfits' h)
    have heq := hnext e he
    rw [lt_iff_toNat_lt]
    exact heq ▸ Nat.lt_succ_of_le hle
  · intro e he e' he'
    have hissued := (outputs_pool hfits.of_concat h).1
    have hle := issued_le (t := e'.ticket) (run_pool hfits.of_concat h)
      (hissued ▸ mem_map_of_mem he')
    have heq := hnext e he
    rw [lt_iff_toNat_lt]
    exact heq ▸ Nat.lt_succ_of_le hle

/-- **Single flight**, along any inputs that take fewer than 2⁶⁴ − 1 revisions: effects are emitted
when no lease is left, with one new revision and distinct kinds; an effect is accepted at most once,
and only if it was emitted; and reporting one that is not leased changes nothing. -/
theorem coordinator_single_flight (facets : ReconciliationState) (inputs : List CoordinatorInput)
    (hrevisions : (outputs coordinate revised (.new facets) inputs).length < 2 ^ 64 - 1) :
    (∀ before after state, inputs = before ++ after →
      run coordinate (.new facets) before = some state → state.Coherent) ∧
    (∀ before input after state, inputs = before ++ input :: after →
      run coordinate (.new facets) before = some state → EmitsFresh facets before state input ∧
        ∀ effect, input.settled = some effect → state.accepts effect = false →
          reduce state input = unchanged state) ∧
    (outputs coordinate accepted (.new facets) inputs).Nodup ∧
    outputs coordinate accepted (.new facets) inputs ⊆
      outputs coordinate emitted (.new facets) inputs := by
  have hfits := everyStep_revisionFits hrevisions
  obtain ⟨last, hlast⟩ := exists_run_coordinate (.new facets) inputs
  have hpool := run_pool hfits hlast
  obtain ⟨hissued, hredeemed⟩ := outputs_pool hfits hlast
  refine ⟨?_, ?_, ?_, ?_⟩
  · intro before after state _ hrun
    exact run_coherent hrun
  · intro before input after state hsplit hrun
    refine ⟨emitsFresh ?_ hrun, ?_⟩
    · rw [hsplit, append_cons] at hfits
      exact hfits.of_append
    · intro effect hsettled hrejected
      cases input with
      | effectCompleted =>
        cases hsettled
        exact settleEffect_of_not_accepts hrejected
      | effectExpired =>
        cases hsettled
        exact settleEffect_of_not_accepts hrejected
      | _ => cases hsettled
  · exact List.Nodup.of_map _ (hredeemed ▸ redeemed_nodup hpool)
  · intro effect heffect
    have hnone : (new facets).pool.live = ∅ := live_pool_eq_empty rfl
    have hsubset := redeemed_subset_issued hnone hpool
    rw [hissued, hredeemed] at hsubset
    obtain ⟨e, he, heq⟩ := mem_map.mp (hsubset (mem_map_of_mem heffect))
    exact ticket_injective heq ▸ he

/-- A run that accepts one effect, refuses its second completion and is cancelled. -/
theorem single_flight_cancelled_run :
    outputs coordinate accepted (.new ⟨.stale, .missing, .current⟩)
        [.reconcile .initial, .effectCompleted ⟨1, .syncAccount⟩ .current,
          .effectCompleted ⟨1, .syncAccount⟩ .stale, .cancel] = [⟨1, .syncAccount⟩] ∧
      (outputs coordinate accepted (.new ⟨.stale, .missing, .current⟩)
        [.reconcile .initial, .effectCompleted ⟨1, .syncAccount⟩ .current,
          .effectCompleted ⟨1, .syncAccount⟩ .stale, .cancel]).Nodup :=
  ⟨by decide, (coordinator_single_flight ⟨.stale, .missing, .current⟩
    [.reconcile .initial, .effectCompleted ⟨1, .syncAccount⟩ .current,
      .effectCompleted ⟨1, .syncAccount⟩ .stale, .cancel] (by decide)).2.2.1⟩

end Runs

/-! ## What is asked for while leases are active -/

/-- The coordinator with what its inputs were: the facets at the moment the lease set was
created, and the triggers asked for since. -/
structure Watched where
  state : CoordinatorState
  origin : ReconciliationState
  requested : List ReconciliationTrigger

namespace Watched

def asked : CoordinatorInput → List ReconciliationTrigger
  | .reconcile trigger => [trigger]
  | _ => []

def reported (facets : ReconciliationState) (input : CoordinatorInput) : ReconciliationState :=
  input.report.elim facets fun report => facets.set report.1.kind report.2

def next (w : Watched) (input : CoordinatorInput) : Watched :=
  let t := reduce w.state input
  if t.effects = [] then ⟨t.state, w.origin, w.requested ++ asked input⟩
  else ⟨t.state, reported w.state.facets input, []⟩

def along (facets : ReconciliationState) (inputs : List CoordinatorInput) : Watched :=
  inputs.foldl next ⟨.new facets, facets, []⟩

structure Faithful (w : Watched) : Prop where
  coherent : w.state.Coherent
  leased : w.state.hasActiveLeases →
    w.state.pendingTrigger = w.requested.argmax triggerPriority ∧
      w.state.leasedFrom = some w.origin

variable {w : Watched} {state : CoordinatorState} {input : CoordinatorInput}

theorem asked_of_report {report} (h : input.report = some report) : asked input = [] := by
  cases input with
  | reconcile => cases h
  | _ => rfl

theorem faithful_idle {origin requested} (h : state.Coherent)
    (hidle : state.hasActiveLeases = false) : Faithful ⟨state, origin, requested⟩ := by
  refine ⟨h, fun hactive => ?_⟩
  rw [hidle] at hactive
  cases hactive

theorem cancel_idle (state : CoordinatorState) : (cancel state).state.hasActiveLeases = false := by
  rw [cancel]
  split_ifs with hactive
  · rfl
  · exact Bool.eq_false_iff.mpr hactive

theorem faithful_reconcile {trigger origin requested} (hidle : state.hasActiveLeases = false)
    (h : state.Coherent) : let t := reconcile state trigger
    Faithful (if t.effects = [] then ⟨t.state, origin, requested⟩
      else ⟨t.state, state.facets, []⟩) := by
  obtain ⟨-, hrec⟩ | ⟨hplan, hrec⟩ := reconcile_cases hidle trigger
  · rw [hrec]
    exact faithful_idle h hidle
  · have hcoherent : (reconcile state trigger).state.Coherent := reconcile_coherent hidle h
    rw [hrec] at hcoherent
    simp only [hrec, map_eq_nil_iff, hplan, if_false]
    exact ⟨hcoherent, fun _ => by simp⟩

theorem Faithful.next (h : w.Faithful) (input : CoordinatorInput) : (w.next input).Faithful := by
  have hr := reduction_reduce w.state input
  have hcoherent := reduce_coherent h.coherent input
  rw [Watched.next]
  generalize reduce w.state input = t at hr hcoherent ⊢
  cases hr with
  | planned trigger idle => exact faithful_reconcile idle h.coherent
  | retained trigger pending active highest =>
    obtain ⟨hpending, horigin⟩ := h.leased active
    refine ⟨hcoherent, fun _ => ⟨?_, horigin⟩⟩
    change some pending = (w.requested ++ [trigger]).argmax triggerPriority
    rw [argmax_concat, ← hpending, highest]
    cases w.state.pendingTrigger with
    | none => rfl
    | some =>
      simp only [elim_some, ge_iff_le]
      split_ifs with hle hlt hlt
      · exact absurd hle (not_le.mpr hlt)
      · rfl
      · rfl
      · exact absurd (not_lt.mp hlt) hle
  | refused report =>
    rw [asked_of_report report, append_nil]
    exact h
  | released report accepted =>
    rw [asked_of_report report, append_nil]
    exact ⟨hcoherent, fun _ => h.leased (hasActiveLeases_of_accepts accepted)⟩
  | ended report accepted idle =>
    have hended := coherent_of_inactive idle rfl rfl
    rw [reported, report]
    cases w.state.pendingTrigger with
    | none => exact faithful_idle hended idle
    | some => exact faithful_reconcile idle hended
  | observed =>
    simp only [asked, append_nil]
    exact ⟨hcoherent, h.leased⟩
  | cancelled =>
    have hquiet : (cancel w.state).effects = [] := by
      rw [cancel]
      split_ifs <;> rfl
    rw [hquiet]
    exact faithful_idle hcoherent (cancel_idle w.state)

theorem faithful_along (facets : ReconciliationState) (inputs : List CoordinatorInput) :
    (along facets inputs).Faithful := by
  induction inputs using reverseRecOn with
  | nil => exact faithful_idle (new_coherent facets) rfl
  | append_singleton inputs input ih =>
    rw [along, foldl_concat]
    exact ih.next input

theorem run_along (facets : ReconciliationState) (inputs : List CoordinatorInput) :
    run coordinate (.new facets) inputs = some (along facets inputs).state := by
  induction inputs using reverseRecOn with
  | nil => rfl
  | append_singleton inputs input ih =>
    have hnext : along facets (inputs ++ [input]) = (along facets inputs).next input :=
      foldl_concat ..
    rw [hnext, run_append, ih, bind_some, Watched.next]
    split_ifs <;> rfl

/-- **No request is lost.**  After any inputs: a report that ends the last lease starts what
the highest of the triggers asked for since the leases were taken plans for the facets of that
moment; and a cancellation sets the facets still leased back to where the leases were
taken, and no others. -/
theorem request_resumed_and_cancel_restores (facets : ReconciliationState)
    (inputs : List CoordinatorInput) : let w := along facets inputs
    run coordinate (.new facets) inputs = some w.state ∧
    (∀ input effect facet, input.report = some (effect, facet) → w.state.accepts effect →
      (∀ kind, w.state.leases.active kind → kind = effect.kind) →
      emitted w.state input = (w.requested.argmax triggerPriority).elim [] fun trigger =>
        (plan trigger (w.state.facets.set effect.kind facet)).map
          (⟨nextRevision w.state.revision, ·⟩)) ∧
    (∀ kind, (cancel w.state).state.facets.facet kind =
      if w.state.leases.active kind then w.origin.facet kind else w.state.facets.facet kind) ∧
    (cancel w.state).state.hasActiveLeases = false ∧
    (cancel w.state).state.pendingTrigger = none := by
  intro w
  have h : w.Faithful := faithful_along facets inputs
  refine ⟨run_along facets inputs, ?_, ?_, ?_⟩
  · intro input effect facet report haccepts hlast
    have hlast : (release w.state effect.kind facet).hasActiveLeases = false := by
      refine hasActiveLeases_eq_false_iff.mpr fun kind => ?_
      by_cases hk : kind = effect.kind
      · simp [release, hk]
      · simpa [release, hk] using mt (hlast kind) hk
    rw [← (h.leased (hasActiveLeases_of_accepts haccepts)).1, emitted]
    have hr := reduction_reduce w.state input
    generalize reduce w.state input = t at hr ⊢
    cases hr with
    | planned | retained | observed | cancelled => cases report
    | refused report' refused =>
      rw [report] at report'
      cases report'
      rw [haccepts] at refused
      cases refused
    | released report' _ active =>
      rw [report] at report'
      cases report'
      rw [hlast] at active
      cases active
    | ended report' _ idle =>
      rw [report] at report'
      cases report'
      cases w.state.pendingTrigger with
      | none => rfl
      | some trigger => exact effects_reconcile idle trigger
  · intro kind
    rw [cancel]
    split_ifs with hactive hkind hkind
    · rw [(h.leased hactive).2]
      cases kind <;> exact if_pos hkind
    · rw [(h.leased hactive).2]
      cases kind <;> exact if_neg hkind
    · exact absurd (hasActiveLeases_iff.mpr ⟨kind, hkind⟩) hactive
    · rfl
  · exact ⟨cancel_idle w.state,
      (reduce_coherent h.coherent .cancel).pendingTrigger_eq_none (cancel_idle w.state)⟩

/-- A refresh asked for while two leases were active starts when the second has expired. -/
theorem manual_refresh_resumed :
    emitted (along ⟨.stale, .missing, .current⟩ [.reconcile .initial, .reconcile .manualRefresh,
        .effectCompleted ⟨1, .syncAccount⟩ .current]).state (.effectExpired ⟨1, .syncDust⟩) =
      [⟨2, .syncAccount⟩, ⟨2, .syncDust⟩, ⟨2, .syncShielded⟩] :=
  (request_resumed_and_cancel_restores ⟨.stale, .missing, .current⟩ [.reconcile .initial,
    .reconcile .manualRefresh, .effectCompleted ⟨1, .syncAccount⟩ .current]).2.1
    (.effectExpired ⟨1, .syncDust⟩) ⟨1, .syncDust⟩ .stale rfl (by decide)
    fun kind => by cases kind <;> decide

end Watched
end Oxid.Wallet.Realm
