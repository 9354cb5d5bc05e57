import Oxid.Wallet.DustRegistration.Evidence

/-!
# State and evidence stay coherent

`Coherent` holds of the default projection and survives every step: each arm of
the main match, the shortcuts on the parked registration, and the swap that
brings a parked registration back.  So it holds of every reachable projection.
-/

namespace Oxid.Wallet.DustRegistration

open Projection Option Bool

section Preservation
variable {p q : Projection} {e : Event}

theorem Coherent.cover (h : Coherent p) (hid : p.identity ≠ none) {k} (hk : k.isRecoverable)
    (hset : p.effectiveState.isSettled) (r : UInt64) : Coherent (p.covered k r) where
  fresh := fun hn => absurd hn hid
  overlay := hk.symm
  settled := by
    intro s hs
    rw [← some.inj hs]
    exact hset
  active := h.active
  parked := h.parked
  supported := by
    rw [effectiveState_covered hk]
    exact (supports_congr (p := p) rfl rfl rfl _).mpr h.supported
  checkpointed := h.checkpointed
  retry := by intro m hm; cases hm

theorem Coherent.uncover (h : Coherent p) (hid : p.identity ≠ none)
    (hrec : p.effectiveState.isRecoverable = false) {r pending}
    (hahead : ∀ m, pending = some m → r < m) : Coherent (p.uncovered r pending) where
  fresh := fun hn => absurd hn hid
  overlay := hrec.symm
  settled := by intro s hs; cases hs
  active := h.active
  parked := h.parked
  supported := by
    rw [effectiveState_uncovered hrec]
    exact (supports_congr (p := p) rfl rfl rfl _).mpr h.supported
  checkpointed := h.checkpointed
  retry := fun m hm => ⟨hahead m hm, hrec⟩

theorem Coherent.retire (h : Coherent p) (hid : p.identity ≠ none) {s}
    (hs : s = .cancelled ∨ s = .unavailable) (hactive : ∀ r, q.registration = some r → r.WellFormed)
    (hparked : ∀ r, q.abandonedRegistration = some r → r.WellFormed)
    (hi : q.identity = p.identity := by rfl) (hc : q.checkpoint = p.checkpoint := by rfl)
    (hr : q.recoveryRevision = p.recoveryRevision := by rfl)
    (hm : q.pendingRetryRevision = p.pendingRetryRevision := by rfl) : Coherent (q.setState s) := by
  have hrec : s.isRecoverable = false := by rcases hs with rfl | rfl <;> rfl
  exact {
    fresh := fun hn => absurd (hi.symm.trans hn) hid
    overlay := hrec.symm
    settled := by intro s' hs'; cases hs'
    active := hactive
    parked := hparked
    supported := by
      rw [effectiveState_of_not_recoverable (p := q.setState s) hrec]
      rcases hs with rfl | rfl <;> trivial
    checkpointed := by
      intro i hi'
      obtain ⟨c, hcp, hci⟩ := h.checkpointed i (hi ▸ hi')
      exact ⟨c, hc.trans hcp, hci⟩
    retry := by
      intro m hm'
      have := (h.retry m (hm ▸ hm')).1
      exact ⟨hr ▸ this, hrec⟩ }

theorem Coherent.applyEligibility_eq (h : Coherent p) (c : Checkpoint) (b : Bool) :
    { p with checkpoint := some c }.applyEligibility b =
      { p with checkpoint := some c }.setEffectiveState
        (applyEligibilityTo b p.effectiveState) := by
  cases hr : p.state.isRecoverable with
  | true => simp [applyEligibility, Projection.setEffectiveState, hr, h.resumeState_eq_some hr]
  | false =>
    simp [applyEligibility, Projection.setEffectiveState, hr, setState,
      h.resumeState_eq_none hr, effectiveState_of_not_recoverable hr]

theorem isSettled_applyEligibilityTo {s} (hs : s.isSettled) (b : Bool) :
    (applyEligibilityTo b s).isSettled := by
  cases s <;> cases b <;> first | rfl | cases hs

theorem supports_applyEligibilityTo {s} (i : Identity) (r : UInt64) (b : Bool)
    (hsup : p.Supports s) :
    { p with checkpoint := some ⟨i, r, b⟩ }.Supports (applyEligibilityTo b s) := by
  cases s with
  | notEligible | actionRequired => cases b <;> exact ⟨rfl, hsup.2⟩
  | _ => exact hsup

theorem isSettled_trackedState (r : Registration) : r.trackedState.isSettled := by
  rcases r.trackedState_cases with h | h | h <;> rw [h] <;> rfl

theorem supports_trackedState {r} (hr : p.registration = some r)
    (hs : r.authorizationPhase = .submitted) : p.Supports r.trackedState := by
  have htracks : p.Tracks r.trackedState := ⟨r, hr, hs, rfl⟩
  rcases r.trackedState_cases with h | h | h <;> rw [h] at htracks ⊢
  · exact htracks
  · exact htracks
  · exact .inr htracks

theorem supports_of_idle (hidle : p.isIdle) (hsup : p.Supports p.effectiveState)
    (hc : q.checkpoint = p.checkpoint) (hq : q.ActiveSubmitted) : q.Supports p.effectiveState := by
  have hl := latestEligibilityState_congr hc
  simp only [isIdle] at hidle
  cases hs : p.effectiveState <;> rw [hs] at hidle hsup <;>
    first | (cases hidle; done) | exact ⟨hl.trans hsup.1, hq⟩

theorem Coherent.awaiting_of_canCancel (h : Coherent p) {d} (hc : p.canCancel)
    (hd : p.hasDraft d) : p.effectiveState = .awaitingAuthorization := by
  obtain ⟨r, hr, -⟩ := hasDraft_iff.mp hd
  simp only [canCancel, and_eq_true, or_eq_true, not_eq_true'] at hc
  obtain ⟨hpre, hsub⟩ := hc
  have hpre' : canCancel.isPreSubmission p.effectiveState := by
    rcases hpre with hpre | ⟨hrec, hpre⟩
    · have hrec : p.state.isRecoverable = false := by
        revert hpre
        cases p.state <;> simp [canCancel.isPreSubmission, State.isRecoverable]
      rwa [effectiveState_of_not_recoverable hrec]
    · rwa [h.resumeState_eq_some hrec, any_some] at hpre
  have hsup := h.supported
  cases hs : p.effectiveState <;> rw [hs] at hpre' hsup <;>
    simp only [canCancel.isPreSubmission, false_eq_true] at hpre'
  -- an idle flow holds no unsubmitted draft
  have hphase := hsup.2 r hr
  rw [hasSubmittedRegistration, hr, any_some, (h.active r hr).submitted_iff.mp hphase] at hsub
  cases hsub

theorem coherent_activeStep (h : Coherent p) (ha : Admits p e) (hstep : ActiveStep p e q) :
    Coherent q := by
  have hid : p.identity ≠ none := ha.identity_ne_none
  have hsup := h.supported
  cases hstep with
  | eligibility i r b =>
    rw [h.applyEligibility_eq]
    have hset := h.isSettled_of_admits ha rfl
    refine h.setEffectiveState hid (isSettled_applyEligibilityTo hset b) h.active h.parked ?_
      (supports_applyEligibilityTo i r b hsup)
    intro j hj
    refine ⟨_, rfl, some.inj (Eq.trans ?_ hj)⟩
    exact ha.identity_eq.symm
  | alreadyCurrent i r =>
    refine h.setEffectiveState hid rfl ?_ h.parked h.checkpointed (.inl rfl)
    intro r hr
    cases hr
  | prepared i d r asked _ unparked =>
    rw [asked] at hsup
    refine h.setEffectiveState hid rfl ?_ ?_ h.checkpointed ⟨⟨pendingRegistration d, rfl, rfl⟩, ?_⟩
    · intro r hr
      cases hr
      exact Registration.wellFormed_pendingRegistration d
    · intro r hr
      dsimp only at hr
      split_ifs at hr
      · exact h.active r hr
      · exact h.parked r hr
    · intro r hr
      dsimp only at hr
      split_ifs at hr
      · exact hsup.2 r hr
      · rw [unparked] at hr
        cases hr
  | reprepared i d r awaiting =>
    refine h.update hid ?_ h.parked h.checkpointed ?_
    · intro r hr
      cases hr
      exact Registration.wellFormed_pendingRegistration d
    · rw [awaiting] at hsup ⊢
      exact ⟨⟨pendingRegistration d, rfl, rfl⟩, hsup.2⟩
  | withdrawn i d awaiting _ ineligible =>
    rw [awaiting] at hsup
    refine h.setEffectiveState hid rfl h.parked ?_ h.checkpointed ⟨ineligible, hsup.2⟩
    intro r hr
    cases hr
  | authorized i d awaiting =>
    rw [awaiting] at hsup
    obtain ⟨⟨r, hr, hphase⟩, hparked⟩ := hsup
    have hreg : (p.updateActive (·.authorize)).registration = some r.authorize := by
      simp [updateActive, hr]
    refine h.setEffectiveState hid rfl ?_ h.parked h.checkpointed
      ⟨⟨r.authorize, hreg, rfl⟩, hparked⟩
    intro r' hr'
    rw [hreg] at hr'
    cases hr'
    exact (h.active r hr).authorize hphase
  | rejected i d awaiting =>
    rw [awaiting] at hsup
    refine h.setEffectiveState hid (isSettled_latestEligibilityState p) h.parked ?_ h.checkpointed
      (supports_latestEligibilityState (p := p.takeParked) hsup.2)
    intro r hr
    cases hr
  | submitted i d t submitting =>
    rw [submitting] at hsup
    obtain ⟨⟨r, hr, hphase⟩, -⟩ := hsup
    have hreg : (p.updateActive (·.submit t)).registration = some (r.submit t) := by
      simp [updateActive, hr]
    have hblank : r.Blank := (h.active r hr).blank (by rw [hphase]; decide)
    refine h.setEffectiveState hid rfl ?_ h.parked h.checkpointed
      ⟨r.submit t, hreg, rfl, hblank.trackedState_submit t⟩
    intro r' hr'
    rw [hreg] at hr'
    cases hr'
    exact (h.active r hr).submit t
  | finality i t v accepted =>
    obtain ⟨r, hr, ht, hv, -⟩ := acceptsFinality_registration accepted
    have hphase := (h.active r hr).of_transaction ht
    rw [h.applyFinality_eq hr accepted]
    refine h.setEffectiveState hid (isSettled_trackedState _) ?_ h.parked h.checkpointed
      (supports_trackedState rfl hphase)
    intro r' hr'
    cases hr'
    exact (h.active r hr).observeFinality hphase hv
  | reconciled i t v c accepted =>
    obtain ⟨r, hr, ht, hv, -⟩ := acceptsReconciliation_registration accepted
    have hphase := (h.active r hr).of_transaction ht
    have hwf : ∀ r', some (r.reconcile v c) = some r' → r'.WellFormed := by
      intro r' hr'
      cases hr'
      exact (h.active r hr).reconcile hphase hv c
    by_cases hc : c = .dropped
    · subst hc
      rw [applyReconciliation_dropped hr]
      refine h.setEffectiveState hid (isSettled_latestEligibilityState p) hwf h.parked
        h.checkpointed (supports_latestEligibilityState (p := { p with
          registration := some (r.reconcile v .dropped) }) ?_)
      intro r' hr'
      cases hr'
      exact hphase
    · rw [applyReconciliation_eq hr accepted hc]
      exact h.setEffectiveState hid (isSettled_trackedState _) hwf h.parked h.checkpointed
        (supports_trackedState rfl hphase)
  | refreshed i t v a b accepted =>
    obtain ⟨r, hr, ht, -⟩ := acceptsDust_registration accepted
    have hphase := (h.active r hr).of_transaction ht
    have hwf : ∀ r', some (r.refreshDust v a b) = some r' → r'.WellFormed := by
      intro r' hr'
      cases hr'
      exact (h.active r hr).refreshDust hphase v a b
    cases hidle : p.isIdle with
    | false =>
      rw [h.applyDust_eq hr accepted hidle]
      exact h.setEffectiveState hid (isSettled_trackedState _) hwf h.parked h.checkpointed
        (supports_trackedState rfl hphase)
    | true =>
      rw [applyDust_of_idle hr hidle]
      split_ifs with hready
      · exact h.setEffectiveState hid rfl hwf h.parked h.checkpointed
          (.inr ⟨_, rfl, hphase, Registration.trackedState_eq_ready.mpr hready⟩)
      · refine h.update hid hwf h.parked h.checkpointed (supports_of_idle hidle hsup rfl ?_)
        intro r' hr'
        cases hr'
        exact hphase
  | abandoned i t a asked transaction =>
    obtain ⟨r, hr, ht⟩ := hasTransaction_iff.mp transaction
    have hphase := (h.active r hr).of_transaction ht
    have hreg : (p.updateActive (·.abandon a)).registration = some (r.abandon a) := by
      simp [updateActive, hr]
    have hidle : p.isIdle := by simp [isIdle, asked]
    refine h.update hid ?_ h.parked h.checkpointed (supports_of_idle hidle hsup rfl ?_)
    · intro r' hr'
      rw [hreg] at hr'
      cases hr'
      exact (h.active r hr).abandon hphase a
    · intro r' hr'
      rw [hreg] at hr'
      cases hr'
      exact hphase
  | backedOut i d cancellable draft =>
    rw [h.awaiting_of_canCancel cancellable draft] at hsup
    refine h.setEffectiveState hid (isSettled_latestEligibilityState p) h.parked ?_
      h.checkpointed (supports_latestEligibilityState (p := p.takeParked) hsup.2)
    intro r hr
    cases hr
  | cancelled =>
    refine h.retire hid (.inl rfl) ?_ h.parked
    intro r hr
    cases hr
  | outage e k r announces revision =>
    have hk := Event.isRecoverable_of_outage announces
    have hset := h.isSettled_of_admits ha (Event.isSuperseded_of_recovery (by rw [revision]; rfl))
    rcases h.outage_cases hk hset r with ⟨m, -, hout⟩ | hshown
    · rw [hout]
      exact h.uncover hid (State.not_recoverable_of_isSettled hset) (by simp)
    · rw [hshown]
      exact h.cover hid hk hset r
  | resumed i r _ hidden =>
    have hset := h.settled _ (h.resumeState_eq_some hidden)
    rw [h.resume_hidden hidden]
    exact h.uncover hid (State.not_recoverable_of_isSettled hset) (by simp)
  | acknowledged i r _ shown =>
    rw [h.resume_shown shown]
    refine h.uncover hid (by rwa [effectiveState_of_not_recoverable shown]) ?_
    intro m hm
    simpa using (filter_eq_some_iff.mp hm).2
  | retried i r _ hidden =>
    have hset := h.settled _ (h.resumeState_eq_some hidden)
    rw [h.resume_hidden hidden]
    exact h.uncover hid (State.not_recoverable_of_isSettled hset) (by simp)
  | retryParked i r newer shown =>
    exact { h with
      fresh := fun hn => absurd hn hid
      supported := (supports_congr (p := p) rfl rfl rfl _).mpr hsup
      retry := by
        intro m hm
        cases hm
        exact ⟨newer, shown⟩ }
  | superseded =>
    refine h.retire hid (.inr rfl) ?_ ?_
    · intro r hr
      cases hr
    · intro r hr
      cases hr

theorem supports_of_parked_unsubmitted {r s} (hsup : p.Supports s)
    (hr : p.abandonedRegistration = some r) (hphase : r.authorizationPhase ≠ .submitted)
    (hreg : q.registration = p.registration) (hc : q.checkpoint = p.checkpoint) : q.Supports s := by
  have hl := latestEligibilityState_congr hc
  cases s <;> simp only [Supports, ActiveSubmitted, ActiveIn, Tracks, hreg, hl] at hsup ⊢ <;>
    first | exact hsup | exact absurd (hsup.2 r hr) hphase

theorem coherent_reduceParked (h : Coherent p) (ha : Admits p e)
    (hq : p.reduceParked e = some q) : Coherent q := by
  have hid : p.identity ≠ none := ha.identity_ne_none
  -- in every case the parked draft is replaced by `parked`, a later phase of it or nothing
  have key : ∀ (r : Registration) (parked : Option Registration),
      p.abandonedRegistration = some r → r.authorizationPhase ≠ .submitted →
      (∀ r', parked = some r' → r'.WellFormed) →
      Coherent { p with abandonedRegistration := parked } := by
    intro r parked hr hphase hwf
    exact h.update hid h.active hwf h.checkpointed
      (supports_of_parked_unsubmitted h.supported hr hphase rfl rfl)
  have discarded : ∀ d, p.parkedIn d .awaitingAuthorization →
      Coherent { p with abandonedRegistration := none } := by
    intro d hd
    obtain ⟨r, hr, -, hphase⟩ := parkedIn_iff.mp hd
    exact key r none hr (by rw [hphase]; decide) (by simp)
  have advanced : ∀ d phase f, p.parkedIn d phase → phase ≠ .submitted →
      (∀ r, r.WellFormed → r.authorizationPhase = phase → (f r).WellFormed) →
      Coherent (p.updateParked f) := by
    intro d phase f hd hne hf
    obtain ⟨r, hr, -, hphase⟩ := parkedIn_iff.mp hd
    rw [updateParked, hr]
    refine key r _ hr (by rw [hphase]; exact hne) ?_
    intro r' hr'
    cases hr'
    exact hf r (h.parked r hr) hphase
  cases reduceParked_cases hq with
  | submitted i d t hd => exact advanced d _ _ hd (by decide) fun _ hwf _ => hwf.submit t
  | authorized i d hd =>
    exact advanced d _ _ hd (by decide) fun _ hwf hphase => hwf.authorize hphase
  | withdrawn i d hd | rejected i d hd | backedOut i d hd => exact discarded d hd

theorem Coherent.restoreAbandoned (h : Coherent p) (hid : p.identity ≠ none)
    (hs : p.supersedesAbandonedRegistration e) : Coherent p.restoreAbandoned := by
  obtain ⟨parked, t, hparked, ht, -⟩ := supersedes_cases hs
  refine h.setEffectiveState hid (isSettled_latestEligibilityState p) h.parked h.active
    h.checkpointed (supports_latestEligibilityState (p := { p with
      registration := p.abandonedRegistration
      abandonedRegistration := p.registration }) ?_)
  intro r hr
  exact (h.parked r hr).of_transaction (t := t) (by
    rw [hparked, some.injEq] at hr
    rw [← hr, ht])

theorem coherent_selected (i : Identity) (r : UInt64) (b : Bool) :
    Coherent (selected Projection.default i r b) where
  fresh := by intro hn; cases hn
  overlay := by cases b <;> rfl
  settled := by intro s hs; cases hs
  active := by intro r hr; cases hr
  parked := by intro r hr; cases hr
  supported := by
    cases b
    · exact ⟨rfl, fun r hr => by cases hr⟩
    · exact ⟨rfl, fun r hr => by cases hr⟩
  checkpointed := by
    intro j hj
    cases hj
    exact ⟨_, rfl, rfl⟩
  retry := by intro m hm; cases hm

theorem coherent_reduceSettlement (h : Coherent p) (hq : reduceSettlement p e = some q) :
    Coherent q := by
  cases reduceSettlement_cases h.fresh hq with
  | ignored => exact h
  | selected i r b => exact coherent_selected i r b
  | parked q ha hp => exact coherent_reduceParked h ha hp
  | active q ha _ hstep => exact coherent_activeStep h ha hstep
  | restored q ha hs _ hstep =>
    have hid : p.identity ≠ none := ha.identity_ne_none
    exact coherent_activeStep (h.restoreAbandoned hid hs) (ha.restoreAbandoned hs) hstep

theorem coherent_runEvents {es} (h : Coherent p) (hq : runEvents p es = some q) : Coherent q :=
  Transition.run_invariant h (fun _ _ _ hp hstep => coherent_reduceSettlement hp hstep) hq

theorem coherent_of_reachable (h : Reachable p) : Coherent p :=
  h.invariant coherent_default fun _ _ _ hp hstep => coherent_reduceSettlement hp hstep

theorem Coherent.latestEligibilityState_checkpoint (h : Coherent p)
    (hs : p.effectiveState ≠ .unavailable) : ∃ c, p.checkpoint = some c ∧
      p.latestEligibilityState = if c.eligible then .actionRequired else .notEligible := by
  have hid : p.identity ≠ none := by
    intro hn
    rw [h.fresh hn] at hs
    exact hs rfl
  obtain ⟨i, hi⟩ := ne_none_iff_exists'.mp hid
  obtain ⟨c, hcp, -⟩ := h.checkpointed i hi
  refine ⟨c, hcp, ?_⟩
  simp only [latestEligibilityState, hcp, any_some]
  cases c.eligible <;> rfl

end Preservation

/-! ## Coherence of every reachable projection -/

/-- **State and evidence stay coherent.**  In every reachable projection a state is retained exactly
behind an outage, both slots hold well-formed registrations, and each effective state has the
evidence it claims. -/
theorem reachable_coherence {p : Projection} (h : Reachable p) : (p.resumeState.isSome ↔
        p.state = .offline ∨ p.state = .timedOut ∨ p.state = .degraded ∨ p.state = .suspended) ∧
    (∀ s, p.resumeState = some s → s.isRecoverable = false ∧ s ≠ .cancelled ∧ s ≠ .unavailable) ∧
    (∀ r, p.registration = some r ∨ p.abandonedRegistration = some r →
      (r.authorizationPhase = .submitted ↔ ∃ t, r.transactionId = some t) ∧
      (r.authorizationPhase ≠ .submitted →
        r.observationRevision = 0 ∧ r.finalityRevision = 0 ∧ r.reconciliationRevision = 0 ∧
        r.dustRevision = 0 ∧ r.dustObservationRevision = 0 ∧ r.abandonmentRevision = 0 ∧
        r.dustReady = false ∧ r.included = false) ∧ (r.authorizationPhase = .submitted →
        r.observationRevision = max r.finalityRevision r.reconciliationRevision)) ∧
    (p.effectiveState = .awaitingAuthorization →
      ∃ r, p.registration = some r ∧ r.authorizationPhase = .awaitingAuthorization) ∧
    (p.effectiveState = .submitting →
      ∃ r, p.registration = some r ∧ r.authorizationPhase = .submitting) ∧
    (p.effectiveState = .confirming ∨ p.effectiveState = .reconciling →
      ∃ r, p.registration = some r ∧ r.authorizationPhase = .submitted) ∧
    (p.effectiveState = .actionRequired → ∃ c, p.checkpoint = some c ∧ c.eligible) ∧
    (p.effectiveState = .notEligible → ∃ c, p.checkpoint = some c ∧ c.eligible = false) := by
  have hc := coherent_of_reachable h
  have hsup := hc.supported
  refine ⟨?_, ?_, ?_, ?_, ?_, ?_, ?_, ?_⟩
  · rw [hc.overlay]
    cases p.state <;> simp [State.isRecoverable]
  · intro s hs
    have := hc.settled s hs
    revert this
    cases s <;> simp [State.isSettled, State.isRecoverable]
  · intro r hr
    have hwf : r.WellFormed := hr.elim (hc.active r) (hc.parked r)
    refine ⟨?_, ?_, fun _ => hwf.observed⟩
    · rw [hwf.submitted_iff, isSome_iff_exists]
    · intro hphase
      have hb := hwf.blank hphase
      exact ⟨hb.1, hb.2, hb.3, hb.4, hb.5, hb.8, hb.6, hb.7⟩
  · intro hs
    rw [hs] at hsup
    exact hsup.1
  · intro hs
    rw [hs] at hsup
    exact hsup.1
  · rintro (hs | hs) <;> rw [hs] at hsup
    · obtain ⟨r, hr, hphase, -⟩ := hsup
      exact ⟨r, hr, hphase⟩
    · obtain ⟨r, hr, hphase, -⟩ := hsup
      exact ⟨r, hr, hphase⟩
  · intro hs
    rw [hs] at hsup
    obtain ⟨c, hcp, hl⟩ := hc.latestEligibilityState_checkpoint (by simp [hs])
    refine ⟨c, hcp, ?_⟩
    rw [hsup.1] at hl
    split_ifs at hl with helig
    exact helig
  · intro hs
    rw [hs] at hsup
    obtain ⟨c, hcp, hl⟩ := hc.latestEligibilityState_checkpoint (by simp [hs])
    refine ⟨c, hcp, ?_⟩
    rw [hsup.1] at hl
    split_ifs at hl with helig
    exact eq_false_iff.mpr helig

open Sample

theorem reachable_coherence_confirming_offline :
    (after (confirming ++ [.offline identity 1])).state = .offline ∧
      ∃ r, (after (confirming ++ [.offline identity 1])).registration =
        some r ∧ r.authorizationPhase = .submitted := by
  refine ⟨by decide +kernel, ?_⟩
  have hreach := reachable_after (confirming ++ [.offline identity 1]) (by decide +kernel)
  exact (reachable_coherence hreach).2.2.2.2.2.1 (.inl (by decide +kernel))

end Oxid.Wallet.DustRegistration
