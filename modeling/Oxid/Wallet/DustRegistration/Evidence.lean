import Oxid.Wallet.DustRegistration.Step

/-!
# The evidence behind a state

`Coherent` says which evidence each effective state rests on, and how the state hidden behind
an outage and the early retry relate to the visible one.  While a submitted registration is
followed, the effective state is a function of it, `trackedState`.
-/

namespace Oxid.Wallet.DustRegistration

open Projection Option

variable {v : UInt64}

namespace Registration

structure Blank (r : Registration) : Prop where
  observation : r.observationRevision = 0
  finality : r.finalityRevision = 0
  reconciliation : r.reconciliationRevision = 0
  dust : r.dustRevision = 0
  dustObservation : r.dustObservationRevision = 0
  notReady : r.dustReady = false
  notIncluded : r.included = false
  abandonment : r.abandonmentRevision = 0

/-- A registration is submitted exactly when it carries a transaction, has no
evidence before that, and its observation watermark is the larger of the two it
summarises. -/
structure WellFormed (r : Registration) : Prop where
  submitted_iff : r.authorizationPhase = .submitted ↔ r.transactionId.isSome
  blank : r.authorizationPhase ≠ .submitted → r.Blank
  observed : r.observationRevision = max r.finalityRevision r.reconciliationRevision

def trackedState (r : Registration) : State :=
  if r.isReady then .ready
  else if r.included || (0 < r.finalityRevision && r.finalityIsCurrent) then .reconciling
  else .confirming

variable {r : Registration}

theorem WellFormed.of_transaction (h : r.WellFormed) {t} (ht : r.transactionId = some t) :
    r.authorizationPhase = .submitted :=
  h.submitted_iff.mpr (by rw [ht]; rfl)

theorem wellFormed_pendingRegistration (d : WalletTransactionDraftId) :
    (pendingRegistration d).WellFormed where
  submitted_iff := by simp [pendingRegistration]
  blank := fun _ => ⟨rfl, rfl, rfl, rfl, rfl, rfl, rfl, rfl⟩
  observed := by simp [pendingRegistration]

section
variable (h : r.WellFormed)
include h

theorem WellFormed.authorize
    (hp : r.authorizationPhase = .awaitingAuthorization) : r.authorize.WellFormed where
  submitted_iff := by
    have htx : ¬ r.transactionId.isSome := by rw [← h.submitted_iff, hp]; decide
    simpa [Registration.authorize] using htx
  blank := fun _ => by
    have hb := h.blank (by rw [hp]; decide)
    exact ⟨hb.1, hb.2, hb.3, hb.4, hb.5, hb.6, hb.7, hb.8⟩
  observed := h.observed

theorem WellFormed.submit (t : ChainTransactionId) : (r.submit t).WellFormed where
  submitted_iff := by simp [Registration.submit]
  blank := fun hp => absurd rfl hp
  observed := h.observed

theorem WellFormed.observeFinality (hs : r.authorizationPhase = .submitted) {v}
    (hv : r.finalityRevision < v) : (r.observeFinality v).WellFormed where
  submitted_iff := h.submitted_iff
  blank := fun hp => absurd hs hp
  observed := by
    have := h.observed
    simp only [Registration.observeFinality]
    grind

theorem WellFormed.reconcile (hs : r.authorizationPhase = .submitted) {v}
    (hv : r.reconciliationRevision < v) (c : Reconciliation) : (r.reconcile v c).WellFormed where
  submitted_iff := h.submitted_iff
  blank := fun hp => absurd hs hp
  observed := by
    have := h.observed
    simp only [Registration.reconcile]
    grind

theorem WellFormed.refreshDust (hs : r.authorizationPhase = .submitted) (v a : UInt64) (b : Bool) :
    (r.refreshDust v a b).WellFormed :=
  ⟨h.submitted_iff, fun hp => absurd hs hp, h.observed⟩

theorem WellFormed.abandon
    (hs : r.authorizationPhase = .submitted) (a : UInt64) : (r.abandon a).WellFormed :=
  ⟨h.submitted_iff, fun hp => absurd hs hp, h.observed⟩

end

/-! ## The tracked state after an observation -/

theorem Blank.trackedState_submit (h : r.Blank) (t : ChainTransactionId) :
    (r.submit t).trackedState = .confirming := by
  simp [trackedState, isReady, Registration.submit, h.notIncluded, h.finality]

theorem trackedState_eq_ready : r.trackedState = .ready ↔ r.isReady := by
  simp only [trackedState]
  split_ifs <;> simp_all

theorem trackedState_cases (r : Registration) :
    r.trackedState = .confirming ∨ r.trackedState = .reconciling ∨ r.trackedState = .ready := by
  simp only [trackedState]
  split_ifs
  · exact .inr (.inr rfl)
  · exact .inr (.inl rfl)
  · exact .inl rfl

theorem progressed_of_confirming (h : r.trackedState = .confirming) :
    (r.included || (0 < r.finalityRevision && r.finalityIsCurrent)) = false := by
  simp only [trackedState] at h
  split_ifs at h with h₁ h₂
  exact Bool.eq_false_iff.mpr h₂

theorem progressed_of_reconciling (h : r.trackedState = .reconciling) :
    (r.included || (0 < r.finalityRevision && r.finalityIsCurrent)) := by
  simp only [trackedState] at h
  split_ifs at h with h₁ h₂
  exact h₂

theorem trackedState_observeFinality (hv : r.finalityRevision < v) :
    (r.observeFinality v).trackedState = if (r.observeFinality v).isReady then .ready
      else if r.trackedState = .ready ∨
          (r.trackedState = .confirming ∧ (r.observeFinality v).finalityIsCurrent) then .reconciling
      else r.trackedState := by
  simp only [trackedState, isReady, finalityIsCurrent, Registration.observeFinality]
  grind

theorem trackedState_observeFinality_of_idle (hv : r.reconciliationRevision < v) :
    (r.observeFinality v).trackedState =
      if (r.observeFinality v).isReady then .ready else .reconciling := by
  simp only [trackedState, isReady, finalityIsCurrent, Registration.observeFinality]
  grind

theorem trackedState_reconcile_included (v : UInt64) : (r.reconcile v .included).trackedState =
      if (r.reconcile v .included).isReady then .ready else .reconciling := by
  simp [trackedState, Registration.reconcile]

theorem trackedState_reconcile_pending (hv : r.reconciliationRevision < v) :
    (r.reconcile v .pending).trackedState =
      if (r.reconcile v .pending).finalityIsCurrent then .reconciling else .confirming := by
  simp only [trackedState, isReady, finalityIsCurrent, Registration.reconcile]
  grind

theorem trackedState_refreshDust (v a : UInt64) (b : Bool) : (r.refreshDust v a b).trackedState =
      if (r.refreshDust v a b).isReady then .ready else if r.trackedState = .ready then .reconciling
      else r.trackedState := by
  simp only [trackedState, isReady, finalityIsCurrent, Registration.refreshDust]
  grind

end Registration

open Registration

/-! ## The invariant -/

def State.isSettled : State → Bool
  | .unavailable | .cancelled | .offline | .timedOut | .degraded | .suspended => false
  | _ => true

namespace Projection

variable (p : Projection)

def ActiveSubmitted : Prop :=
  ∀ r, p.registration = some r → r.authorizationPhase = .submitted

def ParkedSubmitted : Prop :=
  ∀ r, p.abandonedRegistration = some r → r.authorizationPhase = .submitted

def ActiveIn (phase : AuthorizationPhase) : Prop :=
  ∃ r, p.registration = some r ∧ r.authorizationPhase = phase

def Tracks (s : State) : Prop :=
  ∃ r, p.registration = some r ∧ r.authorizationPhase = .submitted ∧ r.trackedState = s

def Supports : State → Prop
  | .notEligible => p.latestEligibilityState = .notEligible ∧ p.ActiveSubmitted
  | .actionRequired => p.latestEligibilityState = .actionRequired ∧ p.ActiveSubmitted
  | .awaitingAuthorization => p.ActiveIn .awaitingAuthorization ∧ p.ParkedSubmitted
  | .submitting => p.ActiveIn .submitting ∧ p.ParkedSubmitted
  | .confirming => p.Tracks .confirming
  | .reconciling => p.Tracks .reconciling
  | .ready => p.registration = none ∨ p.Tracks .ready
  | _ => True

end Projection

structure Coherent (p : Projection) : Prop where
  fresh : p.identity = none → p = Projection.default
  overlay : p.resumeState.isSome = p.state.isRecoverable
  settled : ∀ s, p.resumeState = some s → s.isSettled
  active : ∀ r, p.registration = some r → r.WellFormed
  parked : ∀ r, p.abandonedRegistration = some r → r.WellFormed
  supported : p.Supports p.effectiveState
  checkpointed : ∀ i, p.identity = some i → ∃ c, p.checkpoint = some c ∧ c.identity = i
  retry : ∀ m, p.pendingRetryRevision = some m →
    p.recoveryRevision < m ∧ p.state.isRecoverable = false

theorem coherent_default : Coherent Projection.default where
  fresh := fun _ => rfl
  overlay := rfl
  settled := by intro s hs; cases hs
  active := by intro r hr; cases hr
  parked := by intro r hr; cases hr
  supported := trivial
  checkpointed := by intro i hi; cases hi
  retry := by intro m hm; cases hm

section Basics
variable {p q : Projection}

theorem supports_congr (hr : q.registration = p.registration)
    (ha : q.abandonedRegistration = p.abandonedRegistration)
    (hc : q.checkpoint = p.checkpoint) (s : State) : q.Supports s ↔ p.Supports s := by
  cases s <;> simp only [Supports, ActiveSubmitted, ParkedSubmitted, ActiveIn, Tracks,
      latestEligibilityState, hr, ha, hc]

theorem supports_latestEligibilityState (h : p.ActiveSubmitted) :
    p.Supports p.latestEligibilityState := by
  rcases p.latestEligibilityState_eq with hl | hl <;> rw [hl] <;> exact ⟨hl, h⟩

theorem isSettled_latestEligibilityState (p : Projection) : p.latestEligibilityState.isSettled := by
  rcases p.latestEligibilityState_eq with hl | hl <;> rw [hl] <;> rfl

theorem State.not_recoverable_of_isSettled {s : State} (h : s.isSettled) :
    s.isRecoverable = false := by
  cases s <;> first | rfl | cases h

theorem Coherent.resumeState_eq_none (h : Coherent p) (hr : p.state.isRecoverable = false) :
    p.resumeState = none := by
  have := h.overlay
  rw [hr] at this
  simpa using this

theorem Coherent.resumeState_eq_some (h : Coherent p) (hr : p.state.isRecoverable) :
    p.resumeState = some p.effectiveState := by
  have := h.overlay
  rw [hr] at this
  obtain ⟨s, hs⟩ := isSome_iff_exists.mp this
  rw [effectiveState_of_resumeState hr hs, hs]

theorem Coherent.pendingRetryRevision_eq_none (h : Coherent p)
    (hr : p.state.isRecoverable) : p.pendingRetryRevision = none := by
  cases hm : p.pendingRetryRevision with
  | none => rfl
  | some m => exact absurd hr (by rw [(h.retry m hm).2]; decide)

theorem Coherent.isSettled_effectiveState (h : Coherent p) (hu : p.state ≠ .unavailable)
    (hc : p.state ≠ .cancelled) : p.effectiveState.isSettled := by
  cases hr : p.state.isRecoverable with
  | true => exact h.settled _ (h.resumeState_eq_some hr)
  | false =>
    rw [effectiveState_of_not_recoverable hr]
    cases hs : p.state <;> simp_all [State.isSettled, State.isRecoverable]

theorem Coherent.isSettled_of_admits {e} (h : Coherent p) (ha : Admits p e)
    (he : e.isSuperseded = false) : p.effectiveState.isSettled := by
  refine h.isSettled_effectiveState ha.available fun hc => ?_
  rw [ha.open_unless_superseded hc] at he
  cases he

structure SameFrame (p q : Projection) : Prop where
  identity : q.identity = p.identity
  recoveryRevision : q.recoveryRevision = p.recoveryRevision
  pendingRetryRevision : q.pendingRetryRevision = p.pendingRetryRevision
  state : q.state = p.state
  resumeState : q.resumeState = p.resumeState

theorem Coherent.setEffectiveState_same (h : Coherent p) (hf : SameFrame p q) :
    q.setEffectiveState p.effectiveState = q := by
  cases hr : p.state.isRecoverable with
  | true =>
    simp only [Projection.setEffectiveState, hf.state, hr, if_true,
      ← h.resumeState_eq_some hr, ← hf.resumeState]
    rw [← hf.state]
  | false =>
    simp only [Projection.setEffectiveState, hf.state, hr, Bool.false_eq_true, if_false,
      setState, effectiveState_of_not_recoverable hr, ← h.resumeState_eq_none hr,
      ← hf.resumeState]
    rw [← hf.state]

theorem isRecoverable_setEffectiveState {s : State} (hs : s.isSettled) :
    (p.setEffectiveState s).state.isRecoverable = p.state.isRecoverable := by
  cases hr : p.state.isRecoverable with
  | true => simp [setEffectiveState, hr]
  | false => simp [setEffectiveState, hr, setState, State.not_recoverable_of_isSettled hs]

theorem resumeState_setEffectiveState (s : State) :
    (p.setEffectiveState s).resumeState = if p.state.isRecoverable then some s else none := by
  simp only [setEffectiveState, setState]
  split <;> rfl

theorem Coherent.setEffectiveState (h : Coherent p) (hid : p.identity ≠ none) {s}
    (hs : s.isSettled) (hactive : ∀ r, q.registration = some r → r.WellFormed)
    (hparked : ∀ r, q.abandonedRegistration = some r → r.WellFormed)
    (hcheck : ∀ i, q.identity = some i → ∃ c, q.checkpoint = some c ∧ c.identity = i)
    (hsup : q.Supports s) (hf : SameFrame p q := by constructor <;> rfl) :
    Coherent (q.setEffectiveState s) where
  fresh := fun hn => absurd (by simpa [hf.identity] using hn) hid
  overlay := by
    rw [isRecoverable_setEffectiveState hs, resumeState_setEffectiveState]
    cases q.state.isRecoverable <;> rfl
  settled := by
    intro s' hs'
    rw [resumeState_setEffectiveState] at hs'
    split_ifs at hs'
    cases hs'
    exact hs
  active := by simpa using hactive
  parked := by simpa using hparked
  supported := by
    rw [effectiveState_setEffectiveState]
    exact (supports_congr (by simp) (by simp) (by simp) s).mpr hsup
  checkpointed := by simpa using hcheck
  retry := by
    intro m hm
    rw [isRecoverable_setEffectiveState hs, hf.state]
    simp only [pendingRetryRevision_setEffectiveState, recoveryRevision_setEffectiveState,
      hf.pendingRetryRevision, hf.recoveryRevision] at hm ⊢
    exact h.retry m hm

theorem Coherent.update (h : Coherent p) (hid : p.identity ≠ none)
    (hactive : ∀ r, q.registration = some r → r.WellFormed)
    (hparked : ∀ r, q.abandonedRegistration = some r → r.WellFormed)
    (hcheck : ∀ i, q.identity = some i → ∃ c, q.checkpoint = some c ∧ c.identity = i)
    (hsup : q.Supports p.effectiveState) (hf : SameFrame p q := by constructor <;> rfl) :
    Coherent q where
  fresh := fun hn => absurd (by rw [← hf.identity, hn]) hid
  overlay := by rw [hf.resumeState, hf.state, h.overlay]
  settled := by rw [hf.resumeState]; exact h.settled
  active := hactive
  parked := hparked
  supported := by rwa [effectiveState_congr hf.state hf.resumeState]
  checkpointed := hcheck
  retry := by
    rw [hf.pendingRetryRevision, hf.recoveryRevision, hf.state]
    exact h.retry

end Basics

namespace Projection

def covered (p : Projection) (k : State) (r : UInt64) : Projection :=
  { p with
    recoveryRevision := r
    state := k
    resumeState := some p.effectiveState
    pendingRetryRevision := none }

def uncovered (p : Projection) (r : UInt64) (pending : Option UInt64) : Projection :=
  { p with
    recoveryRevision := r
    state := p.effectiveState
    resumeState := none
    pendingRetryRevision := pending }

end Projection

section Outages
variable {p : Projection} {s k : State} {r m : UInt64}

theorem effectiveState_covered (hk : k.isRecoverable) :
    (p.covered k r).effectiveState = p.effectiveState :=
  effectiveState_of_resumeState hk rfl

theorem effectiveState_uncovered (hp : p.effectiveState.isRecoverable = false)
    (pending : Option UInt64) : (p.uncovered r pending).effectiveState = p.effectiveState :=
  effectiveState_of_not_recoverable hp

theorem resumedState_of_supports (hs : s.isSettled)
    (hactive : ∀ r, p.registration = some r → r.WellFormed) (hsup : p.Supports s) :
    p.resumedState s = s := by
  have unsubmitted : ∀ phase, phase ≠ .submitted → p.ActiveIn phase →
      p.registration.any (fun r => r.transactionId.isNone) := by
    rintro phase hne ⟨r, hr, rfl⟩
    have htx : ¬ r.transactionId.isSome := fun h =>
      hne ((hactive r hr).submitted_iff.mpr h)
    rw [hr]
    simpa using htx
  have submitted : ∀ r, p.registration = some r → r.authorizationPhase = .submitted →
      p.hasSubmittedRegistration := by
    intro r hr hphase
    rw [hasSubmittedRegistration, hr]
    exact (hactive r hr).submitted_iff.mp hphase
  cases s with
  | notEligible | ready => rfl
  | actionRequired => exact hsup.1
  | awaitingAuthorization => simp [resumedState, unsubmitted _ (by decide) hsup.1]
  | submitting => simp [resumedState, unsubmitted _ (by decide) hsup.1]
  | confirming =>
    obtain ⟨r, hr, hphase, htracked⟩ := hsup
    simp only [resumedState, submitted r hr hphase, if_true, hr, any_some,
      progressed_of_confirming htracked, Bool.false_eq_true, if_false]
  | reconciling =>
    obtain ⟨r, hr, hphase, htracked⟩ := hsup
    simp only [resumedState, submitted r hr hphase, if_true, hr, any_some,
      progressed_of_reconciling htracked]
  | _ => cases hs

/-- **Resuming gives back exactly what the outage hid.** -/
theorem resumeRecoverableState_eq (hr : p.resumeState = some s) (hs : s.isSettled)
    (hactive : ∀ r, p.registration = some r → r.WellFormed) (hsup : p.Supports s) :
    p.resumeRecoverableState = { p with state := s, resumeState := none } := by
  simp only [resumeRecoverableState, hr, getD_some, resumedState_of_supports hs hactive hsup]
  split_ifs with hidle
  · -- a draft is dropped only where no unsubmitted draft can be
    have hnone : p.registration = none := by
      have hsub : p.ActiveSubmitted := by
        rcases hidle.1 with rfl | rfl
        · exact hsup.2
        · exact hsup.2
      cases hreg : p.registration with
      | none => rfl
      | some r =>
        refine absurd ?_ hidle.2
        rw [hasSubmittedRegistration, hreg]
        exact (hactive r hreg).submitted_iff.mp (hsub r hreg)
    rw [hnone]
  · rfl

theorem Coherent.enterRecoverableState_eq (h : Coherent p) (k : State) (r : UInt64) :
    enterRecoverableState { p with recoveryRevision := r } p k =
      { p with recoveryRevision := r, state := k, resumeState := some p.effectiveState } := by
  cases hr : p.state.isRecoverable with
  | true =>
    have hres := h.resumeState_eq_some hr
    simp [enterRecoverableState, hres]
  | false =>
    simp [enterRecoverableState, h.resumeState_eq_none hr, effectiveState_of_not_recoverable hr]

theorem Coherent.outage_shown (h : Coherent p) (k : State)
    (hlate : ∀ m, p.pendingRetryRevision = some m → m ≤ r) :
    (enterRecoverableState { p with recoveryRevision := r } p k).settlePendingRetry =
      p.covered k r := by
  rw [h.enterRecoverableState_eq]
  cases hm : p.pendingRetryRevision with
  | none => simp [settlePendingRetry, covered]
  | some m => simp [settlePendingRetry, covered, hlate m hm]

theorem Coherent.outage_outrun (h : Coherent p) (hk : k.isRecoverable)
    (hset : p.effectiveState.isSettled) (hm : p.pendingRetryRevision = some m) (hearly : r < m) :
    (enterRecoverableState { p with recoveryRevision := r } p k).settlePendingRetry =
      p.uncovered m none := by
  rw [h.enterRecoverableState_eq]
  simp only [settlePendingRetry, hm, not_le.mpr hearly, if_false, State.canRetry_eq, hk, if_true]
  exact resumeRecoverableState_eq rfl hset h.active h.supported

theorem Coherent.outage_cases (h : Coherent p) (hk : k.isRecoverable)
    (hset : p.effectiveState.isSettled) (r : UInt64) : (∃ m, r < m ∧
      (enterRecoverableState { p with recoveryRevision := r } p k).settlePendingRetry =
        p.uncovered m none) ∨
      (enterRecoverableState { p with recoveryRevision := r } p k).settlePendingRetry =
        p.covered k r := by
  by_cases hout : ∃ m, p.pendingRetryRevision = some m ∧ r < m
  · obtain ⟨m, hm, hlt⟩ := hout
    exact .inl ⟨m, hlt, h.outage_outrun hk hset hm hlt⟩
  · exact .inr (h.outage_shown k fun m hm => not_lt.mp fun hlt => hout ⟨m, hm, hlt⟩)

theorem Coherent.resume_hidden (h : Coherent p) (hr : p.state.isRecoverable) (r : UInt64) :
    resumeRecoverableState { p with recoveryRevision := r } = p.uncovered r none := by
  have hres := h.resumeState_eq_some hr
  rw [uncovered, ← h.pendingRetryRevision_eq_none hr]
  exact resumeRecoverableState_eq hres (h.settled _ hres) h.active h.supported

theorem Coherent.resume_shown (h : Coherent p) (hr : p.state.isRecoverable = false) (r : UInt64) :
    { p with recoveryRevision := r }.settlePendingRetry =
      p.uncovered r (p.pendingRetryRevision.filter (r < ·)) := by
  rw [uncovered, effectiveState_of_not_recoverable hr, ← h.resumeState_eq_none hr]
  cases hm : p.pendingRetryRevision with
  | none => simp [settlePendingRetry]
  | some m =>
    by_cases hle : m ≤ r
    · simp [settlePendingRetry, hle, Option.filter, not_lt.mpr hle]
    · simp [settlePendingRetry, hle, hr, Option.filter, not_le.mp hle]

end Outages

variable {c : Reconciliation}

section Observations
variable {p : Projection} {r : Registration} {t : ChainTransactionId} {v a : UInt64} {b : Bool}

theorem exists_registration_of_accepted {f}
    (h : (p.observesChain && p.hasTransaction t && p.registration.any f)) :
    ∃ r, p.registration = some r ∧ r.transactionId = some t ∧ f r := by
  simp only [Bool.and_eq_true] at h
  obtain ⟨⟨-, htx⟩, hany⟩ := h
  obtain ⟨r, hr, ht⟩ := hasTransaction_iff.mp htx
  rw [hr, any_some] at hany
  exact ⟨r, hr, ht, hany⟩

theorem acceptsFinality_registration (h : p.acceptsFinality t v) :
    ∃ r, p.registration = some r ∧ r.transactionId = some t ∧ r.finalityRevision < v ∧
      r.abandonmentRevision < v := by
  obtain ⟨r, hr, ht, hnewer⟩ := exists_registration_of_accepted h
  simp only [Bool.and_eq_true, decide_eq_true_eq] at hnewer
  exact ⟨r, hr, ht, hnewer.1.1, hnewer.1.2⟩

theorem acceptsReconciliation_registration (h : p.acceptsReconciliation t v c) :
    ∃ r, p.registration = some r ∧ r.transactionId = some t ∧ r.reconciliationRevision < v ∧
      r.abandonmentRevision < v := by
  obtain ⟨r, hr, ht, hnewer⟩ := exists_registration_of_accepted h
  simp only [Bool.and_eq_true, decide_eq_true_eq] at hnewer
  exact ⟨r, hr, ht, hnewer.1.1, hnewer.1.2⟩

theorem acceptsDust_registration (h : p.acceptsDust t v) :
    ∃ r, p.registration = some r ∧ r.transactionId = some t ∧ r.dustRevision < v := by
  obtain ⟨r, hr, ht, hnewer⟩ := exists_registration_of_accepted h
  exact ⟨r, hr, ht, of_decide_eq_true hnewer⟩

section
variable (hr : p.registration = some r)
include hr

theorem acceptsFinality_of_le (hv : v ≤ r.finalityRevision) : p.acceptsFinality t v = false := by
  simp [acceptsFinality, hr, not_lt.mpr hv]

theorem acceptsReconciliation_of_le (hv : v ≤ r.reconciliationRevision) :
    p.acceptsReconciliation t v c = false := by
  simp [acceptsReconciliation, hr, not_lt.mpr hv]

theorem acceptsDust_of_le (hv : v ≤ r.dustRevision) : p.acceptsDust t v = false := by
  simp [acceptsDust, hr, not_lt.mpr hv]

theorem Coherent.idle_or_tracked (h : Coherent p) (hobs : p.observesChain) :
    p.isIdle ∨ p.isIdle = false ∧ p.effectiveState = r.trackedState := by
  have hsup := h.supported
  have follow : ∀ s, p.Tracks s → s = r.trackedState := by
    rintro s ⟨r', hr', -, rfl⟩
    rw [hr, some.injEq] at hr'
    rw [hr']
  simp only [observesChain] at hobs
  simp only [isIdle]
  cases hs : p.effectiveState <;> rw [hs] at hsup hobs <;>
    first | (cases hobs; done) | exact .inl rfl | refine .inr ⟨rfl, ?_⟩
  · exact follow _ hsup
  · exact follow _ hsup
  · rcases hsup with hnone | htracks
    · rw [hr] at hnone
      cases hnone
    · exact follow _ htracks

theorem Coherent.applyFinality_eq (h : Coherent p) (hacc : p.acceptsFinality t v) :
    p.applyFinality p v = { p with registration := some (r.observeFinality v) }.setEffectiveState
        (r.observeFinality v).trackedState := by
  simp only [acceptsFinality, hr, any_some, Bool.and_eq_true, Bool.or_eq_true,
    Bool.not_eq_true', decide_eq_true_eq] at hacc
  obtain ⟨⟨hobs, -⟩, ⟨hfin, -⟩, hrec⟩ := hacc
  have hnext : p.updateActive (·.observeFinality v) =
      { p with registration := some (r.observeFinality v) } := by simp [updateActive, hr]
  simp only [applyFinality, hnext, registrationReady, any_some]
  rcases h.idle_or_tracked hr hobs with hidle | ⟨hidle, htracked⟩
  · have hnewer : r.reconciliationRevision < v := hrec.resolve_left (by simp [hidle])
    have hcurrent : (r.observeFinality v).finalityIsCurrent :=
      decide_eq_true hnewer.le
    rw [trackedState_observeFinality_of_idle hnewer]
    simp only [hidle, hcurrent, true_or, true_and, or_true, if_true]
    split_ifs <;> rfl
  · rw [trackedState_observeFinality hfin, htracked]
    simp only [hidle, Bool.false_eq_true, false_or]
    split_ifs
    · rfl
    · rfl
    · rw [← htracked]
      refine (h.setEffectiveState_same ?_).symm
      exact ⟨rfl, rfl, rfl, rfl, rfl⟩

theorem applyReconciliation_eq (hacc : p.acceptsReconciliation t v c) (hc : c ≠ .dropped) :
    p.applyReconciliation p v c = { p with
      registration := some (r.reconcile v c) }.setEffectiveState
        (r.reconcile v c).trackedState := by
  simp only [acceptsReconciliation, hr, any_some, Bool.and_eq_true, decide_eq_true_eq] at hacc
  obtain ⟨-, ⟨hrec, -⟩, -⟩ := hacc
  cases c with
  | included =>
    simp [applyReconciliation, updateActive, registrationReady, hr, trackedState_reconcile_included]
  | pending => simp [applyReconciliation, updateActive, hr, trackedState_reconcile_pending hrec]
  | dropped => exact absurd rfl hc

theorem applyReconciliation_dropped : p.applyReconciliation p v .dropped = { p with
      registration := some (r.reconcile v .dropped) }.setEffectiveState
        p.latestEligibilityState := by
  simp [applyReconciliation, updateActive, hr]

theorem Coherent.applyDust_eq (h : Coherent p)
    (hacc : p.acceptsDust t v) (hidle : p.isIdle = false) : p.applyDust p v a b = { p with
      registration := some (r.refreshDust v a b) }.setEffectiveState
        (r.refreshDust v a b).trackedState := by
  simp only [acceptsDust, Bool.and_eq_true] at hacc
  obtain ⟨⟨hobs, -⟩, -⟩ := hacc
  have htracked : p.effectiveState = r.trackedState :=
    ((h.idle_or_tracked hr hobs).resolve_left (by simp [hidle])).2
  have hnext : p.updateActive (·.refreshDust v a b) =
      { p with registration := some (r.refreshDust v a b) } := by simp [updateActive, hr]
  simp only [applyDust, hnext, registrationReady, any_some, trackedState_refreshDust, htracked]
  split_ifs
  · rfl
  · rfl
  · rw [← htracked]
    refine (h.setEffectiveState_same ?_).symm
    exact ⟨rfl, rfl, rfl, rfl, rfl⟩

theorem applyDust_of_idle (hidle : p.isIdle) : p.applyDust p v a b =
      if (r.refreshDust v a b).isReady then
        { p with registration := some (r.refreshDust v a b) }.setEffectiveState .ready
      else { p with registration := some (r.refreshDust v a b) } := by
  have hnext : p.updateActive (·.refreshDust v a b) =
      { p with registration := some (r.refreshDust v a b) } := by simp [updateActive, hr]
  have hready : p.effectiveState ≠ .ready := by
    intro hs
    simp [isIdle, hs] at hidle
  simp only [applyDust, hnext, registrationReady, any_some, if_neg hready]

end

end Observations

end Oxid.Wallet.DustRegistration
