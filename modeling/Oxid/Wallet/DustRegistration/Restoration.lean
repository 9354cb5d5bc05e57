import Oxid.Wallet.DustRegistration.Retention

/-!
# Bringing the parked registration back

New evidence about the parked registration's transaction swaps the two slots, falls back to
the latest eligibility, and hands the event to the reducer again.
-/

namespace Oxid.Wallet.DustRegistration

open Projection Option

namespace Projection

def activeTransaction (p : Projection) : Option ChainTransactionId :=
  p.registration.bind (·.transactionId)

def parkedTransaction (p : Projection) : Option ChainTransactionId :=
  p.abandonedRegistration.bind (·.transactionId)

end Projection

open Projection

def DistinctTransactions (p : Projection) : Prop :=
  ∀ t, p.activeTransaction = some t → p.parkedTransaction ≠ some t

def ReusesTransaction (p : Projection) : Event → Prop
  | .submissionAccepted identity draft transaction =>
    p.identity = some identity ∧
      (p.parkedIn draft .submitting ∧ p.activeTransaction = some transaction ∨
        p.effectiveState = .submitting ∧ p.hasDraft draft ∧
          p.parkedTransaction = some transaction)
  | _ => False

instance (p : Projection) (e : Event) : Decidable (ReusesTransaction p e) := by
  cases e <;> unfold ReusesTransaction <;> infer_instance

section Swap
variable {p q : Projection} {e : Event}

theorem DistinctTransactions.of_eq (h : DistinctTransactions p)
    (hactive : q.activeTransaction = p.activeTransaction)
    (hparked : q.parkedTransaction = p.parkedTransaction) : DistinctTransactions q := by
  intro t ht
  rw [hparked]
  exact h t (hactive ▸ ht)

theorem DistinctTransactions.of_active_none (h : q.activeTransaction = none) :
    DistinctTransactions q := by
  intro t ht
  rw [h] at ht
  cases ht

theorem DistinctTransactions.of_parked_none (h : q.parkedTransaction = none) :
    DistinctTransactions q := by
  intro t _ ht
  rw [h] at ht
  cases ht

theorem DistinctTransactions.restoreAbandoned (h : DistinctTransactions p) :
    DistinctTransactions p.restoreAbandoned := by
  intro t ht ht'
  simp only [activeTransaction, parkedTransaction, registration_restoreAbandoned,
    abandonedRegistration_restoreAbandoned] at ht ht'
  exact h t ht' ht

theorem DistinctTransactions.not_supersedes_restoreAbandoned (h : DistinctTransactions p)
    (hs : p.supersedesAbandonedRegistration e) :
    p.restoreAbandoned.supersedesAbandonedRegistration e = false := by
  by_contra hs'
  rw [Bool.not_eq_false] at hs'
  obtain ⟨parked, t, hparked, ht, he⟩ := supersedes_cases hs
  obtain ⟨active, t', hactive, ht', he'⟩ := supersedes_cases hs'
  have heq : t = t' := by
    rcases he with ⟨i, r, rfl⟩ | ⟨i, r, c, rfl⟩ | ⟨i, r, a, b, rfl⟩ <;> simpa using he'
  rw [abandonedRegistration_restoreAbandoned] at hactive
  refine h t' ?_ (?_ : p.parkedTransaction = some t')
  · simp [activeTransaction, hactive, ht']
  · simp [parkedTransaction, hparked, ht, heq]

theorem distinctTransactions_activeStep (h : Coherent p) (ha : Admits p e)
    (hd : DistinctTransactions p) (hnew : ¬ ReusesTransaction p e) (hstep : ActiveStep p e q) :
    DistinctTransactions q := by
  by_cases he : e.recoveryRevision.isSome
  · have hsame := sameWork_of_recovery h ha hstep he
    refine hd.of_eq ?_ ?_
    · rw [activeTransaction, hsame.registration, activeTransaction]
    · rw [parkedTransaction, hsame.abandonedRegistration, parkedTransaction]
  -- an observation changes the active registration but not what transaction it is
  have observed : ∀ f : Registration → Registration, (∀ r, (f r).transactionId = r.transactionId) →
      q.registration = p.registration.map f →
      q.abandonedRegistration = p.abandonedRegistration → DistinctTransactions q := by
    intro f hf hreg hparked
    refine hd.of_eq ?_ (by simp only [parkedTransaction, hparked])
    rw [activeTransaction, activeTransaction, hreg]
    cases p.registration with
    | none => rfl
    | some r => exact hf r
  cases hstep with
  | eligibility =>
    rw [h.applyEligibility_eq]
    exact hd.of_eq (by simp [activeTransaction]) (by simp [parkedTransaction])
  | alreadyCurrent => exact .of_active_none (by simp [activeTransaction])
  | prepared => exact .of_active_none (by simp [activeTransaction, pendingRegistration])
  | reprepared => exact .of_active_none (by simp [activeTransaction, pendingRegistration])
  | withdrawn | rejected | backedOut =>
    exact .of_parked_none (by simp [parkedTransaction, takeParked])
  | authorized => exact observed (·.authorize) (fun _ => rfl) (by simp) (by simp)
  | submitted i d t submitting draft =>
    intro t' ht' hp'
    refine hnew ⟨ha.identity_eq, .inr ⟨submitting, draft, ?_⟩⟩
    obtain ⟨r, hr, -⟩ := hasDraft_iff.mp draft
    simp only [activeTransaction, registration_setEffectiveState, registration_updateActive, hr,
      map_some, bind_some, Registration.submit, some.injEq] at ht'
    subst ht'
    simpa [parkedTransaction] using hp'
  | finality i t v => exact observed (·.observeFinality v) (fun _ => rfl) (by simp) (by simp)
  | reconciled i t v c => exact observed (·.reconcile v c) (fun _ => rfl) (by simp) (by simp)
  | refreshed i t v a b => exact observed (·.refreshDust v a b) (fun _ => rfl) (by simp) (by simp)
  | abandoned i t a => exact observed (·.abandon a) (fun _ => rfl) (by simp) (by simp)
  | cancelled i d _ _ unparked =>
    exact .of_parked_none (by simp [parkedTransaction, setState, unparked])
  | superseded => exact .of_active_none (by simp [activeTransaction, setState])
  | outage e k r _ revision => exact absurd (by rw [revision]; rfl) he
  | resumed | acknowledged | retried | retryParked => exact absurd rfl he

theorem distinctTransactions_reduceParked (ha : Admits p e) (hd : DistinctTransactions p)
    (hnew : ¬ ReusesTransaction p e) (hq : p.reduceParked e = some q) : DistinctTransactions q := by
  cases reduceParked_cases hq with
  | submitted i d t hp =>
    intro t' ht' hp'
    refine hnew ⟨ha.identity_eq, .inl ⟨hp, ?_⟩⟩
    obtain ⟨r, hr, -⟩ := parkedIn_iff.mp hp
    simp only [parkedTransaction, updateParked, hr, map_some, bind_some,
      Registration.submit, some.injEq] at hp'
    exact hp' ▸ ht'
  | authorized =>
    refine hd.of_eq rfl ?_
    simp only [parkedTransaction, updateParked]
    cases p.abandonedRegistration <;> rfl
  | withdrawn | rejected | backedOut => exact .of_parked_none rfl

theorem not_reusesTransaction_of_supersedes (hs : p.supersedesAbandonedRegistration e)
    (q : Projection) : ¬ ReusesTransaction q e := by
  obtain ⟨_, _, _, _, ⟨_, _, rfl⟩ | ⟨_, _, _, rfl⟩ | ⟨_, _, _, _, rfl⟩⟩ := supersedes_cases hs <;>
    exact id

theorem distinctTransactions_reduceSettlement (h : Coherent p) (hd : DistinctTransactions p)
    (hnew : ¬ ReusesTransaction p e) (hq : reduceSettlement p e = some q) :
    DistinctTransactions q := by
  cases reduceSettlement_cases h.fresh hq with
  | ignored => exact hd
  | selected => exact .of_active_none rfl
  | parked q ha hp => exact distinctTransactions_reduceParked ha hd hnew hp
  | active q ha _ hstep => exact distinctTransactions_activeStep h ha hd hnew hstep
  | restored q ha hs _ hstep =>
    have hid : p.identity ≠ none := ha.identity_ne_none
    exact distinctTransactions_activeStep (h.restoreAbandoned hid hs) (ha.restoreAbandoned hs)
      hd.restoreAbandoned (not_reusesTransaction_of_supersedes hs _) hstep

end Swap

/-- **The swap ends.**  In a run in which no submission reuses the transaction of
the other slot, every call returns, and no call swaps twice. -/
theorem swaps_once_without_reuse (es : List Event)
    (h : Transition.EveryStep reduceSettlement (fun p e => ¬ ReusesTransaction p e)
      default es) : ∃ p, runEvents default es = some p ∧ ∀ e, (p.supersedesAbandonedRegistration e →
          p.restoreAbandoned.supersedesAbandonedRegistration e = false) ∧
        ∃ q, reduceSettlement p e = some q := by
  have once : ∀ p : Projection, DistinctTransactions p → ∀ e, p.supersedesAbandonedRegistration e →
        p.restoreAbandoned.supersedesAbandonedRegistration e = false :=
    fun p hd e hs => hd.not_supersedes_restoreAbandoned hs
  obtain ⟨p, hp, -, hd⟩ := Transition.exists_run_of_everyStep
    (fun p => Coherent p ∧ DistinctTransactions p)
    ⟨coherent_default, .of_active_none rfl⟩
    (by
      rintro p e ⟨hc, hd⟩ hnew
      obtain ⟨q, hq⟩ := exists_reduceSettlement (once p hd e)
      exact ⟨q, hq, coherent_reduceSettlement hc hq,
        distinctTransactions_reduceSettlement hc hd hnew hq⟩) h
  exact ⟨p, hp, fun e => ⟨once p hd e, exists_reduceSettlement (once p hd e)⟩⟩

open Sample hiding identity

theorem swaps_once_without_reuse_resubmitted :
    ∃ p, runEvents default (resubmitted otherTransaction) = some p ∧
      ∃ q, reduceSettlement p (.finalityObserved Sample.identity transaction 4) = some q := by
  obtain ⟨p, hp, hp'⟩ :=
    swaps_once_without_reuse (resubmitted otherTransaction) (by decide +kernel)
  exact ⟨p, hp, (hp' _).2⟩

/-- The replacement submitted under the transaction of the registration it
replaces: the next finality observation swaps at every depth. -/
theorem reused_transaction_swaps_forever : Reachable (after (resubmitted transaction)) ∧
    (after (resubmitted transaction)).supersedesAbandonedRegistration
      (.finalityObserved Sample.identity transaction 4) ∧ (after
        (resubmitted transaction)).restoreAbandoned.supersedesAbandonedRegistration
      (.finalityObserved Sample.identity transaction 4) ∧
    ∀ depth, reduceWithin depth (after (resubmitted transaction))
      (.finalityObserved Sample.identity transaction 4) = none := by
  have hadmits : Admits (after (resubmitted transaction))
      (.finalityObserved Sample.identity transaction 4) :=
    ⟨by decide +kernel, by decide +kernel, by decide +kernel⟩
  refine ⟨reachable_after _ (by decide +kernel), by decide +kernel, by decide +kernel, ?_⟩
  exact reduceWithin_eq_none_of_supersedes hadmits (by decide +kernel) (by decide +kernel)

/-! ## Inclusion stays visible -/

structure ShowsInclusion (p : Projection) : Prop where
  active : p.isIdle → ∀ r, p.registration = some r → r.included = false
  parked : p.effectiveState = .awaitingAuthorization →
    ∀ r, p.abandonedRegistration = some r → r.included = false

/-- A DUST refresh brings an included registration back without making it ready. -/
def HidesInclusion (p : Projection) : Event → Prop
  | .dustRefreshed identity transaction revision afterObservationRevision ready =>
    p.identity = some identity ∧
      p.supersedesAbandonedRegistration
        (.dustRefreshed identity transaction revision afterObservationRevision ready) ∧
      p.abandonedRegistration.any (fun r => r.included &&
        !(r.refreshDust revision afterObservationRevision ready).isReady)
  | _ => False

instance (p : Projection) (e : Event) : Decidable (HidesInclusion p e) := by
  cases e <;> unfold HidesInclusion <;> infer_instance

section Inclusion
variable {p q : Projection} {e : Event} {r : Registration}

theorem showsInclusion_trackedState (q : Projection) (r : Registration) :
    ShowsInclusion (q.setEffectiveState r.trackedState) := by
  constructor
  · rw [isIdle_iff, effectiveState_setEffectiveState]
    rcases r.trackedState_cases with h | h | h <;> simp [h]
  · rw [effectiveState_setEffectiveState]
    rcases r.trackedState_cases with h | h | h <;> simp [h]

theorem showsInclusion_of_idle (hidle : q.isIdle)
    (h : ∀ r, q.registration = some r → r.included = false) : ShowsInclusion q := by
  refine ⟨fun _ => h, fun hs => ?_⟩
  rw [isIdle_iff, hs] at hidle
  simp at hidle

theorem showsInclusion_of_busy (hidle : q.isIdle = false)
    (hawaiting : q.effectiveState ≠ .awaitingAuthorization) : ShowsInclusion q := by
  refine ⟨fun h => ?_, fun h => absurd h hawaiting⟩
  rw [hidle] at h
  cases h

theorem isIdle_latestEligibilityState (q p : Projection) :
    (q.setEffectiveState p.latestEligibilityState).isIdle := by
  rw [isIdle_iff, effectiveState_setEffectiveState]
  exact p.latestEligibilityState_eq

theorem showsInclusion_reconciled {t v c} (hacc : p.acceptsReconciliation t v c) :
    ShowsInclusion (p.applyReconciliation p v c) := by
  obtain ⟨r, hr, -⟩ := acceptsReconciliation_registration hacc
  by_cases hc : c = .dropped
  · subst hc
    rw [applyReconciliation_dropped hr]
    refine showsInclusion_of_idle (isIdle_latestEligibilityState _ p) ?_
    intro r' hr'
    rw [registration_setEffectiveState, some.injEq] at hr'
    rw [← hr']
    rfl
  · rw [applyReconciliation_eq hr hacc hc]
    exact showsInclusion_trackedState _ _

theorem showsInclusion_refreshed (h : Coherent p) {t v a b} (hacc : p.acceptsDust t v)
    (hready : p.isIdle → ∀ r, p.registration = some r → r.included →
      (r.refreshDust v a b).isReady) : ShowsInclusion (p.applyDust p v a b) := by
  obtain ⟨r, hr, -⟩ := acceptsDust_registration hacc
  cases hidle : p.isIdle with
  | false =>
    rw [h.applyDust_eq hr hacc hidle]
    exact showsInclusion_trackedState _ _
  | true =>
    rw [applyDust_of_idle hr hidle]
    split_ifs with hr'
    · refine showsInclusion_of_busy ?_ (by simp)
      simp [isIdle]
    · refine showsInclusion_of_idle hidle ?_
      intro r₁ hr₁
      cases hr₁
      by_contra hincluded
      exact hr' (hready hidle r hr (by simpa [Registration.refreshDust] using hincluded))

theorem showsInclusion_takeParked (hs : ShowsInclusion p)
    (hawaiting : p.effectiveState = .awaitingAuthorization) {s}
    (hidle : s = .notEligible ∨ s = .actionRequired) :
    ShowsInclusion (p.takeParked.setEffectiveState s) := by
  refine showsInclusion_of_idle ?_ ?_
  · rwa [isIdle_iff, effectiveState_setEffectiveState]
  · rw [registration_setEffectiveState]
    exact hs.parked hawaiting

theorem showsInclusion_activeStep (h : Coherent p) (ha : Admits p e) (hs : ShowsInclusion p)
    (hstep : ActiveStep p e q) : ShowsInclusion q := by
  by_cases he : e.recoveryRevision.isSome
  · have hsame := sameWork_of_recovery h ha hstep he
    constructor
    · rw [isIdle_iff, hsame.effectiveState, ← isIdle_iff, hsame.registration]
      exact hs.active
    · rw [hsame.effectiveState, hsame.abandonedRegistration]
      exact hs.parked
  cases hstep with
  | eligibility i r b =>
    rw [h.applyEligibility_eq]
    constructor
    · intro hidle
      rw [registration_setEffectiveState]
      refine hs.active ?_
      rw [isIdle_iff, effectiveState_setEffectiveState] at hidle
      rw [isIdle_iff]
      revert hidle
      cases p.effectiveState <;> simp [applyEligibilityTo]
    · intro hawaiting
      rw [abandonedRegistration_setEffectiveState]
      refine hs.parked ?_
      rw [effectiveState_setEffectiveState] at hawaiting
      revert hawaiting
      cases p.effectiveState <;> cases b <;> simp [applyEligibilityTo]
  | alreadyCurrent => exact showsInclusion_of_busy (by simp [isIdle]) (by simp)
  | prepared i d r asked _ unparked =>
    refine ⟨fun hidle => ?_, fun _ r' hr' => ?_⟩
    · simp [isIdle] at hidle
    · simp only [abandonedRegistration_setEffectiveState] at hr'
      split_ifs at hr'
      · exact hs.active (isIdle_iff.mpr (.inr asked)) r' hr'
      · rw [unparked] at hr'
        cases hr'
  | reprepared i d r awaiting =>
    refine ⟨fun hidle => ?_, fun _ => hs.parked awaiting⟩
    have : p.isIdle := hidle
    simp [isIdle, awaiting] at this
  | withdrawn i d awaiting => exact showsInclusion_takeParked hs awaiting (.inl rfl)
  | authorized => exact showsInclusion_of_busy (by simp [isIdle]) (by simp)
  | rejected i d awaiting => exact showsInclusion_takeParked hs awaiting p.latestEligibilityState_eq
  | submitted => exact showsInclusion_of_busy (by simp [isIdle]) (by simp)
  | finality i t v accepted =>
    obtain ⟨r, hr, -⟩ := acceptsFinality_registration accepted
    rw [h.applyFinality_eq hr accepted]
    exact showsInclusion_trackedState _ _
  | reconciled i t v c accepted => exact showsInclusion_reconciled accepted
  | refreshed i t v a b accepted =>
    refine showsInclusion_refreshed h accepted fun hidle r hr hincluded => ?_
    rw [hs.active hidle r hr] at hincluded
    cases hincluded
  | abandoned i t a asked =>
    have hidle : p.isIdle := isIdle_iff.mpr (.inr asked)
    refine showsInclusion_of_idle hidle fun r' hr' => ?_
    obtain ⟨r, hr, rfl⟩ := map_eq_some_iff.mp hr'
    exact hs.active hidle r hr
  | backedOut i d cancellable draft =>
    exact showsInclusion_takeParked hs (h.awaiting_of_canCancel cancellable draft)
      p.latestEligibilityState_eq
  | cancelled | superseded =>
    exact showsInclusion_of_busy rfl (by simp [effectiveState, setState, State.isRecoverable])
  | outage e k r _ revision => exact absurd (by rw [revision]; rfl) he
  | resumed | acknowledged | retried | retryParked => exact absurd rfl he

theorem showsInclusion_reduceParked (hs : ShowsInclusion p) (hq : p.reduceParked e = some q) :
    ShowsInclusion q := by
  have updated : ∀ f : Registration → Registration, (∀ r, (f r).included = r.included) →
      ShowsInclusion (p.updateParked f) := by
    refine fun f hf => ⟨hs.active, fun hawaiting r' hr' => ?_⟩
    obtain ⟨r, hr, rfl⟩ := map_eq_some_iff.mp hr'
    exact (hf r).trans (hs.parked hawaiting r hr)
  have discarded : ShowsInclusion { p with abandonedRegistration := none } := by
    refine ⟨hs.active, fun _ r hr => ?_⟩
    cases hr
  cases reduceParked_cases hq with
  | submitted | authorized => exact updated _ fun _ => rfl
  | withdrawn | rejected | backedOut => exact discarded

theorem showsInclusion_restored (h : Coherent p) (ha : Admits p e)
    (hsup : p.supersedesAbandonedRegistration e) (hvisible : ¬ HidesInclusion p e)
    (hstep : ActiveStep p.restoreAbandoned e q) : ShowsInclusion q := by
  have hid : p.identity ≠ none := ha.identity_ne_none
  have hcoh := h.restoreAbandoned hid hsup
  obtain ⟨parked, t', hparked, -, ⟨i, v, rfl⟩ | ⟨i, v, c, rfl⟩ | ⟨i, v, a, b, rfl⟩⟩ :=
    supersedes_cases hsup
  · cases hstep with
    | finality _ _ _ accepted =>
      obtain ⟨r, hr, -⟩ := acceptsFinality_registration accepted
      rw [hcoh.applyFinality_eq hr accepted]
      exact showsInclusion_trackedState _ _
    | outage _ _ _ announces => cases announces
  · cases hstep with
    | reconciled _ _ _ _ accepted => exact showsInclusion_reconciled accepted
    | outage _ _ _ announces => cases announces
  · cases hstep with
    | refreshed _ _ _ _ _ accepted =>
      refine showsInclusion_refreshed hcoh accepted fun _ r hr hincluded => ?_
      rw [registration_restoreAbandoned] at hr
      by_contra hready
      refine hvisible ⟨ha.identity_eq, hsup, ?_⟩
      rw [hr, any_some, hincluded, Bool.eq_false_iff.mpr hready]
      rfl
    | outage _ _ _ announces => cases announces

theorem showsInclusion_reduceSettlement (h : Coherent p) (hs : ShowsInclusion p)
    (hvisible : ¬ HidesInclusion p e) (hq : reduceSettlement p e = some q) : ShowsInclusion q := by
  cases reduceSettlement_cases h.fresh hq with
  | ignored => exact hs
  | selected i r =>
    constructor
    · intro _ r hr
      cases hr
    · intro _ r hr
      cases hr
  | parked q _ hp => exact showsInclusion_reduceParked hs hp
  | active q ha _ hstep => exact showsInclusion_activeStep h ha hs hstep
  | restored q ha hsup _ hstep => exact showsInclusion_restored h ha hsup hvisible hstep

theorem ShowsInclusion.reconciling_or_ready (hs : ShowsInclusion p) (h : Coherent p)
    (hr : p.registration = some r) (hincluded : r.included)
    (hunavailable : p.state ≠ .unavailable) (hcancelled : p.state ≠ .cancelled) :
    p.effectiveState = .reconciling ∨ p.effectiveState = .ready := by
  have hset := h.isSettled_effectiveState hunavailable hcancelled
  have hsup := h.supported
  have unsubmitted : ∀ phase, phase ≠ .submitted → p.ActiveIn phase → False := by
    rintro phase hne ⟨r', hr', rfl⟩
    rw [hr, some.injEq] at hr'
    subst hr'
    have := ((h.active r hr).blank hne).notIncluded
    rw [hincluded] at this
    cases this
  have idle : p.isIdle → False := by
    intro hidle
    have := hs.active hidle r hr
    rw [hincluded] at this
    cases this
  cases hstate : p.effectiveState <;> rw [hstate] at hset hsup
  case reconciling => exact .inl rfl
  case ready => exact .inr rfl
  case notEligible => exact (idle (isIdle_iff.mpr (.inl hstate))).elim
  case actionRequired => exact (idle (isIdle_iff.mpr (.inr hstate))).elim
  case awaitingAuthorization => exact (unsubmitted _ (by decide) hsup.1).elim
  case submitting => exact (unsubmitted _ (by decide) hsup.1).elim
  case confirming =>
    obtain ⟨r', hr', -, htracked⟩ := hsup
    rw [hr, some.injEq] at hr'
    subst hr'
    have := Registration.progressed_of_confirming htracked
    rw [hincluded] at this
    cases this
  all_goals cases hset

end Inclusion

/-- **An included registration is never presented as needing action**, in a run
in which no DUST refresh brings one back without making it ready. -/
theorem included_reconciling_or_ready (es : List Event) {p : Projection} {r : Registration}
    (h : Transition.EveryStep reduceSettlement (fun p e => ¬ HidesInclusion p e) default es)
    (hp : runEvents default es = some p) (hr : p.registration = some r)
    (hincluded : r.included) : p.state = .cancelled ∨ p.state = .unavailable ∨
      p.effectiveState = .reconciling ∨ p.effectiveState = .ready := by
  have hbase : ShowsInclusion default := showsInclusion_of_busy rfl (by decide)
  obtain ⟨hcoherent, hshows⟩ : Coherent p ∧ ShowsInclusion p :=
    Transition.run_invariant_of_everyStep (fun p => Coherent p ∧ ShowsInclusion p)
      ⟨coherent_default, hbase⟩
      (fun p e q hinv hvisible hq => ⟨coherent_reduceSettlement hinv.1 hq,
        showsInclusion_reduceSettlement hinv.1 hinv.2 hvisible hq⟩) h hp
  by_cases hcancelled : p.state = .cancelled
  · exact .inl hcancelled
  by_cases hunavailable : p.state = .unavailable
  · exact .inr (.inl hunavailable)
  · exact .inr (.inr (hshows.reconciling_or_ready hcoherent hr hincluded hunavailable hcancelled))

theorem included_reconciling_or_ready_reconciled : (after (includedParked ++
      [.registrationReconciled Sample.identity otherTransaction 6 .included])).state ≠
        .actionRequired := by
  obtain ⟨r, hr, hincluded⟩ : ∃ r, (after (includedParked ++
      [.registrationReconciled Sample.identity otherTransaction 6
        .included])).registration = some r ∧ r.included :=
    any_eq_true _ _ |>.mp (by decide +kernel)
  have := included_reconciling_or_ready (includedParked ++
    [.registrationReconciled Sample.identity otherTransaction 6 .included])
    (by decide +kernel) (by decide +kernel) hr hincluded
  intro hs
  rw [effectiveState_of_not_recoverable (by rw [hs]; rfl), hs] at this
  simp at this

/-- A DUST refresh that brings it back, not ready, shows it as needing action. -/
theorem included_shown_as_action_required : Reachable (after (includedParked ++
      [.dustRefreshed Sample.identity otherTransaction 1 6 false])) ∧ (after (includedParked ++
      [.dustRefreshed Sample.identity otherTransaction 1 6 false])).state = .actionRequired ∧
    ∃ r, (after (includedParked ++
      [.dustRefreshed Sample.identity otherTransaction 1 6 false])).registration =
        some r ∧ r.included := by
  refine ⟨reachable_after _ (by decide +kernel), by decide +kernel, ?_⟩
  exact any_eq_true _ _ |>.mp (by decide +kernel)

end Oxid.Wallet.DustRegistration
