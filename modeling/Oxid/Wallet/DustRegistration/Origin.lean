import Oxid.Wallet.DustRegistration.Retention

/-!
# Where a registration comes from

A registration held after a step was held before it, was prepared by it, or was held with one
thing less known of it.  So a property of registrations that survives each kind of change is
an invariant of both slots.
-/

namespace Oxid.Wallet.DustRegistration

open Projection Option

/-- The active slot or the parked one. -/
def Projection.Holds (p : Projection) (r : Registration) : Prop :=
  p.registration = some r ∨ p.abandonedRegistration = some r

/-- Where a registration that is held after the event comes from. -/
inductive Origin (p : Projection) (e : Event) : Registration → Prop
  | kept {r} (held : p.Holds r) : Origin p e r
  | prepared (d) : Origin p e (pendingRegistration d)
  | authorized {r} (held : p.Holds r) (awaiting : r.authorizationPhase = .awaitingAuthorization)
      {i : Identity} (event : e = .authorizationSucceeded i r.draftId)
      (selected : p.identity = some i) : Origin p e r.authorize
  | submitted {r : Registration} (held : p.Holds r)
      (submitting : r.authorizationPhase = .submitting) (t : ChainTransactionId) :
      Origin p e (r.submit t)
  | finality {r : Registration} (held : p.Holds r) {v : UInt64}
      (newer : r.finalityRevision < v) : Origin p e (r.observeFinality v)
  | reconciled {r : Registration} (held : p.Holds r) {v : UInt64}
      (newer : r.reconciliationRevision < v) (c : Reconciliation) : Origin p e (r.reconcile v c)
  | refreshed {r : Registration} (held : p.Holds r) {v : UInt64} (newer : r.dustRevision < v)
      (a : UInt64) (b : Bool) : Origin p e (r.refreshDust v a b)
  | abandoned {r : Registration} (active : p.registration = some r)
      (asked : p.effectiveState = .actionRequired) {i : Identity} {t : ChainTransactionId}
      {a : UInt64} (event : e = .droppedRegistrationAbandoned i t a)
      (selected : p.identity = some i) (transaction : p.hasTransaction t)
      (newer : r.observationRevision < a) (dust : r.dustObservationRevision ≤ a) :
      Origin p e (r.abandon a)

section Steps
variable {p q : Projection} {e : Event} {r : Registration}

theorem holds_restoreAbandoned : p.restoreAbandoned.Holds r ↔ p.Holds r := by
  simp only [Projection.Holds, registration_restoreAbandoned,
    abandonedRegistration_restoreAbandoned]
  exact or_comm

theorem holds_of_takeParked {s} (h : (p.takeParked.setEffectiveState s).Holds r) : p.Holds r := by
  rcases h with h | h
  · rw [registration_setEffectiveState] at h
    exact .inr h
  · rw [abandonedRegistration_setEffectiveState] at h
    cases h

theorem origin_of_activeStep (h : Coherent p) (ha : Admits p e) (hstep : ActiveStep p e q)
    (hr : q.Holds r) : Origin p e r := by
  by_cases he : e.recoveryRevision.isSome
  · have hsame := sameWork_of_recovery h ha hstep he
    rw [Projection.Holds, hsame.registration, hsame.abandonedRegistration] at hr
    exact .kept hr
  have hsup := h.supported
  -- an arm that changes the active registration keeps the parked one
  have changed : ∀ (f : Registration → Registration), q.registration = p.registration.map f →
      q.abandonedRegistration = p.abandonedRegistration →
      (∀ x, p.registration = some x → Origin p e (f x)) → Origin p e r := by
    intro f hactive hparked horigin
    rcases hr with hr | hr
    · rw [hactive] at hr
      obtain ⟨x, hx, rfl⟩ := map_eq_some_iff.mp hr
      exact horigin x hx
    · exact .kept (.inr (hparked ▸ hr))
  cases hstep with
  | eligibility =>
    rw [h.applyEligibility_eq, Projection.Holds, registration_setEffectiveState,
      abandonedRegistration_setEffectiveState] at hr
    exact .kept hr
  | alreadyCurrent =>
    rcases hr with hr | hr
    · simp at hr
    · rw [abandonedRegistration_setEffectiveState] at hr
      exact .kept (.inr hr)
  | prepared i d =>
    rcases hr with hr | hr
    · rw [registration_setEffectiveState, some.injEq] at hr
      exact hr ▸ .prepared d
    · simp only [abandonedRegistration_setEffectiveState] at hr
      split_ifs at hr
      · exact .kept (.inl hr)
      · exact .kept (.inr hr)
  | reprepared i d =>
    rcases hr with hr | hr
    · cases hr
      exact .prepared d
    · exact .kept (.inr hr)
  | withdrawn | rejected | backedOut => exact .kept (holds_of_takeParked hr)
  | authorized i d awaiting draft =>
    rw [awaiting] at hsup
    obtain ⟨⟨x, hx, hphase⟩, -⟩ := hsup
    obtain ⟨x', hx', hd⟩ := hasDraft_iff.mp draft
    refine changed (·.authorize) (by simp) (by simp) fun y hy => ?_
    rw [hx, some.injEq] at hx' hy
    subst hx' hy hd
    exact .authorized (.inl hx) hphase rfl ha.identity_eq
  | submitted i d t submitting =>
    rw [submitting] at hsup
    obtain ⟨⟨x, hx, hphase⟩, -⟩ := hsup
    refine changed (·.submit t) (by simp) (by simp) fun y hy => ?_
    rw [hx, some.injEq] at hy
    subst hy
    exact .submitted (.inl hx) hphase t
  | finality i t v accepted =>
    obtain ⟨x, hx, -, hv, -⟩ := acceptsFinality_registration accepted
    refine changed (·.observeFinality v) (by simp) (by simp) fun y hy => ?_
    rw [hx, some.injEq] at hy
    subst hy
    exact .finality (.inl hx) hv
  | reconciled i t v c accepted =>
    obtain ⟨x, hx, -, hv, -⟩ := acceptsReconciliation_registration accepted
    refine changed (·.reconcile v c) (by simp) (by simp) fun y hy => ?_
    rw [hx, some.injEq] at hy
    subst hy
    exact .reconciled (.inl hx) hv c
  | refreshed i t v a b accepted =>
    obtain ⟨x, hx, -, hv⟩ := acceptsDust_registration accepted
    refine changed (·.refreshDust v a b) (by simp) (by simp) fun y hy => ?_
    rw [hx, some.injEq] at hy
    subst hy
    exact .refreshed (.inl hx) hv a b
  | abandoned i t a asked transaction newer =>
    refine changed (·.abandon a) rfl rfl fun x hx => ?_
    rw [hx, any_some, Bool.and_eq_true, decide_eq_true_eq, decide_eq_true_eq] at newer
    exact .abandoned hx asked rfl ha.identity_eq transaction newer.1 newer.2
  | cancelled =>
    rcases hr with hr | hr
    · cases hr
    · exact .kept (.inr hr)
  | superseded => rcases hr with hr | hr <;> cases hr
  | outage e k v _ revision => exact absurd (by rw [revision]; rfl) he
  | resumed | acknowledged | retried | retryParked => exact absurd rfl he

theorem origin_of_reduceParked (ha : Admits p e) (hq : p.reduceParked e = some q)
    (hr : q.Holds r) : Origin p e r := by
  cases reduceParked_cases hq with
  | submitted i d t hd =>
    obtain ⟨x, hx, -, hphase⟩ := parkedIn_iff.mp hd
    rcases hr with hr | hr
    · exact .kept (.inl hr)
    · rw [updateParked, hx] at hr
      cases hr
      exact .submitted (.inr hx) hphase t
  | authorized i d hd =>
    obtain ⟨x, hx, rfl, hphase⟩ := parkedIn_iff.mp hd
    rcases hr with hr | hr
    · exact .kept (.inl hr)
    · rw [updateParked, hx] at hr
      cases hr
      exact .authorized (.inr hx) hphase rfl ha.identity_eq
  | withdrawn | rejected | backedOut =>
    rcases hr with hr | hr
    · exact .kept (.inl hr)
    · cases hr

theorem Origin.of_restoreAbandoned (hs : p.supersedesAbandonedRegistration e)
    (h : Origin p.restoreAbandoned e r) : Origin p e r := by
  cases h with
  | kept held => exact .kept (holds_restoreAbandoned.mp held)
  | prepared d => exact .prepared d
  | authorized held awaiting event selected =>
    rw [identity_restoreAbandoned] at selected
    exact .authorized (holds_restoreAbandoned.mp held) awaiting event selected
  | submitted held submitting t => exact .submitted (holds_restoreAbandoned.mp held) submitting t
  | finality held newer => exact .finality (holds_restoreAbandoned.mp held) newer
  | reconciled held newer c => exact .reconciled (holds_restoreAbandoned.mp held) newer c
  | refreshed held newer a b => exact .refreshed (holds_restoreAbandoned.mp held) newer a b
  | abandoned _ _ event =>
    obtain ⟨_, _, -, -, ⟨_, _, h⟩ | ⟨_, _, _, h⟩ | ⟨_, _, _, _, h⟩⟩ := supersedes_cases hs <;>
      cases h.symm.trans event

theorem origin_of_reduceSettlement (h : Coherent p) (hq : reduceSettlement p e = some q)
    (hr : q.Holds r) : Origin p e r := by
  cases reduceSettlement_cases h.fresh hq with
  | ignored => exact .kept hr
  | selected => rcases hr with hr | hr <;> cases hr
  | parked q ha hp => exact origin_of_reduceParked ha hp hr
  | active q ha _ hstep => exact origin_of_activeStep h ha hstep hr
  | restored q ha hs _ hstep =>
    have hid : p.identity ≠ none := ha.identity_ne_none
    exact (origin_of_activeStep (h.restoreAbandoned hid hs) (ha.restoreAbandoned hs) hstep
      hr).of_restoreAbandoned hs

theorem identity_eq_of_holds (h : Coherent p) (hq : reduceSettlement p e = some q)
    (hr : q.Holds r) : q.identity = p.identity := by
  cases reduceSettlement_cases h.fresh hq with
  | ignored => rfl
  | selected => rcases hr with hr | hr <;> cases hr
  | parked q _ hp =>
    obtain ⟨parked, rfl⟩ := (reduceParked_cases hp).exists_eq
    rfl
  | active q _ _ hstep => exact hstep.identity_eq
  | restored q _ _ _ hstep => exact hstep.identity_eq.trans (identity_restoreAbandoned p)

end Steps

end Oxid.Wallet.DustRegistration
