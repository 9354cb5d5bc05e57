import Oxid.Wallet.DustRegistration.Coherence

/-!
# Registrations in flight are retained

A registration that was authorized may already have been broadcast.  Only a retirement, or an
observation that makes it moot, loses it: otherwise it stays in one of the two slots, as the
same draft and with the transaction it carried.
-/

namespace Oxid.Wallet.DustRegistration

open Projection

/-! ## Outages leave the work alone -/

structure SameWork (p q : Projection) : Prop where
  registration : q.registration = p.registration
  abandonedRegistration : q.abandonedRegistration = p.abandonedRegistration
  checkpoint : q.checkpoint = p.checkpoint
  identity : q.identity = p.identity
  effectiveState : q.effectiveState = p.effectiveState

section Work
variable {p q : Projection} {e : Event}

theorem sameWork_of_recovery (h : Coherent p) (ha : Admits p e) (hstep : ActiveStep p e q)
    (he : e.recoveryRevision.isSome) : SameWork p q := by
  have hset := h.isSettled_of_admits ha (Event.isSuperseded_of_recovery he)
  have hrec := State.not_recoverable_of_isSettled hset
  have uncovered : ∀ r pending, SameWork p (p.uncovered r pending) := fun r pending =>
    ⟨rfl, rfl, rfl, rfl, effectiveState_uncovered hrec pending⟩
  cases hstep with
  | outage e k r announces =>
    have hk := Event.isRecoverable_of_outage announces
    rcases h.outage_cases hk hset r with ⟨m, -, hout⟩ | hshown
    · rw [hout]
      exact uncovered m none
    · rw [hshown]
      exact ⟨rfl, rfl, rfl, rfl, effectiveState_covered hk⟩
  | resumed i r _ hidden =>
    rw [h.resume_hidden hidden]
    exact uncovered r none
  | acknowledged i r _ shown =>
    rw [h.resume_shown shown]
    exact uncovered r _
  | retried i r _ hidden =>
    rw [h.resume_hidden hidden]
    exact uncovered r none
  | retryParked => exact ⟨rfl, rfl, rfl, rfl, rfl⟩
  | _ => cases he

end Work

/-! ## Nothing in flight is lost -/

structure Registration.Continues (r r' : Registration) : Prop where
  draftId : r'.draftId = r.draftId
  inFlight : r'.authorizationPhase ≠ .awaitingAuthorization
  transactionId : ∀ t, r.transactionId = some t → r'.transactionId = some t

def CarriedTo (a b : Option Registration) : Prop :=
  ∀ r, a = some r → r.authorizationPhase ≠ .awaitingAuthorization →
    ∃ r', b = some r' ∧ r.Continues r'

def Retains (p q : Projection) : Prop :=
  CarriedTo p.registration q.registration ∧
      CarriedTo p.abandonedRegistration q.abandonedRegistration ∨
    CarriedTo p.registration q.abandonedRegistration ∧
      CarriedTo p.abandonedRegistration q.registration

variable {r : Registration}

section Retention
variable {p q : Projection} {e : Event} {a b c : Option Registration}

theorem CarriedTo.of_eq (h : b = a) : CarriedTo a b :=
  fun r hr hphase => ⟨r, h.trans hr, rfl, hphase, fun _ ht => ht⟩

theorem CarriedTo.of_none (h : a = none) : CarriedTo a b := by
  intro r hr
  rw [h] at hr
  cases hr

theorem CarriedTo.of_awaiting (hr : a = some r)
    (hphase : r.authorizationPhase = .awaitingAuthorization) : CarriedTo a b := by
  intro x hx hne
  rw [hr, Option.some.injEq] at hx
  exact absurd (hx ▸ hphase) hne

theorem CarriedTo.of_some (r' : Registration) (hr : a = some r) (hr' : b = some r')
    (hc : r.authorizationPhase ≠ .awaitingAuthorization → r.Continues r') : CarriedTo a b := by
  intro x hx hne
  rw [hr, Option.some.injEq] at hx
  subst hx
  exact ⟨r', hr', hc hne⟩

theorem Retains.of_restoreAbandoned (h : Retains p.restoreAbandoned q) : Retains p q := by
  simp only [Retains, registration_restoreAbandoned, abandonedRegistration_restoreAbandoned] at h
  exact h.symm.imp And.symm And.symm

theorem Registration.WellFormed.continues_submit (h : r.WellFormed)
    (hphase : r.authorizationPhase = .submitting) (t : ChainTransactionId) :
    r.Continues (r.submit t) := by
  refine ⟨rfl, by simp [Registration.submit], fun t' ht' => ?_⟩
  have := h.of_transaction ht'
  rw [hphase] at this
  cases this

theorem retains_takeParked (s : State) (h : p.ActiveIn .awaitingAuthorization) :
    Retains p (p.takeParked.setEffectiveState s) := by
  obtain ⟨r, hr, hphase⟩ := h
  exact .inr ⟨.of_awaiting hr hphase, .of_eq (by simp [takeParked])⟩

theorem retains_activeStep (h : Coherent p) (ha : Admits p e) (hstep : ActiveStep p e q)
    (hs : e.isSuperseded = false) (hcurrent : ∀ i r, e ≠ .registrationAlreadyCurrent i r) :
    Retains p q := by
  by_cases he : e.recoveryRevision.isSome
  · have hsame := sameWork_of_recovery h ha hstep he
    exact .inl ⟨.of_eq hsame.registration, .of_eq hsame.abandonedRegistration⟩
  have hsup := h.supported
  cases hstep with
  | eligibility =>
    rw [h.applyEligibility_eq]
    exact .inl ⟨.of_eq (by simp), .of_eq (by simp)⟩
  | alreadyCurrent i r => exact absurd rfl (hcurrent i r)
  | prepared i d r asked free unparked =>
    rw [asked] at hsup
    refine .inr ⟨?_, .of_none unparked⟩
    cases hr : p.registration with
    | none => exact .of_none rfl
    | some r₀ =>
      -- what is active here has been submitted, so it must be an abandoned one
      have hsub : p.hasSubmittedRegistration := by
        rw [hasSubmittedRegistration, hr]
        exact (h.active r₀ hr).submitted_iff.mp (hsup.2 r₀ hr)
      have habandoned := free.resolve_left (fun hn => hn hsub)
      exact .of_eq (by simp [habandoned])
  | reprepared i d r awaiting =>
    rw [awaiting] at hsup
    obtain ⟨⟨r₀, hr₀, hphase⟩, -⟩ := hsup
    exact .inl ⟨.of_awaiting hr₀ hphase, .of_eq rfl⟩
  | withdrawn i d awaiting =>
    rw [awaiting] at hsup
    exact retains_takeParked _ hsup.1
  | authorized i d awaiting =>
    rw [awaiting] at hsup
    obtain ⟨⟨r, hr, hphase⟩, -⟩ := hsup
    exact .inl ⟨.of_awaiting hr hphase, .of_eq (by simp)⟩
  | rejected i d awaiting =>
    rw [awaiting] at hsup
    exact retains_takeParked _ hsup.1
  | submitted i d t submitting =>
    rw [submitting] at hsup
    obtain ⟨⟨r, hr, hphase⟩, -⟩ := hsup
    refine .inl ⟨.of_some (r.submit t) hr (by simp [hr]) fun _ => ?_,
      .of_eq (by simp)⟩
    exact (h.active r hr).continues_submit hphase t
  | finality i t v accepted =>
    obtain ⟨r, hr, -⟩ := acceptsFinality_registration accepted
    refine .inl ⟨.of_some (r.observeFinality v) hr (by simp [hr]) fun hn => ?_,
      .of_eq (by simp)⟩
    exact ⟨rfl, hn, fun _ ht => ht⟩
  | reconciled i t v c accepted =>
    obtain ⟨r, hr, -⟩ := acceptsReconciliation_registration accepted
    refine .inl ⟨.of_some (r.reconcile v c) hr (by simp [hr]) fun hn => ?_,
      .of_eq (by simp)⟩
    exact ⟨rfl, hn, fun _ ht => ht⟩
  | refreshed i t v a b accepted =>
    obtain ⟨r, hr, -⟩ := acceptsDust_registration accepted
    refine .inl ⟨.of_some (r.refreshDust v a b) hr (by simp [hr]) fun hn => ?_,
      .of_eq (by simp)⟩
    exact ⟨rfl, hn, fun _ ht => ht⟩
  | abandoned i t a _ transaction =>
    obtain ⟨r, hr, -⟩ := hasTransaction_iff.mp transaction
    refine .inl ⟨.of_some (r.abandon a) hr (by simp [hr]) fun hn => ?_,
      .of_eq rfl⟩
    exact ⟨rfl, hn, fun _ ht => ht⟩
  | backedOut i d cancellable draft =>
    rw [h.awaiting_of_canCancel cancellable draft] at hsup
    exact retains_takeParked _ hsup.1
  | cancelled i d cancellable draft =>
    rw [h.awaiting_of_canCancel cancellable draft] at hsup
    obtain ⟨⟨r, hr, hphase⟩, -⟩ := hsup
    exact .inl ⟨.of_awaiting hr hphase, .of_eq rfl⟩
  | superseded => cases hs
  | outage e k r _ revision => exact absurd (by rw [revision]; rfl) he
  | resumed | acknowledged | retried | retryParked => exact absurd rfl he

theorem retains_reduceParked (h : Coherent p) (hq : p.reduceParked e = some q) : Retains p q := by
  have discarded : ∀ d, p.parkedIn d .awaitingAuthorization →
      Retains p { p with abandonedRegistration := none } := by
    intro d hd
    obtain ⟨r, hr, -, hphase⟩ := parkedIn_iff.mp hd
    exact .inl ⟨.of_eq rfl, .of_awaiting hr hphase⟩
  cases reduceParked_cases hq with
  | submitted i d t hd =>
    obtain ⟨r, hr, -, hphase⟩ := parkedIn_iff.mp hd
    refine .inl ⟨.of_eq rfl, .of_some (r.submit t) hr (by simp [updateParked, hr]) fun _ => ?_⟩
    exact (h.parked r hr).continues_submit hphase t
  | authorized i d hd =>
    obtain ⟨r, hr, -, hphase⟩ := parkedIn_iff.mp hd
    exact .inl ⟨.of_eq rfl, .of_awaiting hr hphase⟩
  | withdrawn i d hd | rejected i d hd | backedOut i d hd => exact discarded d hd

/-- **One step retains what is in flight**, unless it retires or replaces the
projection or finds the registration already current. -/
theorem retains_reduceSettlement (h : Coherent p) (hq : reduceSettlement p e = some q)
    (hs : e.isSuperseded = false) (hcurrent : ∀ i r, e ≠ .registrationAlreadyCurrent i r)
    (hid : e.isEligibility → p.identity ≠ none → q.identity = p.identity) : Retains p q := by
  cases reduceSettlement_cases h.fresh hq with
  | ignored => exact .inl ⟨.of_eq rfl, .of_eq rfl⟩
  | selected i r b he hsel =>
    rcases hsel with rfl | hsel
    · exact .inl ⟨.of_none rfl, .of_none rfl⟩
    · -- a selection of another identity is excluded
      obtain ⟨active, hactive, hne, -⟩ := hsel.other
      have heq := hid hsel.eligibility (by simp [hactive])
      rw [hactive] at heq
      subst he
      exact absurd (Option.some.inj heq) hne
  | parked q _ hp => exact retains_reduceParked h hp
  | active q ha _ hstep => exact retains_activeStep h ha hstep hs hcurrent
  | restored q ha hsup _ hstep =>
    have hne : p.identity ≠ none := ha.identity_ne_none
    exact (retains_activeStep (h.restoreAbandoned hne hsup) (ha.restoreAbandoned hsup) hstep
      hs hcurrent).of_restoreAbandoned

end Retention

/-- **No authorized or submitted registration is lost**, as long as the event does not retire the
projection, report the registration as already current or select another identity. -/
theorem inFlight_registration_held {p q : Projection} {e : Event} (h : Reachable p)
    (hq : reduceSettlement p e = some q) (hs : e.isSuperseded = false)
    (hcurrent : ∀ i r, e ≠ .registrationAlreadyCurrent i r)
    (hid : e.isEligibility → p.identity ≠ none → q.identity = p.identity) :
    ∀ r, p.registration = some r ∨ p.abandonedRegistration = some r →
      r.authorizationPhase = .submitting ∨ r.authorizationPhase = .submitted →
      ∃ r', (q.registration = some r' ∨ q.abandonedRegistration = some r') ∧
        r'.draftId = r.draftId ∧ ∀ t, r.transactionId = some t → r'.transactionId = some t := by
  intro r hr hphase
  have hne : r.authorizationPhase ≠ .awaitingAuthorization := by
    rcases hphase with hp | hp <;> simp [hp]
  rcases retains_reduceSettlement (coherent_of_reachable h) hq hs hcurrent hid with
      ⟨hactive, hparked⟩ | ⟨hactive, hparked⟩ <;> rcases hr with hr | hr
  · obtain ⟨r', hr', hc⟩ := hactive r hr hne
    exact ⟨r', .inl hr', hc.draftId, hc.transactionId⟩
  · obtain ⟨r', hr', hc⟩ := hparked r hr hne
    exact ⟨r', .inr hr', hc.draftId, hc.transactionId⟩
  · obtain ⟨r', hr', hc⟩ := hactive r hr hne
    exact ⟨r', .inr hr', hc.draftId, hc.transactionId⟩
  · obtain ⟨r', hr', hc⟩ := hparked r hr hne
    exact ⟨r', .inl hr', hc.draftId, hc.transactionId⟩

open Sample

theorem inFlight_registration_held_swapped : ∃ r', ((after (replacement ++
        [.authorizationSucceeded identity otherDraft,
          .finalityObserved identity transaction 4])).registration = some r' ∨
      (after (replacement ++ [.authorizationSucceeded identity otherDraft,
          .finalityObserved identity transaction 4])).abandonedRegistration =
        some r') ∧ r'.draftId = otherDraft := by
  obtain ⟨r', hr', hd, -⟩ := inFlight_registration_held (p := after (replacement ++
      [.authorizationSucceeded identity otherDraft]))
    (q := after (replacement ++
      [.authorizationSucceeded identity otherDraft,
        .finalityObserved identity transaction 4]))
    (e := .finalityObserved identity transaction 4)
    (reachable_after _ (by decide +kernel)) (by decide +kernel) rfl (by simp)
    (by simp [Event.isEligibility])
    ((pendingRegistration otherDraft).authorize)
    (.inl (by decide +kernel)) (.inl rfl)
  exact ⟨r', hr', hd⟩

end Oxid.Wallet.DustRegistration
