import Oxid.Wallet.DustRegistration.Recovery
import Oxid.Wallet.DustRegistration.Retention

/-!
# Readiness is sound

`Ready` is shown, or retained behind an outage, because the chain already had the
registration, which is followed through the run, or because it was included and a DUST refresh
bound to its latest observation found it ready, which is part of coherence.
-/

namespace Oxid.Wallet.DustRegistration

open Projection

/-- The run took up that the chain already had the registration. -/
def FoundCurrent (start : Projection) (es : List Event) (p : Projection) : Prop :=
  ∃ before after i r p₀ p₁, es = before ++ .registrationAlreadyCurrent i r :: after ∧
    p.identity = some i ∧ runEvents start before = some p₀ ∧
    reduceSettlement p₀ (.registrationAlreadyCurrent i r) = some p₁ ∧ p₁ ≠ p₀

section Steps
variable {start p q : Projection} {e : Event} {es : List Event}

theorem FoundCurrent.concat (h : FoundCurrent start es p) (hid : q.identity = p.identity)
    (e : Event) : FoundCurrent start (es ++ [e]) q := by
  obtain ⟨before, after, i, r, p₀, p₁, rfl, hi, hbefore, hstep, hne⟩ := h
  refine ⟨before, after ++ [e], i, r, p₀, p₁, ?_, hid.trans hi, hbefore, hstep, hne⟩
  rw [List.append_assoc, List.cons_append]

theorem ready_of_activeStep (h : Coherent p) (ha : Admits p e) (hstep : ActiveStep p e q)
    (hready : q.effectiveState = .ready) (hnone : q.registration = none) :
    (∃ i r, e = .registrationAlreadyCurrent i r ∧ p.effectiveState = .actionRequired) ∨
      p.effectiveState = .ready ∧ p.registration = none := by
  by_cases he : e.recoveryRevision.isSome
  · have hsame := sameWork_of_recovery h ha hstep he
    rw [hsame.effectiveState] at hready
    rw [hsame.registration] at hnone
    exact .inr ⟨hready, hnone⟩
  have observed : ∀ (r : Registration) (f : Registration → Registration),
      p.registration = some r → q.registration = p.registration.map f → False := by
    intro r f hr hq
    rw [hq, hr] at hnone
    cases hnone
  cases hstep with
  | eligibility i r b =>
    rw [h.applyEligibility_eq] at hready hnone
    rw [effectiveState_setEffectiveState] at hready
    rw [registration_setEffectiveState] at hnone
    refine .inr ⟨?_, hnone⟩
    revert hready
    cases p.effectiveState <;> cases b <;> simp [applyEligibilityTo]
  | alreadyCurrent i r asked => exact .inl ⟨i, r, rfl, asked⟩
  | reprepared => cases hnone
  | rejected =>
    rw [effectiveState_setEffectiveState] at hready
    rcases p.latestEligibilityState_eq with hl | hl <;> rw [hl] at hready <;> cases hready
  | backedOut =>
    rw [effectiveState_setEffectiveState] at hready
    rcases p.latestEligibilityState_eq with hl | hl <;> rw [hl] at hready <;> cases hready
  | prepared | withdrawn | authorized | submitted =>
    rw [effectiveState_setEffectiveState] at hready
    cases hready
  | finality i t v accepted =>
    obtain ⟨r, hr, -⟩ := acceptsFinality_registration accepted
    exact (observed r _ hr (registration_applyFinality p p v)).elim
  | reconciled i t v c accepted =>
    obtain ⟨r, hr, -⟩ := acceptsReconciliation_registration accepted
    exact (observed r _ hr (registration_applyReconciliation p p v c)).elim
  | refreshed i t v a b accepted =>
    obtain ⟨r, hr, -⟩ := acceptsDust_registration accepted
    exact (observed r _ hr (registration_applyDust p p v a b)).elim
  | abandoned i t a _ transaction =>
    obtain ⟨r, hr, -⟩ := hasTransaction_iff.mp transaction
    exact (observed r _ hr rfl).elim
  | cancelled | superseded =>
    rw [effectiveState_of_not_recoverable rfl] at hready
    cases hready
  | outage e k r _ revision => exact absurd (by rw [revision]; rfl) he
  | resumed | acknowledged | retried | retryParked => exact absurd rfl he

theorem ready_of_reduceSettlement (h : Coherent p) (hq : reduceSettlement p e = some q)
    (hready : q.effectiveState = .ready) (hnone : q.registration = none) : q.identity = p.identity ∧
      ((∃ i r, e = .registrationAlreadyCurrent i r ∧ p.identity = some i ∧
          p.effectiveState = .actionRequired) ∨
        p.effectiveState = .ready ∧ p.registration = none) := by
  cases reduceSettlement_cases h.fresh hq with
  | ignored => exact ⟨rfl, .inr ⟨hready, hnone⟩⟩
  | selected i r b =>
    rw [effectiveState_of_not_recoverable (by cases b <;> rfl)] at hready
    cases b <;> cases hready
  | parked q _ hp =>
    obtain ⟨parked, rfl⟩ := (reduceParked_cases hp).exists_eq
    exact ⟨rfl, .inr ⟨hready, hnone⟩⟩
  | active q ha _ hstep =>
    refine ⟨hstep.identity_eq, ?_⟩
    rcases ready_of_activeStep h ha hstep hready hnone with ⟨i, r, rfl, hasked⟩ | hbefore
    · exact .inl ⟨i, r, rfl, ha.identity_eq, hasked⟩
    · exact .inr hbefore
  | restored q ha hs _ hstep =>
    have hid : p.identity ≠ none := ha.identity_ne_none
    rcases ready_of_activeStep (h.restoreAbandoned hid hs) (ha.restoreAbandoned hs) hstep hready
        hnone with ⟨i, r, rfl, -⟩ | ⟨hbefore, -⟩
    · simp [supersedesAbandonedRegistration] at hs
    · rw [effectiveState_restoreAbandoned] at hbefore
      rcases p.latestEligibilityState_eq with hl | hl <;> rw [hl] at hbefore <;> cases hbefore

theorem foundCurrent_of_ready (hstart : Coherent start)
    (hheld : start.effectiveState = .ready → start.registration ≠ none) :
    ∀ es p, runEvents start es = some p → p.effectiveState = .ready → p.registration = none →
      FoundCurrent start es p := by
  refine Transition.run_induction (fun hready hnone => absurd hnone (hheld hready)) ?_
  intro es p e q hp ih hq hready hnone
  have hcoherent := coherent_runEvents hstart hp
  obtain ⟨hid, ⟨i, r, rfl, hi, hasked⟩ | ⟨hbefore, hbefore'⟩⟩ :=
    ready_of_reduceSettlement hcoherent hq hready hnone
  · refine ⟨es, [], i, r, p, q, rfl, hid.trans hi, hp, hq, ?_⟩
    rintro rfl
    rw [hready] at hasked
    cases hasked
  · exact (ih hbefore hbefore').concat hid e

end Steps

/-- **Readiness is sound.**  Readiness that is shown or retained was found current by an event of
the run, or rests on an included registration with a refresh bound to its latest observation. -/
theorem ready_sound {start p : Projection} (hstart : start = Projection.default ∨
      ∃ record : RecoveryRecord, record.validate = .ok () ∧ record.restore = .ok start)
    (es : List Event) (hp : runEvents start es = some p)
    (hready : p.state = .ready ∨ p.state.isRecoverable ∧ p.resumeState = some .ready) :
    p.registration = none ∧ FoundCurrent start es p ∨
      ∃ r t, p.registration = some r ∧ r.transactionId = some t ∧ r.included ∧
        r.dustReady ∧ r.dustObservationRevision = r.observationRevision := by
  have heff : p.effectiveState = .ready := by
    rcases hready with hs | ⟨hs, hr⟩
    · rw [effectiveState_of_not_recoverable (by rw [hs]; rfl), hs]
    · exact effectiveState_of_resumeState hs hr
  obtain ⟨hcoherent, hheld⟩ : Coherent start ∧
      (start.effectiveState = .ready → start.registration ≠ none) := by
    rcases hstart with rfl | ⟨record, -, hrestore⟩
    · refine ⟨coherent_default, fun hs => ?_⟩
      cases hs
    · exact ⟨coherent_of_restore hrestore, registration_ne_none_of_restore hrestore⟩
  have hsup := (coherent_runEvents hcoherent hp).supported
  rw [heff] at hsup
  rcases hsup with hnone | ⟨r, hr, hphase, htracked⟩
  · exact .inl ⟨hnone, foundCurrent_of_ready hcoherent hheld es p hp heff hnone⟩
  · have hwf := (coherent_runEvents hcoherent hp).active r hr
    obtain ⟨t, ht⟩ := Option.isSome_iff_exists.mp (hwf.submitted_iff.mp hphase)
    have hfacts := Registration.trackedState_eq_ready.mp htracked
    simp only [Registration.isReady, Bool.and_eq_true, decide_eq_true_eq] at hfacts
    exact .inr ⟨r, t, hr, ht, hfacts.1.1, hfacts.1.2, hfacts.2⟩

namespace Sample

def readyRecord : RecoveryRecord where
  version := recoveryVersion
  profileId := "profile_test"
  realmId := "undeployed"
  generation := 1
  eligibilityRevision := 1
  eligible := true
  preparationRevision := 1
  recoveryRevision := 0
  state := .ready
  registration := some {
    draftId := "dustreg_test"
    authorizationPhase := .submitted
    transactionId := some "tx_test"
    observationRevision := 4
    finalityRevision := 3
    reconciliationRevision := 4
    dustRevision := 5
    dustObservationRevision := 4
    dustReady := true
    included := true
    abandonmentRevision := 0 }

def restoredReady : Projection :=
  readyRecord.restore.toOption.getD Projection.default

def restoredOffline : Projection :=
  (runEvents restoredReady [.offline identity 1]).getD Projection.default

end Sample

open Sample

theorem ready_sound_restored_offline : restoredOffline.state = .offline ∧
      (restoredOffline.registration = none ∧
          FoundCurrent restoredReady [.offline identity 1] restoredOffline ∨
        ∃ r t, restoredOffline.registration = some r ∧ r.transactionId = some t ∧
          r.included ∧ r.dustReady ∧ r.dustObservationRevision = r.observationRevision) :=
  ⟨by decide +kernel, ready_sound
    (.inr ⟨readyRecord, by decide +kernel, by decide +kernel⟩)
    [.offline identity 1] (by decide +kernel) (by decide +kernel)⟩

end Oxid.Wallet.DustRegistration
