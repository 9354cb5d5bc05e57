import Oxid.Result
import Oxid.Wallet.DustRegistration.Coherence

/-!
# Recovery records

The record of `dust_registration_recovery.rs` keeps the public part of a projection across a
restart.  `validate` also asks that the recorded evidence supports the state, so the restored
projection is coherent.
-/

namespace Oxid.Wallet.DustRegistration

open Projection Result Option Registration

inductive RecoveryError
  | unsupportedVersion (found : UInt16)
  | invalidProfileIdentifier
  | invalidRealmIdentifier
  | invalidDraftIdentifier
  | invalidTransactionIdentifier
  | impossibleState
  | malformedEncoding
  deriving DecidableEq

/-- Identifiers are plain text here, and parsed again on the way back. -/
structure RecoveryRegistration where
  draftId : String
  authorizationPhase : AuthorizationPhase
  transactionId : Option String
  (observationRevision finalityRevision reconciliationRevision dustRevision : UInt64)
  dustObservationRevision : UInt64
  (dustReady included : Bool)
  abandonmentRevision : UInt64
  deriving DecidableEq

/-- The parked registration is not recorded. -/
structure RecoveryRecord where
  version : UInt16
  (profileId realmId : String)
  (generation eligibilityRevision : UInt64)
  eligible : Bool
  (preparationRevision recoveryRevision : UInt64)
  state : State
  registration : Option RecoveryRegistration
  deriving DecidableEq

def recoveryVersion : UInt16 := 1

def requirePhase (value : Option RecoveryRegistration) (phase : AuthorizationPhase) :
    Except RecoveryError RecoveryRegistration :=
  (value.filter fun r => r.authorizationPhase = phase).elim (.error .impossibleState) .ok

/-- With nothing under way, only a submission that was not given up is held. -/
def validateIdleOrRetainedSubmission (value : Option RecoveryRegistration) :
    Except RecoveryError Unit :=
  rejectIf (value.any fun r =>
    !(r.authorizationPhase = .submitted && r.abandonmentRevision = 0)) .impossibleState

namespace RecoveryRegistration

variable (value : RecoveryRegistration)

def validate : Except RecoveryError Unit := do
  let _ ← (WalletTransactionDraftId.parse value.draftId).mapError
    fun _ => RecoveryError.invalidDraftIdentifier
  let _ ← value.transactionId.mapM fun id =>
    (ChainTransactionId.parse id).mapError fun _ => RecoveryError.invalidTransactionIdentifier
  rejectIf (value.authorizationPhase = .submitted && value.transactionId.isNone)
    .impossibleState
  rejectIf (value.authorizationPhase ≠ .submitted && value.transactionId.isSome)
    .impossibleState
  rejectIf (value.authorizationPhase ≠ .submitted &&
    (value.observationRevision ≠ 0 || value.finalityRevision ≠ 0 ||
      value.reconciliationRevision ≠ 0 || value.dustRevision ≠ 0 ||
      value.dustObservationRevision ≠ 0 || value.dustReady || value.included ||
      value.abandonmentRevision ≠ 0)) .impossibleState
  rejectIf (value.authorizationPhase = .submitted &&
    (value.observationRevision ≠ max value.finalityRevision value.reconciliationRevision ||
      (value.dustReady && value.dustRevision = 0) ||
      (value.included && value.reconciliationRevision = 0))) .impossibleState

def parsed (draft : WalletTransactionDraftId) (transaction : Option ChainTransactionId) :
    Registration where
  draftId := draft
  authorizationPhase := value.authorizationPhase
  transactionId := transaction
  observationRevision := value.observationRevision
  finalityRevision := value.finalityRevision
  reconciliationRevision := value.reconciliationRevision
  dustRevision := value.dustRevision
  dustObservationRevision := value.dustObservationRevision
  dustReady := value.dustReady
  included := value.included
  abandonmentRevision := value.abandonmentRevision

def parseRegistration : Except RecoveryError Registration := do
  let draft ← (WalletTransactionDraftId.parse value.draftId).mapError
    fun _ => RecoveryError.invalidDraftIdentifier
  let transaction ← (value.transactionId.mapM ChainTransactionId.parse).mapError
    fun _ => RecoveryError.invalidTransactionIdentifier
  return value.parsed draft transaction

end RecoveryRegistration

namespace RecoveryRecord

variable (record : RecoveryRecord)

/-- Each state needs the evidence it claims; the others are never recorded. -/
def validateState : Except RecoveryError Unit :=
  match record.state with
  | .awaitingAuthorization => do
    let _ ← requirePhase record.registration .awaitingAuthorization
  | .submitting => do
    let _ ← requirePhase record.registration .submitting
  | .confirming => do
    let registration ← requirePhase record.registration .submitted
    rejectIf (registration.included || registration.abandonmentRevision ≠ 0 ||
      (registration.observationRevision ≠ 0 &&
        registration.reconciliationRevision ≤ registration.finalityRevision)) .impossibleState
  | .reconciling => do
    let registration ← requirePhase record.registration .submitted
    rejectIf (registration.abandonmentRevision ≠ 0 ||
      (registration.dustReady && registration.included &&
        registration.dustObservationRevision = registration.observationRevision) ||
      (!registration.included && registration.observationRevision = 0) ||
      (!registration.included &&
        registration.finalityRevision < registration.reconciliationRevision)) .impossibleState
  | .ready => do
    let registration ← requirePhase record.registration .submitted
    rejectIf (!(registration.included && registration.dustReady &&
      registration.dustObservationRevision = registration.observationRevision &&
      registration.abandonmentRevision = 0)) .impossibleState
  | .actionRequired => do
    rejectIf (!record.eligible) .impossibleState
    validateIdleOrRetainedSubmission record.registration
  | .notEligible => do
    rejectIf record.eligible .impossibleState
    validateIdleOrRetainedSubmission record.registration
  | _ => .error .impossibleState

def validate : Except RecoveryError Unit := do
  rejectIf (record.version ≠ recoveryVersion) (.unsupportedVersion record.version)
  let _ ← (WalletProfileId.parse record.profileId).mapError
    fun _ => RecoveryError.invalidProfileIdentifier
  let _ ← (ChainNetworkId.parse record.realmId).mapError
    fun _ => RecoveryError.invalidRealmIdentifier
  let _ ← record.registration.mapM (·.validate)
  record.validateState

def recoveredProjection (state : State) (identity : Identity)
    (registration : Option Registration) (checkpoint : Checkpoint)
    (preparationRevision recoveryRevision : UInt64) : Projection where
  state := state
  identity := some identity
  registration := registration
  checkpoint := some checkpoint
  preparationRevision := preparationRevision
  recoveryRevision := recoveryRevision
  abandonedRegistration := none
  resumeState := none
  pendingRetryRevision := none

/-- The projection begins without a parked registration and without a retry. -/
def restore : Except RecoveryError Projection := do
  record.validate
  let profile ← (WalletProfileId.parse record.profileId).mapError
    fun _ => RecoveryError.invalidProfileIdentifier
  let realm ← (ChainNetworkId.parse record.realmId).mapError
    fun _ => RecoveryError.invalidRealmIdentifier
  let identity : Identity := ⟨profile, realm, record.generation⟩
  let registration ← record.registration.mapM (·.parseRegistration)
  return recoveredProjection record.state identity registration
    ⟨identity, record.eligibilityRevision, record.eligible⟩ record.preparationRevision
    record.recoveryRevision

end RecoveryRecord

section Registrations
variable {value : RecoveryRegistration} {r : Registration}

theorem requirePhase_ok_iff {recorded phase} : requirePhase recorded phase = .ok value ↔
      recorded = some value ∧ value.authorizationPhase = phase := by
  cases recorded with
  | none => simp [requirePhase]
  | some x =>
    by_cases hx : x.authorizationPhase = phase
    · simp only [requirePhase, Option.filter, hx, decide_true, if_true, Option.elim,
        Except.ok.injEq, Option.some.injEq]
      exact ⟨fun h => ⟨h, h ▸ hx⟩, fun h => h.1⟩
    · simp only [requirePhase, Option.filter, hx, decide_false, Bool.false_eq_true, if_false,
        Option.elim, reduceCtorEq, Option.some.injEq, false_iff, not_and]
      rintro rfl
      exact hx

theorem parseRegistration_eq_parsed (h : value.parseRegistration = .ok r) :
    ∃ d t, t.isSome = value.transactionId.isSome ∧ r = value.parsed d t := by
  simp only [RecoveryRegistration.parseRegistration, bind_ok_iff, mapError_ok_iff, mapM_ok_iff] at h
  obtain ⟨d, -, t, ht, hr⟩ := h
  refine ⟨d, t, ?_, (Except.ok.inj hr).symm⟩
  rcases ht with ⟨hnone, rfl⟩ | ⟨a, b, hsome, -, rfl⟩
  · rw [hnone]
    rfl
  · rw [hsome]
    rfl

theorem wellFormed_parsed (h : value.validate = .ok ()) (d : WalletTransactionDraftId) {t}
    (ht : t.isSome = value.transactionId.isSome) : (value.parsed d t).WellFormed := by
  simp only [RecoveryRegistration.validate, bind_ok_iff, rejectIf_ok_iff, exists_const,
    Bool.and_eq_false_iff, Bool.or_eq_false_iff, decide_eq_false_iff_not, not_not, ne_eq] at h
  obtain ⟨-, -, -, -, hnamed, hunnamed, hblank, hobserved⟩ := h
  constructor
  · rw [show (value.parsed d t).transactionId.isSome = value.transactionId.isSome from ht]
    refine ⟨fun hs => ?_, fun hs => ?_⟩
    · have := hnamed.resolve_left (fun hn => hn hs)
      rwa [isNone_eq_false_iff] at this
    · exact hunnamed.resolve_right (by simp [hs])
  · intro hne
    obtain ⟨⟨⟨⟨⟨⟨⟨ho, hf⟩, hr⟩, hd⟩, hdo⟩, hready⟩, hincluded⟩, ha⟩ := hblank.resolve_left hne
    exact ⟨ho, hf, hr, hd, hdo, hready, hincluded, ha⟩
  · rcases hblank with hs | hb
    · exact (hobserved.resolve_left (fun hn => hn hs)).1.1
    · simp [RecoveryRegistration.parsed, hb]

end Registrations

section Records
variable {record : RecoveryRecord} {p : Projection}

open RecoveryRecord

theorem restore_ok_iff : record.restore = .ok p ↔ record.validate = .ok () ∧
    ∃ profile realm registration, WalletProfileId.parse record.profileId = .ok profile ∧
      ChainNetworkId.parse record.realmId = .ok realm ∧
      record.registration.mapM (·.parseRegistration) = .ok registration ∧
      p = recoveredProjection record.state ⟨profile, realm, record.generation⟩
        registration ⟨⟨profile, realm, record.generation⟩, record.eligibilityRevision,
          record.eligible⟩ record.preparationRevision record.recoveryRevision := by
  simp only [restore, bind_ok_iff, mapError_ok_iff]
  constructor
  · rintro ⟨⟨⟩, hv, profile, hp, realm, hr, registration, hreg, heq⟩
    exact ⟨hv, profile, realm, registration, hp, hr, hreg, (Except.ok.inj heq).symm⟩
  · rintro ⟨hv, profile, realm, registration, hp, hr, hreg, rfl⟩
    exact ⟨(), hv, profile, hp, realm, hr, registration, hreg, rfl⟩

theorem registration_of_restore (hv : record.validate = .ok ()) {registration}
    (h : record.registration.mapM (·.parseRegistration) = .ok registration) :
    record.registration = none ∧ registration = none ∨
      ∃ value d t, record.registration = some value ∧ registration = some (value.parsed d t) ∧
        (value.parsed d t).WellFormed := by
  rcases mapM_ok_iff.mp h with hnone | ⟨value, r, hsome, hparse, rfl⟩
  · exact .inl hnone
  · obtain ⟨d, t, ht, rfl⟩ := parseRegistration_eq_parsed hparse
    simp only [validate, bind_ok_iff] at hv
    obtain ⟨-, -, -, -, -, -, checked, hchecked, -⟩ := hv
    rcases mapM_ok_iff.mp hchecked with ⟨hnone, -⟩ | ⟨value', u, hsome', hok, -⟩
    · rw [hsome] at hnone
      cases hnone
    · rw [hsome, some.injEq] at hsome'
      subst hsome'
      exact .inr ⟨value, d, t, hsome, rfl, wellFormed_parsed hok d ht⟩

theorem registration_of_requirePhase (hv : record.validate = .ok ()) {registration}
    (h : record.registration.mapM (·.parseRegistration) = .ok registration) {value phase}
    (hphase : requirePhase record.registration phase = .ok value) :
    ∃ d t, registration = some (value.parsed d t) ∧ (value.parsed d t).WellFormed ∧
      value.authorizationPhase = phase := by
  obtain ⟨hsome, hphase⟩ := requirePhase_ok_iff.mp hphase
  rcases registration_of_restore hv h with ⟨hnone, -⟩ | ⟨value', d, t, hsome', hr, hwf⟩
  · rw [hsome] at hnone
    cases hnone
  · rw [hsome, some.injEq] at hsome'
    subst hsome'
    exact ⟨d, t, hr, hwf, hphase⟩

theorem validateState_of_validate (h : record.validate = .ok ()) :
    record.validateState = .ok () := by
  simp only [validate, bind_ok_iff] at h
  obtain ⟨-, -, -, -, -, -, -, -, hstate⟩ := h
  exact hstate

theorem supports_of_restore (identity : Identity) {registration} (hv : record.validate = .ok ())
    (h : record.registration.mapM (·.parseRegistration) = .ok registration) :
    (recoveredProjection record.state identity registration
      ⟨identity, record.eligibilityRevision, record.eligible⟩ record.preparationRevision
      record.recoveryRevision).Supports record.state ∧ record.state.isSettled := by
  have hstate := validateState_of_validate hv
  have retained : validateIdleOrRetainedSubmission record.registration = .ok () →
      ∀ r, registration = some r → r.authorizationPhase = .submitted := by
    rintro hidle r rfl
    rcases registration_of_restore hv h with ⟨-, hnone⟩ | ⟨value, d, t, hsome, hr, -⟩
    · cases hnone
    · rw [some.injEq] at hr
      simp [validateIdleOrRetainedSubmission, hsome] at hidle
      rw [hr]
      exact hidle.1
  cases hs : record.state <;> simp only [validateState, hs, bind_ok_iff,
    rejectIf_ok_iff, exists_const, reduceCtorEq] at hstate
  case awaitingAuthorization | submitting =>
    obtain ⟨value, hph, -⟩ := hstate
    obtain ⟨d, t, hr, -, hphase⟩ := registration_of_requirePhase hv h hph
    exact ⟨⟨⟨_, hr, hphase⟩, by intro r hr; cases hr⟩, rfl⟩
  case confirming | reconciling =>
    obtain ⟨value, hph, hchecks⟩ := hstate
    obtain ⟨d, t, hr, hwf, hphase⟩ := registration_of_requirePhase hv h hph
    refine ⟨⟨_, hr, hphase, ?_⟩, rfl⟩
    have := hwf.observed
    simp only [trackedState, isReady, finalityIsCurrent, RecoveryRegistration.parsed] at this ⊢
    grind
  case ready =>
    obtain ⟨value, hph, hchecks⟩ := hstate
    obtain ⟨d, t, hr, hwf, hphase⟩ := registration_of_requirePhase hv h hph
    refine ⟨.inr ⟨_, hr, hphase, ?_⟩, rfl⟩
    rw [trackedState_eq_ready, isReady]
    simp only [RecoveryRegistration.parsed]
    grind
  case actionRequired =>
    refine ⟨⟨?_, retained hstate.2⟩, rfl⟩
    simp_all [latestEligibilityState, recoveredProjection]
  case notEligible =>
    refine ⟨⟨?_, retained hstate.2⟩, rfl⟩
    simp_all [latestEligibilityState, recoveredProjection]

theorem coherent_of_restore (h : record.restore = .ok p) : Coherent p := by
  obtain ⟨hv, profile, realm, registration, -, -, hreg, rfl⟩ := restore_ok_iff.mp h
  obtain ⟨hsup, hset⟩ := supports_of_restore ⟨profile, realm, record.generation⟩ hv hreg
  have hrec := State.not_recoverable_of_isSettled hset
  exact {
    fresh := by intro hn; cases hn
    overlay := hrec.symm
    settled := by intro s hs; cases hs
    active := by
      rintro r rfl
      rcases registration_of_restore hv hreg with ⟨-, hnone⟩ | ⟨value, d, t, -, hr, hwf⟩
      · cases hnone
      · rw [some.injEq] at hr
        exact hr ▸ hwf
    parked := by intro r hr; cases hr
    supported := by
      rw [effectiveState_of_not_recoverable hrec]
      exact hsup
    checkpointed := by
      intro i hi
      exact ⟨_, rfl, some.inj hi⟩
    retry := by intro m hm; cases hm }

theorem registration_ne_none_of_restore (h : record.restore = .ok p)
    (hready : p.effectiveState = .ready) : p.registration ≠ none := by
  obtain ⟨hv, profile, realm, registration, -, -, hreg, rfl⟩ := restore_ok_iff.mp h
  obtain ⟨-, hset⟩ := supports_of_restore ⟨profile, realm, record.generation⟩ hv hreg
  rw [effectiveState_of_not_recoverable (State.not_recoverable_of_isSettled hset)] at hready
  replace hready : record.state = .ready := hready
  have hstate := validateState_of_validate hv
  simp only [validateState, hready, bind_ok_iff] at hstate
  obtain ⟨value, hphase, -⟩ := hstate
  obtain ⟨d, t, rfl, -⟩ := registration_of_requirePhase hv hreg hphase
  intro hnone
  cases hnone

end Records

end Oxid.Wallet.DustRegistration
