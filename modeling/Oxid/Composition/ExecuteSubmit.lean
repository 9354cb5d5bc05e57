import Oxid.Composition.RecoveryPersistence
import Oxid.Midnight.RegistrationPlan
import Oxid.Wallet.DustRegistration.Driver

/-!
# Submitting a DUST registration

`execute_submit` of `dust_settlement.rs` waits until its record is saved and held, takes a
guard that releases the hold, and decides whether to invoke the submit use case.
-/

namespace Oxid.Composition
open Wallet Wallet.DustRegistration Midnight Option Producer

/-! ## What a call works with -/

inductive DustSettlementAuthority
  | explicit | automaticDevelopment

structure SelectedRealm where
  identity : Realm.RealmIdentity
  (generation revision : UInt64)
  deriving DecidableEq

structure RegistrationPreview where
  (draftId networkId : String)
  submissionReady : Bool
  deriving DecidableEq

/-- What the composition keeps between calls, under a lock of its own. -/
structure RetainedSettlement where
  bound : Option SelectedRealm
  preview : Option RegistrationPreview
  (finalityObserved submissionUncertain : Bool)

inductive DustRegistrationError
  | invalidProfileIdentifier
  | invalidDraftIdentifier
  | invalidAuthorizationChallenge
  | confirmationRequired
  | invalidConfirmation
  | developmentAuthorityUnavailable
  | approval
  | clock
  | operation (error : RegistrationPortError)

def mapRegistrationFailure : DustRegistrationError → ExecutorFailure
  | .operation .timeout => .timedOut
  | .operation .submissionOutcomeUnknown => .degraded
  | .operation .unavailable => .unavailable
  | .operation .protectionNotInitialized => .protectionNotInitialized
  | .operation .protectionLocked => .protectionLocked
  | _ => .degraded

structure SensitiveOperationConfirmation where
  (title summary : String)
  confirmed : Bool
  deriving DecidableEq

def continuationConfirmation (preview : RegistrationPreview) : SensitiveOperationConfirmation where
  title := "Complete DUST registration"
  summary := "Submit the authorized DUST registration " ++ preview.draftId ++ " on " ++
    preview.networkId ++ "."
  confirmed := true

structure SubmitCommand where
  (profileId draftId : String)
  confirmation : Option SensitiveOperationConfirmation
  deriving DecidableEq

structure SubmissionStatus where
  state : String
  transactionId : Option String

structure SubmittedRegistration where
  registration : RegistrationPreview
  transactionId : String

deriving instance DecidableEq for OperationCompletion

abbrev SubmitResult := Except ExecutorFailure OperationCompletion

def submittedCompletion (identity : Identity) (draftId : WalletTransactionDraftId)
    (transactionId : ChainTransactionId) : OperationCompletion where
  event := .submissionAccepted identity draftId transactionId
  isCompletion := rfl

/-! ## The checks -/

def settlementIdentity (selected : SelectedRealm) : Identity where
  profile := selected.identity.profile
  realm := selected.identity.realm
  generation := selected.generation

/-- The realm a settlement is bound to must still be the selected one. -/
def validateBound (retained : Option RetainedSettlement) (identity : Identity)
    (current : Option SelectedRealm) : Except ExecutorFailure SelectedRealm := do
  let retained ← Result.okOr retained .unavailable
  let bound ← Result.okOr retained.bound .unavailable
  Result.rejectIf (settlementIdentity bound ≠ identity) .degraded
  let current ← Result.okOr current .unavailable
  Result.rejectIf (current ≠ bound) .degraded
  return bound

def recoveryRecord (identity : Identity) (loaded : Option (Option RecoveryRecord)) :
    Except ExecutorFailure (Option RecoveryRecord) := do
  let record ← Result.okOr loaded .unavailable
  Result.rejectIf (record.any fun record =>
    record.profileId ≠ identity.profile.id.asStr || record.realmId ≠ identity.realm.id.asStr ||
      record.generation ≠ identity.generation) .degraded
  return record

/-- The stored record says that this draft is being submitted. -/
def durableSubmission (draftId : WalletTransactionDraftId) (record : Option RecoveryRecord) :
    Bool :=
  record.any fun record =>
    record.state = .submitting &&
      record.registration.any fun registration => registration.draftId = draftId.id.asStr

inductive RecoveredSubmission
  | observed (transactionId : ChainTransactionId)
  | preBroadcastCancelled

def recoveredSubmission (status : SubmissionStatus) :
    Except ExecutorFailure RecoveredSubmission := do
  if status.state = "cancelled" && status.transactionId.isNone then
    return .preBroadcastCancelled
  let transactionId ← Result.okOr status.transactionId .degraded
  let transactionId ← (ChainTransactionId.parse transactionId).mapError fun _ => .degraded
  return .observed transactionId

/-! ## Behind the guard -/

/-- Where in `execute_submit` an earlier submission is looked for. -/
inductive RecoverySite
  | restart
  | uncertain (preview : RegistrationPreview)
  | unknown
  deriving DecidableEq

/-- Between two stages others may take the lock of what is retained. -/
inductive SubmitBody
  | examining
  | inspecting
  | doubting (preview : RegistrationPreview)
  | querying (site : RecoverySite)
  | reconciling (site : RecoverySite)
  | trusting (preview : RegistrationPreview)
  | loading (preview : RegistrationPreview)
  | committing (preview : RegistrationPreview)
  | dispatching (preview : RegistrationPreview)
  | submitting (command : SubmitCommand)
  | forgiving (failure : ExecutorFailure)
  | unsettling (transactionId : ChainTransactionId)
  | accepting (registration : RegistrationPreview) (transactionId : ChainTransactionId)
  deriving DecidableEq

/-- What a call is told when it goes on; `loaded` says if the store works. -/
inductive Answer
  | proceed
  | selected (current : Option SelectedRealm)
  | status (status : Option SubmissionStatus)
  | reconciled (status : Except DustRegistrationError SubmissionStatus)
  | loaded (works : Bool)
  | submitted (result : Except DustRegistrationError SubmittedRegistration)

namespace SubmitBody

def isAwaiting : SubmitBody → Bool
  | .querying _ | .reconciling _ | .submitting _ => true
  | _ => false

abbrev Flow := SubmitBody ⊕ SubmitResult

section Steps
variable (authority : DustSettlementAuthority) (identity : Identity)
  (draftId : WalletTransactionDraftId)

def fail (failure : ExecutorFailure) : Flow := .inr (.error failure)

def withRetained (retained : Option RetainedSettlement)
    (f : RetainedSettlement → RetainedSettlement × Flow) : Option RetainedSettlement × Flow :=
  match retained with
  | none => (none, fail .unavailable)
  | some retained => ((f retained).1, (f retained).2)

def recovered (site : RecoverySite) (status : SubmissionStatus) : Flow :=
  match recoveredSubmission status, site with
  | .error failure, _ => fail failure
  | .ok (.observed transactionId), .unknown => .inl (.unsettling transactionId)
  | .ok (.observed transactionId), _ =>
    .inr (.ok (submittedCompletion identity draftId transactionId))
  | .ok .preBroadcastCancelled, .uncertain preview => .inl (.trusting preview)
  | .ok .preBroadcastCancelled, _ => fail .degraded

/-- Nothing is sent unless the record that is stored covers it. -/
def verify (preview : RegistrationPreview) (loaded : Option (Option RecoveryRecord)) : Flow :=
  match recoveryRecord identity loaded with
  | .error failure => fail failure
  | .ok record =>
    if durableSubmission draftId record then .inl (.committing preview)
    else fail .unavailable

/-- Without a confirmation, only on the undeployed network. -/
def dispatch (preview : RegistrationPreview) : Flow :=
  match authority with
  | .explicit =>
    .inl (.submitting ⟨identity.profile.id.asStr, draftId.id.asStr,
      some (continuationConfirmation preview)⟩)
  | .automaticDevelopment =>
    if identity.realm.id.asStr ≠ "undeployed" || preview.networkId ≠ "undeployed" then
      fail .unavailable
    else .inl (.submitting ⟨identity.profile.id.asStr, draftId.id.asStr, none⟩)

def conclude : Except DustRegistrationError SubmittedRegistration → Flow
  | .error (.operation .submissionOutcomeUnknown) => .inl (.querying .unknown)
  | .error (.operation .submissionInProgress) => .inl (.querying .unknown)
  -- A timeout leaves the submission uncertain.
  | .error (.operation .timeout) => fail (mapRegistrationFailure (.operation .timeout))
  | .error error => .inl (.forgiving (mapRegistrationFailure error))
  | .ok submitted =>
    if submitted.registration.draftId ≠ draftId.id.asStr then fail .degraded
    else
      match ChainTransactionId.parse submitted.transactionId with
      | .error _ => fail .degraded
      | .ok transactionId => .inl (.accepting submitted.registration transactionId)

def step (store : Option RecoveryRecord) (retained : Option RetainedSettlement) :
    SubmitBody → Answer → Option (Option RetainedSettlement × Flow)
  | .examining, .proceed => some <| withRetained retained fun r =>
    (r, .inl (if r.preview.isNone then .querying .restart else .inspecting))
  | .inspecting, .proceed => some <| withRetained retained fun r =>
    (r, match r.preview with
      | none => fail .degraded
      | some preview =>
        if preview.draftId ≠ draftId.id.asStr || !preview.submissionReady then
          fail .degraded
        else .inl (.doubting preview))
  | .doubting preview, .proceed => some <| withRetained retained fun r =>
    (r, .inl (if r.submissionUncertain then .querying (.uncertain preview)
      else .loading preview))
  | .querying site, .status answer =>
    some (retained, answer.elim (.inl (.reconciling site)) (recovered identity draftId site))
  | .reconciling site, .reconciled answer =>
    some (retained, match answer with
      | .ok status => recovered identity draftId site status
      | .error error => fail (mapRegistrationFailure error))
  | .trusting preview, .proceed => some <| withRetained retained fun r =>
    ({ r with submissionUncertain := false }, .inl (.loading preview))
  | .loading preview, .loaded works =>
    some (retained, verify identity draftId preview (if works then some store else none))
  | .committing preview, .proceed => some <| withRetained retained fun r =>
    ({ r with submissionUncertain := true }, .inl (.dispatching preview))
  | .dispatching preview, .proceed => some (retained, dispatch authority identity draftId preview)
  | .submitting _, .submitted answer => some (retained, conclude draftId answer)
  | .forgiving failure, .proceed => some <| withRetained retained fun r =>
    ({ r with submissionUncertain := false }, fail failure)
  | .unsettling transactionId, .proceed => some <| withRetained retained fun r =>
    ({ r with finalityObserved := false },
      .inr (.ok (submittedCompletion identity draftId transactionId)))
  | .accepting registration transactionId, .proceed => some <| withRetained retained fun r =>
    ({ r with
        preview := some registration
        submissionUncertain := false
        finalityObserved := false },
      .inr (.ok (submittedCompletion identity draftId transactionId)))
  | _, _ => none

end Steps

end SubmitBody

/-! ## The call -/

/-- `releasing` follows the guard, also when the call is dropped. -/
inductive SubmitStage
  | validating
  | targeting
  | waiting (target : UInt64) (wait : SubmissionWait)
  | guarded (generation : UInt64) (body : SubmitBody)
  | releasing (release : Release) (result : Option SubmitResult)
  | finished (result : Option SubmitResult)
  deriving DecidableEq

structure SubmitCall where
  identity : Identity
  draftId : WalletTransactionDraftId
  stage : SubmitStage
  deriving DecidableEq

namespace SubmitStage

def isFinished : SubmitStage → Bool
  | .finished _ => true
  | _ => false

/-- A future is dropped only where it waits. -/
def cancel : SubmitStage → Option SubmitStage
  | .waiting _ wait => if wait.isParked then some (.finished none) else none
  | .guarded generation body =>
    if body.isAwaiting then some (.releasing (.raising generation) none) else none
  | _ => none

def awaited (target : UInt64) : SubmissionWait ⊕ Option UInt64 → SubmitStage
  | .inl wait => .waiting target wait
  | .inr (some held) => .guarded held .examining
  | .inr none => .finished (some (.error .unavailable))

def flowing (generation : UInt64) : SubmitBody.Flow → SubmitStage
  | .inl body => .guarded generation body
  | .inr result => .releasing (.raising generation) (some result)

def released (result : Option SubmitResult) : Option Release → SubmitStage
  | some release => .releasing release result
  | none => .finished result

end SubmitStage

structure DustSettlement where
  authority : DustSettlementAuthority
  state : RecoveryPersistenceState
  worker : Worker
  store : Option RecoveryRecord
  retained : Option RetainedSettlement
  producers : List Producer
  waits : List LatestWait
  calls : List SubmitCall

def SubmitCall.step (s : DustSettlement) (c : SubmitCall) (answer : Answer) :
    Option (RecoveryPersistenceState × Option RetainedSettlement × SubmitStage) :=
  match c.stage, answer with
  | .validating, .selected current =>
    some (s.state, s.retained, match validateBound s.retained c.identity current with
      | .ok _ => .targeting
      | .error failure => .finished (some (.error failure)))
  | .targeting, .proceed =>
    some (s.state, s.retained,
      if s.state.requiredSubmissionGeneration = 0 then .finished (some (.error .unavailable))
      else .waiting s.state.requiredSubmissionGeneration .registering)
  | .waiting target wait, .proceed =>
    (wait.step s.state target).map fun next => (s.state, s.retained, .awaited target next)
  | .guarded generation body, answer =>
    (body.step s.authority c.identity c.draftId s.store s.retained answer).map fun next =>
      (s.state, next.1, .flowing generation next.2)
  | .releasing release result, .proceed =>
    some ((release.step s.state).1, s.retained, .released result (release.step s.state).2)
  | _, _ => none

inductive DustSettlementEvent
  | observe (projection : Projection)
  | produce (producer : ℕ)
  | work
  | save (outcome : SaveOutcome)
  | awaitLatest
  | wait (index : ℕ)
  | cancelWait (index : ℕ)
  | retain (retained : Option RetainedSettlement)
  | submit (identity : Identity) (draftId : WalletTransactionDraftId)
  | call (index : ℕ) (answer : Answer)
  | cancel (index : ℕ)

namespace DustSettlementEvent

def isSubmit : DustSettlementEvent → Bool
  | .submit _ _ => true
  | _ => false

def isSave : DustSettlementEvent → Bool
  | .save _ => true
  | _ => false

end DustSettlementEvent

namespace DustSettlement

def start (authority : DustSettlementAuthority) (store : Option RecoveryRecord) (durable : Bool)
    (retained : Option RetainedSettlement) : DustSettlement where
  authority := authority
  state := .spawn durable
  worker := .receiving
  store := store
  retained := retained
  producers := []
  waits := []
  calls := []

def isIdle (s : DustSettlement) : Bool := s.calls.all (·.stage.isFinished)

def step (s : DustSettlement) : DustSettlementEvent → Option DustSettlement
  | .observe projection => some { s with producers := s.producers ++ [.observe projection] }
  | .produce i => do
      let producer ← s.producers[i]?
      let next ← producer.step (s.worker = .stopped) s.state
      return { s with state := next.1, producers := s.producers.set i next.2 }
  | .work => do
      let next ← s.worker.step s.state
      return { s with state := next.1, worker := next.2 }
  | .save outcome =>
    match s.worker with
    | .saving job =>
      some { s with store := outcome.store job.record s.store, worker := outcome.worker job }
    | _ => none
  | .awaitLatest => some { s with waits := s.waits ++ [.targeting] }
  | .wait i => do
      let wait ← s.waits[i]?
      let next ← wait.step s.state
      return { s with waits := s.waits.set i next }
  | .cancelWait i => do
      let wait ← s.waits[i]?
      let next ← wait.cancel
      return { s with waits := s.waits.set i next }
  | .retain retained => some { s with retained := retained }
  | .submit identity draftId =>
    some { s with calls := s.calls ++ [⟨identity, draftId, .validating⟩] }
  | .call i answer => do
      let c ← s.calls[i]?
      let next ← c.step s answer
      return { s with
        state := next.1
        retained := next.2.1
        calls := s.calls.set i { c with stage := next.2.2 } }
  | .cancel i => do
      let c ← s.calls[i]?
      let stage ← c.stage.cancel
      return { s with calls := s.calls.set i { c with stage := stage } }

/-- What leaves worker, store, calls and hold alone. -/
structure Aside (s s' : DustSettlement) : Prop where
  worker : s'.worker = s.worker
  store : s'.store = s.store
  calls : s'.calls = s.calls
  persisted : s'.state.persistedGeneration = s.state.persistedGeneration
  latest : s'.state.persistedLatestGeneration = s.state.persistedLatestGeneration
  held : s'.state.heldSubmissionGeneration = s.state.heldSubmissionGeneration
  released : s'.state.releasedSubmissionGeneration = s.state.releasedSubmissionGeneration

/-- All an event can do, with the producers and the waits of others put aside. -/
inductive Stepped (s : DustSettlement) : DustSettlementEvent → DustSettlement → Prop
  | aside {e s'} (hsubmit : e.isSubmit = false) (hsave : e.isSave = false) (h : Aside s s') :
      Stepped s e s'
  | work {state} {worker : Worker} (h : s.worker.step s.state = some (state, worker)) :
      Stepped s .work { s with state := state, worker := worker }
  | save {job : RecoveryPersistenceJob} {outcome : SaveOutcome} (h : s.worker = .saving job) :
      Stepped s (.save outcome)
        { s with store := outcome.store job.record s.store, worker := outcome.worker job }
  | submit {identity : Identity} {draftId : WalletTransactionDraftId} :
      Stepped s (.submit identity draftId)
        { s with calls := s.calls ++ [⟨identity, draftId, .validating⟩] }
  | call {i : ℕ} {answer : Answer} {c : SubmitCall} {state : RecoveryPersistenceState}
      {retained : Option RetainedSettlement} {stage : SubmitStage}
      (hc : s.calls[i]? = some c) (h : c.step s answer = some (state, retained, stage)) :
      Stepped s (.call i answer)
        { s with
          state := state
          retained := retained
          calls := s.calls.set i { c with stage := stage } }
  | cancel {i : ℕ} {c : SubmitCall} {stage : SubmitStage} (hc : s.calls[i]? = some c)
      (h : c.stage.cancel = some stage) :
      Stepped s (.cancel i) { s with calls := s.calls.set i { c with stage := stage } }

end DustSettlement

theorem Producer.step_frame {closed s s'} {p p' : Producer} (h : p.step closed s = some (s', p')) :
    s'.persistedGeneration = s.persistedGeneration ∧
      s'.persistedLatestGeneration = s.persistedLatestGeneration ∧
      s'.heldSubmissionGeneration = s.heldSubmissionGeneration ∧
      s'.releasedSubmissionGeneration = s.releasedSubmissionGeneration := by
  cases p with
  | entering =>
    by_cases hlocked : s.locked <;> simp [step, hlocked] at h
    simp [← h.1]
  | requiring job =>
    by_cases hbarrier : job.submissionBarrier <;> simp [step, hbarrier] at h <;>
      simp [← h.1]
  | placing job =>
    by_cases hbarrier : job.submissionBarrier <;>
      simp [step, RecoveryPersistenceState.place, hbarrier] at h <;> simp [← h.1]
  | waking => cases closed <;> simp [step] at h <;> simp [← h.1]
  | finished => simp [step] at h
  | _ =>
    simp [step, RecoveryPersistenceState.draw, RecoveryPersistenceState.notifyWaiters] at h
    simp [← h.1]

namespace DustSettlement
variable {s s' : DustSettlement} {e : DustSettlementEvent}

theorem stepped_of_step (h : s.step e = some s') : Stepped s e s' := by
  cases e with
  | observe =>
    cases h
    exact .aside rfl rfl ⟨rfl, rfl, rfl, rfl, rfl, rfl, rfl⟩
  | produce =>
    simp only [step, bind_eq_bind, bind_eq_some_iff] at h
    obtain ⟨producer, -, next, hnext, h⟩ := h
    cases h
    obtain ⟨hpersisted, hlatest, hheld, hreleased⟩ := step_frame hnext
    exact .aside rfl rfl ⟨rfl, rfl, rfl, hpersisted, hlatest, hheld, hreleased⟩
  | work =>
    simp only [step, bind_eq_bind, bind_eq_some_iff] at h
    obtain ⟨next, hnext, h⟩ := h
    cases h
    exact .work hnext
  | save =>
    simp only [step] at h
    split at h
    · cases h
      exact .save ‹_›
    · cases h
  | awaitLatest =>
    cases h
    exact .aside rfl rfl ⟨rfl, rfl, rfl, rfl, rfl, rfl, rfl⟩
  | wait =>
    simp only [step, bind_eq_bind, bind_eq_some_iff] at h
    obtain ⟨wait, -, next, -, h⟩ := h
    cases h
    exact .aside rfl rfl ⟨rfl, rfl, rfl, rfl, rfl, rfl, rfl⟩
  | cancelWait =>
    simp only [step, bind_eq_bind, bind_eq_some_iff] at h
    obtain ⟨wait, -, next, -, h⟩ := h
    cases h
    exact .aside rfl rfl ⟨rfl, rfl, rfl, rfl, rfl, rfl, rfl⟩
  | retain =>
    cases h
    exact .aside rfl rfl ⟨rfl, rfl, rfl, rfl, rfl, rfl, rfl⟩
  | submit =>
    cases h
    exact .submit
  | call =>
    simp only [step, bind_eq_bind, bind_eq_some_iff] at h
    obtain ⟨c, hc, next, hnext, h⟩ := h
    cases h
    exact .call hc hnext
  | cancel =>
    simp only [step, bind_eq_bind, bind_eq_some_iff] at h
    obtain ⟨c, hc, stage, hstage, h⟩ := h
    cases h
    exact .cancel hc hstage

end DustSettlement

end Oxid.Composition
