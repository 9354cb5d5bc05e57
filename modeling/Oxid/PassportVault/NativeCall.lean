import Mathlib.Logic.Function.Basic
import Oxid.Rows
import Oxid.PassportVault.ContractCall

/-!
# Native contract calls

The adapter `native_call.rs` retains its drafts under one lock.  Authorizing a draft funds its
transaction; submitting it hands the transaction to a worker thread, which writes the outcome
back whether or not the caller still waits.
-/

namespace Oxid.PassportVault
open Foundation Result

structure PassportVaultCallCompositionContext where
  networkId : String
  (zswapChainState ledgerParameters : List UInt8)
  (coinPublicKey encryptionPublicKey unshieldedRecipient : Bytes32)

structure PassportVaultProtectedClaimContext where
  (trustedIssuerDidContract trustedIssuerMethod trustedIssuerPublicKeyHash : Bytes32)
  minimumAgeYears : UInt8
  (requiredIssuingState requiredDocumentNumber : Option Bytes32)
  verifierChallengeHash : Bytes32

structure PassportVaultCallFundingRequest where
  (profileId networkId : String)
  expiresAtSeconds : UInt64
  requiresNightFunding : Bool
  transaction : List UInt8

structure PassportVaultCallCompletionRequest where
  (profileId networkId draftId : String)
  planningFingerprint : Bytes32
  (expiresAt updatedAt : UInt64)
  transaction : List UInt8

abbrev CallKey := OpaqueId × PassportVaultCallDraftId

abbrev Funding := PassportVaultCallFundingRequest → Except PassportVaultCallPortError (List UInt8)

structure NativeEnvironment where
  planningFingerprint :
    PreparePassportVaultCallRequest → PassportVaultCallCompositionContext → Bytes32
  claimAuthorizationChallenge : PassportVaultCallDraftId → String → Bytes32 →
    Except PassportVaultCallPortError PassportVaultCallAuthorizationChallenge
  authorizationChallenge : PassportVaultCallDraftId → String → List UInt8 →
    Except PassportVaultCallPortError PassportVaultCallAuthorizationChallenge
  decodeProtectedClaimContext : List UInt8 → UInt64 → U128 →
    Option PassportVaultProtectedClaimContext
  validateUnprovenTransaction : List UInt8 → String → Except PassportVaultCallPortError Unit
  validateFundedTransaction : List UInt8 → String → Except PassportVaultCallPortError Unit

structure PendingProtectedClaim where
  request : PreparePassportVaultCallRequest
  context : PassportVaultCallCompositionContext
  policy : PassportVaultProtectedClaimContext

structure RetainedNativeCall where
  planningFingerprint : Bytes32
  networkId : String
  preview : PassportVaultCallPreview
  submissionStatus : PassportVaultCallSubmissionStatus
  inclusion : Option PassportVaultCallInclusion
  unprovenTransaction : List UInt8
  pendingProtectedClaim : Option PendingProtectedClaim
  authorizationInProgress : Bool

def emptyStatus (draftId : PassportVaultCallDraftId) : PassportVaultCallSubmissionStatus :=
  ⟨draftId, .notStarted, none, none, none, none, none⟩

def statusFromInclusion (draftId : PassportVaultCallDraftId)
    (state : PassportVaultCallSubmissionState) (inclusion : PassportVaultCallInclusion) :
    PassportVaultCallSubmissionStatus :=
  ⟨draftId, state, some inclusion.transactionHashHex, some inclusion.blockHashHex,
    some inclusion.blockHeight, some inclusion.feeAtomicUnits, some inclusion.mode⟩

def inclusionFromStatus (status : PassportVaultCallSubmissionStatus) :
    Option PassportVaultCallInclusion := do
  let transactionHashHex ← status.transactionHashHex
  let blockHashHex ← status.blockHashHex
  let blockHeight ← status.blockHeight
  let feeAtomicUnits ← status.feeAtomicUnits
  let mode ← status.mode
  return ⟨transactionHashHex, blockHashHex, blockHeight, feeAtomicUnits, mode⟩

def validHex32 (value : String) : Bool :=
  value.toList.length = 64 && value.toList.all Text.isLowerHex

def validCallState (state : PassportVaultContractStateSnapshot) : Bool :=
  state.authentication = .canonicalFinalizedReplay && !state.serializedContractState.isEmpty &&
    state.serializedContractState.length ≤ maxPassportVaultContractStateBytes &&
    validHex32 state.contractAddressHex && validHex32 state.transactionHashHex &&
    validHex32 state.actionBlockHashHex && validHex32 state.finalizedHeadHashHex &&
    state.actionBlockHeight ≤ state.finalizedHeadHeight && state.finalizedHeadTimeSeconds ≠ 0

def claimPolicy (env : NativeEnvironment) (request : PreparePassportVaultCallRequest) :
    Except PassportVaultCallPortError (Option PassportVaultProtectedClaimContext) :=
  match request.operation with
  | .claimFromLock lockId amount _ =>
    match env.decodeProtectedClaimContext request.contractState.serializedContractState lockId
        amount with
    | some policy => .ok (some policy)
    | none => .error .invalidChainState
  | _ => .ok none

abbrev Composer := PreparePassportVaultCallRequest → PassportVaultCallCompositionContext →
  Except PassportVaultCallPortError (List UInt8)

def prepareTransaction (env : NativeEnvironment) (request : PreparePassportVaultCallRequest)
    (context : PassportVaultCallCompositionContext) (compose : Composer) (claim : Bool) :
    Except PassportVaultCallPortError (List UInt8) :=
  if claim then .ok []
  else do
    let transaction ← compose request context
    env.validateUnprovenTransaction transaction context.networkId
    return transaction

def prepareChallenge (env : NativeEnvironment) (request : PreparePassportVaultCallRequest)
    (draftId : PassportVaultCallDraftId) (planningFingerprint : Bytes32)
    (transaction : List UInt8) (claim : Bool) :
    Except PassportVaultCallPortError PassportVaultCallAuthorizationChallenge :=
  if claim then
    env.claimAuthorizationChallenge draftId request.contractState.actionBlockHashHex
      planningFingerprint
  else
    env.authorizationChallenge draftId request.contractState.actionBlockHashHex transaction

def prepareDraft (env : NativeEnvironment) (request : PreparePassportVaultCallRequest)
    (context : PassportVaultCallCompositionContext) (compose : Composer) :
    Except PassportVaultCallPortError RetainedNativeCall := do
  rejectIf (!validCallState request.contractState) .invalidChainState
  let policy ← claimPolicy env request
  let planningFingerprint := env.planningFingerprint request context
  let unprovenTransaction ← prepareTransaction env request context compose policy.isSome
  let draftId ← (PassportVaultCallDraftId.parse
    (String.ofList (Text.hexEncode planningFingerprint.bytes))).mapError fun _ => .invalidData
  let authorizationChallenge ← prepareChallenge env request draftId planningFingerprint
    unprovenTransaction policy.isSome
  return {
    planningFingerprint := planningFingerprint
    networkId := context.networkId
    preview := {
      draftId := draftId
      authorizationChallenge := authorizationChallenge
      contractAddressHex := request.contractState.contractAddressHex
      operation := request.operation
      stateAnchorTransactionHashHex := request.contractState.transactionHashHex
      stateAnchorBlockHashHex := request.contractState.actionBlockHashHex
      stateAnchorBlockHeight := request.contractState.actionBlockHeight
      expiresAt := request.expiresAt
      state := .prepared
      feeAtomicUnits := none }
    submissionStatus := emptyStatus draftId
    inclusion := none
    unprovenTransaction := unprovenTransaction
    pendingProtectedClaim := policy.map fun policy => ⟨request, context, policy⟩
    authorizationInProgress := false }

namespace RetainedNativeCall

variable (retained : RetainedNativeCall)

def expireIfNeeded (now : UInt64) : RetainedNativeCall :=
  if retained.preview.expiresAt ≤ now ∧
      (retained.preview.state = .prepared ∨ retained.preview.state = .authorized) then
    { retained with
      preview := { retained.preview with state := .expired }
      submissionStatus := { retained.submissionStatus with state := .expired }
      unprovenTransaction := []
      pendingProtectedClaim := none
      authorizationInProgress := false }
  else retained

def authorized (transaction : List UInt8) : RetainedNativeCall :=
  { retained with
    unprovenTransaction := transaction
    preview := { retained.preview with state := .authorized } }

structure ClaimWork where
  pending : PendingProtectedClaim
  expectedFingerprint : Bytes32
  expiresAt : UInt64

inductive AuthorizeAnswer
  | returned (result : Except PassportVaultCallPortError PassportVaultCallPreview)
  | composing (work : ClaimWork)

def fundingRequest (profileId : OpaqueId) : PassportVaultCallFundingRequest where
  profileId := profileId.asStr
  networkId := retained.networkId
  expiresAtSeconds := retained.preview.expiresAt / 1000
  requiresNightFunding :=
    match retained.preview.operation with
    | .createLock .. | .depositToLock .. => true
    | .claimFromLock .. | .withdrawFromLock .. => false
  transaction := retained.unprovenTransaction

def beginAuthorize (env : NativeEnvironment) (profileId : OpaqueId)
    (request : AuthorizePassportVaultCallRequest) (fund : Funding)
    (retained : RetainedNativeCall) : AuthorizeAnswer × RetainedNativeCall :=
  let retained := retained.expireIfNeeded request.now
  if retained.preview.state = .expired then (.returned (.error .draftExpired), retained)
  else if retained.preview.authorizationChallenge ≠ request.authorizationChallenge then
    (.returned (.error .authorizationChallengeMismatch), retained)
  else match retained.preview.state with
    | .prepared =>
      match retained.pendingProtectedClaim with
      | some pending =>
        if retained.authorizationInProgress then (.returned (.error .draftConflict), retained)
        else
          (.composing ⟨pending, retained.planningFingerprint, retained.preview.expiresAt⟩,
            { retained with authorizationInProgress := true })
      | none =>
        match fund (retained.fundingRequest profileId) with
        | .error error => (.returned (.error error), retained)
        | .ok transaction =>
          match env.validateFundedTransaction transaction retained.networkId with
          | .error error => (.returned (.error error), retained)
          | .ok () =>
            (.returned (.ok (retained.authorized transaction).preview),
              retained.authorized transaction)
    | .authorized => (.returned (.ok retained.preview), retained)
    | .submitting | .submitted | .expired => (.returned (.error .draftConflict), retained)

def concludeAuthorize (request : AuthorizePassportVaultCallRequest) (work : ClaimWork)
    (transaction : Except PassportVaultCallPortError (List UInt8)) (retained : RetainedNativeCall) :
    Except PassportVaultCallPortError PassportVaultCallPreview × RetainedNativeCall :=
  match transaction with
  | .error error =>
    (.error error,
      if retained.planningFingerprint = work.expectedFingerprint ∧
          retained.preview.state = .prepared then
        { retained with authorizationInProgress := false }
      else retained)
  | .ok transaction =>
    let retained := retained.expireIfNeeded request.now
    if retained.preview.state = .expired then (.error .draftExpired, retained)
    else if retained.planningFingerprint ≠ work.expectedFingerprint ∨
        retained.preview.authorizationChallenge ≠ request.authorizationChallenge ∨
        retained.preview.state ≠ .prepared ∨ retained.authorizationInProgress = false then
      (.error .draftConflict, retained)
    else
      let retained := { retained.authorized transaction with
        pendingProtectedClaim := none
        authorizationInProgress := false }
      (.ok retained.preview, retained)

inductive SubmitAnswer
  | returned (result : Except PassportVaultCallPortError SubmittedPassportVaultCall)
  | sending (request : PassportVaultCallCompletionRequest)

def beginSubmit (profileId : OpaqueId) (request : SubmitPassportVaultCallRequest)
    (retained : RetainedNativeCall) : SubmitAnswer × RetainedNativeCall :=
  let retained := retained.expireIfNeeded request.now
  match retained.preview.state with
  | .submitted =>
    match retained.inclusion with
    | some inclusion => (.returned (.ok ⟨retained.preview, inclusion⟩), retained)
    | none => (.returned (.error .invalidData), retained)
  | .expired => (.returned (.error .draftExpired), retained)
  | .submitting => (.returned (.error .submissionInProgress), retained)
  | .prepared => (.returned (.error .draftConflict), retained)
  | .authorized =>
    if retained.unprovenTransaction = [] then (.returned (.error .draftConflict), retained)
    else
      (.sending
        { profileId := profileId.asStr
          networkId := retained.networkId
          draftId := request.draftId.asStr
          planningFingerprint := retained.planningFingerprint
          expiresAt := retained.preview.expiresAt
          updatedAt := request.now
          transaction := retained.unprovenTransaction },
        { retained with
          preview := { retained.preview with state := .submitting }
          submissionStatus := { retained.submissionStatus with state := .running } })

def restoreAuthorized : RetainedNativeCall :=
  { retained with
    preview := { retained.preview with state := .authorized }
    submissionStatus := emptyStatus retained.preview.draftId }

def included (inclusion : PassportVaultCallInclusion) (status : PassportVaultCallSubmissionStatus) :
    RetainedNativeCall :=
  { retained with
    preview := { retained.preview with
      state := .submitted
      feeAtomicUnits := some inclusion.feeAtomicUnits }
    submissionStatus := status
    inclusion := some inclusion
    unprovenTransaction := [] }

/-- `finish_native_submission` on the draft, which it removes if the call was rejected.
`status` is what the completion port answers when the outcome is unknown. -/
def concludeSubmission (result : Except PassportVaultCallPortError PassportVaultCallInclusion)
    (status : Except PassportVaultCallPortError PassportVaultCallSubmissionStatus) :
    Option RetainedNativeCall :=
  match result with
  | .ok inclusion =>
    some (retained.included inclusion
      (statusFromInclusion retained.preview.draftId .included inclusion))
  | .error .submissionCancelled =>
    some { retained.restoreAuthorized with
      submissionStatus := { emptyStatus retained.preview.draftId with state := .cancelled } }
  | .error .draftExpired =>
    some { retained with
      preview := { retained.preview with state := .expired }
      submissionStatus := { emptyStatus retained.preview.draftId with state := .expired }
      unprovenTransaction := [] }
  | .error .submissionRejected => none
  | .error .submissionOutcomeUnknown =>
    some { retained with
      submissionStatus :=
        match status with
        | .ok status => status
        | .error _ => { emptyStatus retained.preview.draftId with state := .outcomeUnknown }
      unprovenTransaction := [] }
  | .error _ => some retained.restoreAuthorized

def updateFromStatus (status : PassportVaultCallSubmissionStatus) : RetainedNativeCall :=
  match status.state with
  | .included =>
    match inclusionFromStatus status with
    | some inclusion => retained.included inclusion status
    | none => { retained with submissionStatus := status }
  | .broadcasting | .outcomeUnknown | .rejected | .expired =>
    { retained with submissionStatus := status, unprovenTransaction := [] }
  | .notStarted | .running | .cancellationRequested | .cancelled =>
    { retained with submissionStatus := status }

end RetainedNativeCall

def claimTransaction (env : NativeEnvironment) (profileId : OpaqueId)
    (work : RetainedNativeCall.ClaimWork)
    (compose : PendingProtectedClaim → Except PassportVaultCallPortError (List UInt8))
    (fund : Funding) : Except PassportVaultCallPortError (List UInt8) := do
  let transaction ← compose work.pending
  env.validateUnprovenTransaction transaction work.pending.context.networkId
  let funded ← fund ⟨profileId.asStr, work.pending.context.networkId, work.expiresAt / 1000,
    false, transaction⟩
  env.validateFundedTransaction funded work.pending.context.networkId
  return funded

/-! ## The system -/

structure Authorization where
  profileId : OpaqueId
  request : AuthorizePassportVaultCallRequest
  work : RetainedNativeCall.ClaimWork

/-- A submission: between the critical section of `submit` and the start of its worker,
in the completion port (which may have broadcast), and about to write the outcome. -/
inductive Worker
  | unused
  | spawning (key : CallKey) (request : PassportVaultCallCompletionRequest)
  | completing (key : CallKey) (broadcast : Bool)
  | finishing (key : CallKey)
      (result : Except PassportVaultCallPortError PassportVaultCallInclusion)
  | ended

structure NativeState where
  calls : Rows CallKey RetainedNativeCall
  authorizing : Nat → Option Authorization
  workers : Nat → Worker
  reports : Nat → Option (CallKey × PassportVaultCallSubmissionStatus)

inductive NativeEvent
  | prepare (request : PreparePassportVaultCallRequest)
      (context : PassportVaultCallCompositionContext) (compose : Composer)
  | authorize (call : Nat) (profileId : OpaqueId) (request : AuthorizePassportVaultCallRequest)
      (fund : Funding)
  | authorizeClaim (call : Nat)
      (compose : PendingProtectedClaim → Except PassportVaultCallPortError (List UInt8))
      (fund : Funding)
  | submit (worker : Nat) (profileId : OpaqueId) (request : SubmitPassportVaultCallRequest)
  | spawn (worker : Nat)
  | spawnFailed (worker : Nat)
  | broadcast (worker : Nat)
  | completed (worker : Nat)
      (result : Except PassportVaultCallPortError PassportVaultCallInclusion)
  | panicked (worker : Nat)
  | finish (worker : Nat)
      (status : Except PassportVaultCallPortError PassportVaultCallSubmissionStatus)
  | get (profileId : OpaqueId) (draftId : PassportVaultCallDraftId) (now : UInt64)
  | report (call : Nat) (key : CallKey) (status : PassportVaultCallSubmissionStatus)
  | applyReport (call : Nat)

namespace NativeState

def start : NativeState := ⟨.empty, fun _ => none, fun _ => .unused, fun _ => none⟩

variable (s : NativeState)

def update (key : CallKey) (f : RetainedNativeCall → RetainedNativeCall) : NativeState :=
  { s with calls := s.calls.modify (· = key) f }

def setWorker (w : Nat) (worker : Worker) : NativeState :=
  { s with workers := Function.update s.workers w worker }

def alreadyPlanned (draft : RetainedNativeCall) : Bool :=
  s.calls.list.any fun row =>
    row.2.preview.contractAddressHex = draft.preview.contractAddressHex &&
      row.2.planningFingerprint = draft.planningFingerprint

def retain (profileId : OpaqueId) (draft : RetainedNativeCall) : NativeState :=
  let key := (profileId, draft.preview.draftId)
  if s.alreadyPlanned draft then s
  else if (s.calls.get key).isSome then s
  else if maxPassportVaultCallSubmissionHistory ≤
      (s.calls.keys.filter fun key => key.1 = profileId).length then s
  else { s with calls := s.calls.upsert key (fun _ => draft) draft }

def prepare (env : NativeEnvironment) (s : NativeState)
    (request : PreparePassportVaultCallRequest) (context : PassportVaultCallCompositionContext)
    (compose : Composer) : NativeState :=
  match prepareDraft env request context compose with
  | .ok draft => s.retain request.profileId draft
  | .error _ => s

def authorize (env : NativeEnvironment) (s : NativeState) (call : Nat) (profileId : OpaqueId)
    (request : AuthorizePassportVaultCallRequest) (fund : Funding) : Option NativeState :=
  let key := (profileId, request.draftId)
  match s.authorizing call, s.calls.get key with
  | none, some retained =>
    let result := retained.beginAuthorize env profileId request fund
    let s := s.update key fun _ => result.2
    match result.1 with
    | .returned _ => some s
    | .composing work =>
      some { s with
        authorizing := Function.update s.authorizing call (some ⟨profileId, request, work⟩) }
  | none, none => some s
  | some _, _ => none

def authorizeClaim (env : NativeEnvironment) (s : NativeState) (call : Nat)
    (compose : PendingProtectedClaim → Except PassportVaultCallPortError (List UInt8))
    (fund : Funding) : Option NativeState :=
  match s.authorizing call with
  | none => none
  | some a =>
    let transaction := claimTransaction env a.profileId a.work compose fund
    let s := { s with authorizing := Function.update s.authorizing call none }
    some (s.update (a.profileId, a.request.draftId) fun retained =>
      (retained.concludeAuthorize a.request a.work transaction).2)

def submit (w : Nat) (profileId : OpaqueId) (request : SubmitPassportVaultCallRequest) :
    Option NativeState :=
  let key := (profileId, request.draftId)
  match s.workers w, s.calls.get key with
  | .unused, some retained =>
    let result := retained.beginSubmit profileId request
    let s := s.update key fun _ => result.2
    match result.1 with
    | .returned _ => some s
    | .sending completion => some (s.setWorker w (.spawning key completion))
  | .unused, none => some s
  | _, _ => none

def spawn (w : Nat) : Option NativeState :=
  match s.workers w with
  | .spawning key _ => some (s.setWorker w (.completing key false))
  | _ => none

def spawnFailed (w : Nat) : Option NativeState :=
  match s.workers w with
  | .spawning key _ => some ((s.setWorker w .ended).update key (·.restoreAuthorized))
  | _ => none

def broadcast (w : Nat) : Option NativeState :=
  match s.workers w with
  | .completing key _ => some (s.setWorker w (.completing key true))
  | _ => none

def completed (w : Nat) (result : Except PassportVaultCallPortError PassportVaultCallInclusion) :
    Option NativeState :=
  match s.workers w with
  | .completing key _ => some (s.setWorker w (.finishing key result))
  | _ => none

def panicked (w : Nat) : Option NativeState :=
  match s.workers w with
  | .completing _ _ => some (s.setWorker w .ended)
  | _ => none

def finish (w : Nat)
    (status : Except PassportVaultCallPortError PassportVaultCallSubmissionStatus) :
    Option NativeState :=
  match s.workers w with
  | .finishing key result =>
    let s := s.setWorker w .ended
    match s.calls.get key with
    | none => some s
    | some retained =>
      match retained.concludeSubmission result status with
      | some retained => some (s.update key fun _ => retained)
      | none => some { s with calls := s.calls.erase key }
  | _ => none

def report (call : Nat) (key : CallKey) (status : PassportVaultCallSubmissionStatus) :
    Option NativeState :=
  match s.reports call with
  | none => some { s with reports := Function.update s.reports call (some (key, status)) }
  | some _ => none

def applyReport (call : Nat) : Option NativeState :=
  match s.reports call with
  | none => none
  | some (key, status) =>
    some (update { s with reports := Function.update s.reports call none } key
      (·.updateFromStatus status))

def step (env : NativeEnvironment) (s : NativeState) : NativeEvent → Option NativeState
  | .prepare request context compose => some (s.prepare env request context compose)
  | .authorize call profileId request fund => s.authorize env call profileId request fund
  | .authorizeClaim call compose fund => s.authorizeClaim env call compose fund
  | .submit w profileId request => s.submit w profileId request
  | .spawn w => s.spawn w
  | .spawnFailed w => s.spawnFailed w
  | .broadcast w => s.broadcast w
  | .completed w result => s.completed w result
  | .panicked w => s.panicked w
  | .finish w status => s.finish w status
  | .get profileId draftId now => some (s.update (profileId, draftId) (·.expireIfNeeded now))
  | .report call key status => s.report call key status
  | .applyReport call => s.applyReport call

end NativeState
end Oxid.PassportVault
