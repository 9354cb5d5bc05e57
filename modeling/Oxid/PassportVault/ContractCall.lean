import Oxid.PassportVault.Activity
import Oxid.PassportVault.Domain
import Oxid.Text

/-!
# Contract calls

The use cases of `passport-vault/application/src/contract_call.rs` check what the adapter
answers about a call and record it in the activity store, on which they are methods.
-/

namespace Oxid.PassportVault

open Foundation Result Transaction

def passportVaultCallDraftTtlMillis : UInt64 := 60 * 60 * 1000

def maxPassportVaultCallSubmissionHistory : ℕ := 128

def authorizePassportVaultCallIntent : String := "AUTHORIZE_PASSPORT_VAULT_CALL"

def submitPassportVaultCallIntent : String := "SUBMIT_PASSPORT_VAULT_CALL"

structure PassportVaultCallDraftId where
  id : OpaqueId
  deriving DecidableEq

def PassportVaultCallDraftId.parse (value : String) :
    Except OpaqueIdError PassportVaultCallDraftId :=
  (OpaqueId.parse value).map .mk

def PassportVaultCallDraftId.asStr (draftId : PassportVaultCallDraftId) : String :=
  draftId.id.asStr

structure PassportVaultCallAuthorizationChallenge where
  id : OpaqueId
  deriving DecidableEq

def PassportVaultCallAuthorizationChallenge.parse (value : String) :
    Except OpaqueIdError PassportVaultCallAuthorizationChallenge :=
  (OpaqueId.parse value).map .mk

inductive PassportVaultCallOperation
  | createLock (policy : PassportVaultPolicy) (initialAmount : U128)
  | depositToLock (lockId : UInt64) (amount : U128)
  | claimFromLock (lockId : UInt64) (amount : U128) (credentialId : OpaqueId)
  | withdrawFromLock (lockId : UInt64) (amount : U128)
  deriving DecidableEq

namespace PassportVaultCallOperation

def kind : PassportVaultCallOperation → PassportVaultCallKind
  | createLock .. => .createLock
  | depositToLock .. => .depositToLock
  | claimFromLock .. => .claimFromLock
  | withdrawFromLock .. => .withdrawFromLock

def lockId : PassportVaultCallOperation → Option UInt64
  | createLock .. => none
  | depositToLock lockId _ | claimFromLock lockId _ _ | withdrawFromLock lockId _ => some lockId

def amount : PassportVaultCallOperation → U128
  | createLock _ initialAmount => initialAmount
  | depositToLock _ amount | claimFromLock _ amount _ | withdrawFromLock _ amount => amount

end PassportVaultCallOperation

inductive PassportVaultCallDraftState
  | prepared | authorized | submitting | submitted | expired
  deriving DecidableEq

inductive PassportVaultCallSubmissionState
  | notStarted | running | cancellationRequested | broadcasting | cancelled | included | rejected
  | expired | outcomeUnknown
  deriving DecidableEq

inductive PassportVaultCallPortError
  | unavailable | protectionNotInitialized | protectionLocked | accountNotDerived
  | accountNotSynchronized | unsupportedNetwork | draftNotFound | draftExpired | draftConflict
  | authorizationChallengeMismatch | submissionInProgress | submissionNotInProgress
  | submissionCancelled | submissionCancellationUnsafe | insufficientFunds | insufficientDust
  | invalidChainState | provingFailed | submissionRejected | submissionOutcomeUnknown | timeout
  | invalidData
  deriving DecidableEq

inductive PassportVaultContractStateSourceError
  | unavailable | invalidConfiguration | invalidAddress | notFound | invalidResponse
  | capacityExceeded | finalityMismatch
  deriving DecidableEq

inductive PassportVaultContractStateAuthentication
  | indexerSuppliedNotProven | canonicalFinalizedReplay | deterministicSimulation
  deriving DecidableEq

structure PassportVaultContractStateSnapshot where
  serializedContractState : List UInt8
  authentication : PassportVaultContractStateAuthentication
  (contractAddressHex transactionHashHex actionBlockHashHex : String)
  actionBlockHeight : UInt64
  finalizedHeadHashHex : String
  (finalizedHeadHeight finalizedHeadTimeSeconds : UInt64)

structure PreparePassportVaultCallRequest where
  profileId : OpaqueId
  contractState : PassportVaultContractStateSnapshot
  operation : PassportVaultCallOperation
  expiresAt : UInt64

structure AuthorizePassportVaultCallRequest where
  draftId : PassportVaultCallDraftId
  authorizationChallenge : PassportVaultCallAuthorizationChallenge
  now : UInt64

structure SubmitPassportVaultCallRequest where
  draftId : PassportVaultCallDraftId
  now : UInt64

structure PassportVaultCallPreview where
  draftId : PassportVaultCallDraftId
  authorizationChallenge : PassportVaultCallAuthorizationChallenge
  contractAddressHex : String
  operation : PassportVaultCallOperation
  (stateAnchorTransactionHashHex stateAnchorBlockHashHex : String)
  (stateAnchorBlockHeight expiresAt : UInt64)
  state : PassportVaultCallDraftState
  feeAtomicUnits : Option U128

structure PassportVaultCallInclusion where
  (transactionHashHex blockHashHex : String)
  blockHeight : UInt64
  feeAtomicUnits : U128
  mode : String

structure SubmittedPassportVaultCall where
  preview : PassportVaultCallPreview
  inclusion : PassportVaultCallInclusion

structure PassportVaultCallSubmissionStatus where
  draftId : PassportVaultCallDraftId
  state : PassportVaultCallSubmissionState
  (transactionHashHex blockHashHex : Option String)
  blockHeight : Option UInt64
  feeAtomicUnits : Option U128
  mode : Option String

namespace PassportVaultCallSubmissionStatus

variable (status : PassportVaultCallSubmissionStatus)

def cancellationAllowed : Bool :=
  status.state = .running

def retryable : Bool :=
  status.state = .notStarted || status.state = .cancelled

def replacementAllowed : Bool :=
  status.state = .rejected || status.state = .expired

def reconciliationAllowed : Bool :=
  status.state = .broadcasting || status.state = .outcomeUnknown

end PassportVaultCallSubmissionStatus

structure PassportVaultContractCallPort where
  prepare : PreparePassportVaultCallRequest →
    Except PassportVaultCallPortError PassportVaultCallPreview
  authorize : OpaqueId → AuthorizePassportVaultCallRequest →
    Except PassportVaultCallPortError PassportVaultCallPreview
  submit : OpaqueId → SubmitPassportVaultCallRequest →
    Except PassportVaultCallPortError SubmittedPassportVaultCall
  get : OpaqueId → PassportVaultCallDraftId → UInt64 →
    Except PassportVaultCallPortError PassportVaultCallPreview
  submissionStatus : OpaqueId → PassportVaultCallDraftId →
    Except PassportVaultCallPortError PassportVaultCallSubmissionStatus
  cancelSubmission : OpaqueId → PassportVaultCallDraftId →
    Except PassportVaultCallPortError PassportVaultCallSubmissionStatus
  submissionHistory : OpaqueId →
    Except PassportVaultCallPortError (List PassportVaultCallSubmissionStatus)
  reconcileSubmission : OpaqueId → PassportVaultCallDraftId →
    Except PassportVaultCallPortError PassportVaultCallSubmissionStatus

structure PassportVaultContractCallService where
  state : String →
    Except PassportVaultContractStateSourceError PassportVaultContractStateSnapshot
  calls : PassportVaultContractCallPort
  clock : Except PlatformError UInt64
  random : Except PlatformError Bytes32
  activityClock : Except PlatformError UInt64
  requiredAuthentication : PassportVaultContractStateAuthentication

/-! ## Commands, views and errors -/

inductive PreparePassportVaultCallAction
  | createLock (minimumAgeYears : UInt8)
      (requiredIssuingState requiredDocumentNumber : Option Bytes32)
      (maximumClaimAmount initialAmount : String)
  | depositToLock (lockId : UInt64) (amount : String)
  | claimFromLock (lockId : UInt64) (amount credentialId : String)
  | withdrawFromLock (lockId : UInt64) (amount : String)

structure PreparePassportVaultCallCommand where
  (profileId contractAddressHex : String)
  action : PreparePassportVaultCallAction

structure AuthorizePassportVaultCallCommand where
  (profileId draftId authorizationChallenge : String)
  confirmed : Bool
  intent : String

structure SubmitPassportVaultCallCommand where
  (profileId draftId : String)
  confirmed : Bool
  intent : String

structure PassportVaultCallQuery where
  (profileId draftId : String)

structure PassportVaultCallPreviewView where
  (draftId authorizationChallenge contractAddressHex : String)
  operation : PassportVaultCallKind
  lockId : Option UInt64
  (amountAtomicUnits stateAnchorTransactionHashHex stateAnchorBlockHashHex : String)
  (stateAnchorBlockHeight expiresAtMillis : UInt64)
  state : PassportVaultCallDraftState
  feeAtomicUnits : Option String
  (proofRequired submissionReady : Bool)
  deriving DecidableEq

def PassportVaultCallPreview.view (value : PassportVaultCallPreview) :
    PassportVaultCallPreviewView where
  draftId := value.draftId.asStr
  authorizationChallenge := value.authorizationChallenge.id.asStr
  contractAddressHex := value.contractAddressHex
  operation := value.operation.kind
  lockId := value.operation.lockId
  amountAtomicUnits := toString value.operation.amount.val
  stateAnchorTransactionHashHex := value.stateAnchorTransactionHashHex
  stateAnchorBlockHashHex := value.stateAnchorBlockHashHex
  stateAnchorBlockHeight := value.stateAnchorBlockHeight
  expiresAtMillis := value.expiresAt
  state := value.state
  feeAtomicUnits := value.feeAtomicUnits.map fun fee => toString fee.val
  proofRequired := value.state ≠ .submitted
  submissionReady := value.state = .authorized

structure PassportVaultCallSubmissionView where
  call : PassportVaultCallPreviewView
  (transactionHashHex blockHashHex : String)
  blockHeight : UInt64
  (feeAtomicUnits mode : String)
  deriving DecidableEq

structure PassportVaultCallSubmissionStatusView where
  draftId : String
  state : PassportVaultCallSubmissionState
  (cancellationAllowed retryable replacementAllowed reconciliationAllowed : Bool)
  (transactionHashHex blockHashHex : Option String)
  blockHeight : Option UInt64
  (feeAtomicUnits mode : Option String)
  deriving DecidableEq

def PassportVaultCallSubmissionStatus.view (value : PassportVaultCallSubmissionStatus) :
    PassportVaultCallSubmissionStatusView where
  draftId := value.draftId.asStr
  state := value.state
  cancellationAllowed := value.cancellationAllowed
  retryable := value.retryable
  replacementAllowed := value.replacementAllowed
  reconciliationAllowed := value.reconciliationAllowed
  transactionHashHex := value.transactionHashHex
  blockHashHex := value.blockHashHex
  blockHeight := value.blockHeight
  feeAtomicUnits := value.feeAtomicUnits.map fun fee => toString fee.val
  mode := value.mode

inductive PassportVaultCallError
  | invalidIdentifier (error : OpaqueIdError)
  | invalidAddress
  | invalidAmount
  | zeroAmount
  | invalidPolicy
  | confirmationRequired
  | invalidConfirmation
  | unauthenticatedState
  | clock (error : PlatformError)
  | random (error : PlatformError)
  | state (error : PassportVaultContractStateSourceError)
  | operation (error : PassportVaultCallPortError)
  deriving DecidableEq

def invalidAdapterData : PassportVaultCallError := .operation .invalidData

/-- `normalize_hex_32`.  The source counts bytes; a text with another character than a
hexadecimal digit is rejected either way. -/
def normalizeHex32 (value : String) : Option String :=
  let digits := match value.toList with
    | '0' :: 'x' :: rest => rest
    | value => value
  if digits.length = 64 ∧ digits.all (fun c => (Text.hexValue c).isSome) then
    some (String.ofList (digits.map Char.toLower))
  else none

def isNormalHex32 (value : String) : Bool := normalizeHex32 value = some value

def validateSnapshot (snapshot : PassportVaultContractStateSnapshot)
    (expectedContractAddressHex : String) : Except PassportVaultContractStateSourceError Unit := do
  rejectIf snapshot.serializedContractState.isEmpty .invalidResponse
  rejectIf (maxPassportVaultContractStateBytes < snapshot.serializedContractState.length)
    .capacityExceeded
  rejectIf (snapshot.contractAddressHex ≠ expectedContractAddressHex ||
    normalizeHex32 snapshot.contractAddressHex ≠ some expectedContractAddressHex ||
    !isNormalHex32 snapshot.transactionHashHex || !isNormalHex32 snapshot.actionBlockHashHex ||
    !isNormalHex32 snapshot.finalizedHeadHashHex) .invalidResponse
  rejectIf (snapshot.finalizedHeadHeight < snapshot.actionBlockHeight ||
    snapshot.finalizedHeadTimeSeconds = 0) .finalityMismatch

def parseAmount (value : String) : Except PassportVaultCallError U128 := do
  rejectIf (value.toList.isEmpty || 39 < value.toList.length ||
    !value.toList.all Char.isDigit || (1 < value.toList.length && value.toList.head? = some '0'))
    .invalidAmount
  -- `str::parse` fails on overflow.
  rejectIf (2 ^ 128 ≤ Nat.ofDigitChars 10 value.toList 0) .invalidAmount
  return Fin.ofNat (2 ^ 128) (Nat.ofDigitChars 10 value.toList 0)

def parsePositiveAmount (value : String) : Except PassportVaultCallError U128 := do
  let amount ← parseAmount value
  rejectIf (amount = 0) .zeroAmount
  return amount

def parseIdentifier (value : String) : Except PassportVaultCallError OpaqueId :=
  (OpaqueId.parse value).mapError .invalidIdentifier

def parseDraftId (value : String) : Except PassportVaultCallError PassportVaultCallDraftId :=
  (PassportVaultCallDraftId.parse value).mapError .invalidIdentifier

def parseQuery (query : PassportVaultCallQuery) :
    Except PassportVaultCallError (OpaqueId × PassportVaultCallDraftId) := do
  let profileId ← parseIdentifier query.profileId
  let draftId ← parseDraftId query.draftId
  return (profileId, draftId)

def verifierChallengeHash (bytes : Bytes32) : Bytes32 :=
  if bytes = .zero then ⟨1 :: List.replicate 31 0, by simp⟩ else bytes

def operationFromAction (random : Except PlatformError Bytes32) :
    PreparePassportVaultCallAction → Except PassportVaultCallError PassportVaultCallOperation
  | .createLock minimumAgeYears requiredIssuingState requiredDocumentNumber maximumClaimAmount
      initialAmount => do
    let maximumClaimAmount ← parsePositiveAmount maximumClaimAmount
    let initialAmount ← parseAmount initialAmount
    let bytes ← random.mapError .random
    let policy ← (PassportVaultPolicy.new minimumAgeYears requiredIssuingState
      requiredDocumentNumber maximumClaimAmount (verifierChallengeHash bytes)).mapError
      fun _ => .invalidPolicy
    return .createLock policy initialAmount
  | .depositToLock lockId amount => do
    return .depositToLock lockId (← parsePositiveAmount amount)
  | .claimFromLock lockId amount credentialId => do
    let amount ← parsePositiveAmount amount
    return .claimFromLock lockId amount (← parseIdentifier credentialId)
  | .withdrawFromLock lockId amount => do
    return .withdrawFromLock lockId (← parsePositiveAmount amount)

def requireConfirmation (confirmed : Bool) (actual expected : String) :
    Except PassportVaultCallError Unit := do
  rejectIf (!confirmed) .confirmationRequired
  rejectIf (actual ≠ expected) .invalidConfirmation

def validatePreviewIdentifiers (preview : PassportVaultCallPreview) :
    Except PassportVaultCallError Unit :=
  rejectIf (!isNormalHex32 preview.contractAddressHex ||
    !isNormalHex32 preview.stateAnchorTransactionHashHex ||
    !isNormalHex32 preview.stateAnchorBlockHashHex) invalidAdapterData

def validatePreparedPreview (preview : PassportVaultCallPreview)
    (expectedContractAddressHex expectedTransactionHashHex expectedBlockHashHex : String)
    (expectedBlockHeight : UInt64) (operation : PassportVaultCallOperation)
    (expiresAt : UInt64) : Except PassportVaultCallError Unit := do
  rejectIf (preview.contractAddressHex ≠ expectedContractAddressHex ||
    preview.operation ≠ operation ||
    preview.stateAnchorTransactionHashHex ≠ expectedTransactionHashHex ||
    preview.stateAnchorBlockHashHex ≠ expectedBlockHashHex ||
    preview.stateAnchorBlockHeight ≠ expectedBlockHeight || preview.expiresAt ≠ expiresAt ||
    preview.state ≠ .prepared) invalidAdapterData
  validatePreviewIdentifiers preview

def validateTransition (before after : PassportVaultCallPreview)
    (expectedState : PassportVaultCallDraftState) : Except PassportVaultCallError Unit := do
  rejectIf (before.draftId ≠ after.draftId ||
    before.authorizationChallenge ≠ after.authorizationChallenge ||
    before.contractAddressHex ≠ after.contractAddressHex || before.operation ≠ after.operation ||
    before.stateAnchorTransactionHashHex ≠ after.stateAnchorTransactionHashHex ||
    before.stateAnchorBlockHashHex ≠ after.stateAnchorBlockHashHex ||
    before.stateAnchorBlockHeight ≠ after.stateAnchorBlockHeight ||
    before.expiresAt ≠ after.expiresAt || after.state ≠ expectedState) invalidAdapterData
  validatePreviewIdentifiers after

def validateSubmitted (submitted : SubmittedPassportVaultCall) :
    Except PassportVaultCallError Unit := do
  validatePreviewIdentifiers submitted.preview
  rejectIf (submitted.preview.state ≠ .submitted ||
    !isNormalHex32 submitted.inclusion.transactionHashHex ||
    !isNormalHex32 submitted.inclusion.blockHashHex ||
    submitted.inclusion.mode.toList.isEmpty || 64 < submitted.inclusion.mode.toList.length ||
    submitted.inclusion.mode.toList.any isControl) invalidAdapterData

def validateStatus (status : PassportVaultCallSubmissionStatus)
    (expectedDraftId : PassportVaultCallDraftId) : Except PassportVaultCallError Unit :=
  rejectIf (status.draftId ≠ expectedDraftId ||
    status.transactionHashHex.any (fun value => !isNormalHex32 value) ||
    status.blockHashHex.any (fun value => !isNormalHex32 value) ||
    status.mode.any (fun mode => mode.toList.isEmpty || trim mode.toList ≠ mode.toList ||
      64 < mode.toList.length || mode.toList.any isControl) ||
    status.blockHashHex.isSome ≠ status.blockHeight.isSome ||
    (status.state = .included &&
      (status.transactionHashHex.isNone || status.blockHashHex.isNone ||
        status.feeAtomicUnits.isNone || status.mode.isNone))) invalidAdapterData

/-! ## What is recorded -/

def activityStatusFromSubmissionState :
    PassportVaultCallSubmissionState → PassportVaultActivityStatus
  | .notStarted | .running | .cancellationRequested | .broadcasting => .pending
  | .included => .confirmed
  | .rejected | .expired => .failed
  | .cancelled => .cancelled
  | .outcomeUnknown => .outcomeUnknown

def activityStatusFromPortError : PassportVaultCallPortError → PassportVaultActivityStatus
  | .submissionCancelled => .cancelled
  | .timeout => .timedOut
  | .submissionOutcomeUnknown => .outcomeUnknown
  | .unavailable | .protectionNotInitialized | .protectionLocked | .accountNotDerived
  | .accountNotSynchronized | .unsupportedNetwork | .draftNotFound | .draftExpired
  | .draftConflict | .authorizationChallengeMismatch | .submissionInProgress
  | .submissionNotInProgress | .submissionCancellationUnsafe | .insufficientFunds
  | .insufficientDust | .invalidChainState | .provingFailed | .submissionRejected
  | .invalidData => .failed

abbrev CallM := Method PassportVaultActivityState PassportVaultCallError

namespace PassportVaultContractCallService

variable (service : PassportVaultContractCallService)

def now : Except PassportVaultCallError UInt64 := service.clock.mapError .clock

def updateActivity (profileId : OpaqueId) (draftId : PassportVaultCallDraftId)
    (status : PassportVaultActivityStatus) : CallM Unit :=
  modify (·.updateContract service.activityClock ⟨profileId.asStr, draftId.asStr⟩ status)

def recordActivityError (profileId : OpaqueId) (draftId : PassportVaultCallDraftId)
    (error : PassportVaultCallPortError) : CallM Unit :=
  service.updateActivity profileId draftId (activityStatusFromPortError error)

def answered {α : Type} (profileId : OpaqueId) (draftId : PassportVaultCallDraftId)
    (answer : Except PassportVaultCallPortError α) : CallM α :=
  match answer with
  | .ok value => pure value
  | .error error => do
    service.recordActivityError profileId draftId error
    throw (.operation error)

def checked (profileId : OpaqueId) (draftId : PassportVaultCallDraftId)
    (check : Except PassportVaultCallError Unit) : CallM Unit :=
  match check with
  | .ok () => pure ()
  | .error error => do
    service.updateActivity profileId draftId .failed
    throw error

@[simp] theorem answered_ok {α : Type} (profileId : OpaqueId)
    (draftId : PassportVaultCallDraftId) (value : α) :
    service.answered profileId draftId (.ok value) = pure value := rfl

@[simp] theorem checked_ok (profileId : OpaqueId) (draftId : PassportVaultCallDraftId) :
    service.checked profileId draftId (.ok ()) = pure () := rfl

/-! ## The use cases -/

def prepare (command : PreparePassportVaultCallCommand) : CallM PassportVaultCallPreviewView := do
  let profileId ← ofResult (parseIdentifier command.profileId)
  let contractAddressHex ← ofResult
    (Result.okOr (normalizeHex32 command.contractAddressHex) .invalidAddress)
  let operation ← ofResult (operationFromAction service.random command.action)
  let now ← ofResult service.now
  let expiresAt ← ofResult
    (Result.okOr (checkedAdd64 now passportVaultCallDraftTtlMillis) (.clock .clockUnavailable))
  let snapshot ← ofResult ((service.state contractAddressHex).mapError .state)
  ofResult ((validateSnapshot snapshot contractAddressHex).mapError .state)
  ofResult (rejectIf (snapshot.authentication ≠ service.requiredAuthentication)
    .unauthenticatedState)
  let preview ← ofResult
    ((service.calls.prepare ⟨profileId, snapshot, operation, expiresAt⟩).mapError .operation)
  ofResult (validatePreparedPreview preview snapshot.contractAddressHex
    snapshot.transactionHashHex snapshot.actionBlockHashHex snapshot.actionBlockHeight operation
    expiresAt)
  modify fun activity => (activity.beginContract service.activityClock preview.draftId.asStr
    profileId.asStr preview.operation.kind preview.operation.lockId).2
  return preview.view

def authorize (command : AuthorizePassportVaultCallCommand) :
    CallM PassportVaultCallPreviewView := do
  let profileId ← ofResult (parseIdentifier command.profileId)
  let draftId ← ofResult (parseDraftId command.draftId)
  ofResult (requireConfirmation command.confirmed command.intent authorizePassportVaultCallIntent)
  let authorizationChallenge ← ofResult ((PassportVaultCallAuthorizationChallenge.parse
    command.authorizationChallenge).mapError .invalidIdentifier)
  let now ← ofResult service.now
  let before ← service.answered profileId draftId (service.calls.get profileId draftId now)
  service.checked profileId draftId
    (rejectIf (before.expiresAt ≤ now) (.operation .draftExpired))
  service.checked profileId draftId
    (rejectIf (before.draftId ≠ draftId || before.state ≠ .prepared) (.operation .invalidData))
  service.checked profileId draftId
    (rejectIf (before.authorizationChallenge ≠ authorizationChallenge)
      (.operation .authorizationChallengeMismatch))
  let preview ← service.answered profileId draftId
    (service.calls.authorize profileId ⟨draftId, authorizationChallenge, now⟩)
  service.checked profileId draftId (validateTransition before preview .authorized)
  return preview.view

def submissionView (before : PassportVaultCallPreview) (submitted : SubmittedPassportVaultCall) :
    Except PassportVaultCallError PassportVaultCallSubmissionView := do
  validateTransition before submitted.preview .submitted
  validateSubmitted submitted
  return {
    call := submitted.preview.view
    transactionHashHex := submitted.inclusion.transactionHashHex
    blockHashHex := submitted.inclusion.blockHashHex
    blockHeight := submitted.inclusion.blockHeight
    feeAtomicUnits := toString submitted.inclusion.feeAtomicUnits.val
    mode := submitted.inclusion.mode }

def submit (command : SubmitPassportVaultCallCommand) : CallM PassportVaultCallSubmissionView := do
  let profileId ← ofResult (parseIdentifier command.profileId)
  let draftId ← ofResult (parseDraftId command.draftId)
  ofResult (requireConfirmation command.confirmed command.intent submitPassportVaultCallIntent)
  let now ← ofResult service.now
  let before ← service.answered profileId draftId (service.calls.get profileId draftId now)
  service.checked profileId draftId
    (rejectIf (before.expiresAt ≤ now) (.operation .draftExpired))
  service.checked profileId draftId
    (rejectIf (before.draftId ≠ draftId || before.state ≠ .authorized) invalidAdapterData)
  let submitted ← service.answered profileId draftId
    (service.calls.submit profileId ⟨draftId, now⟩)
  let result := submissionView before submitted
  service.updateActivity profileId before.draftId
    (if result.isOk then .confirmed else .failed)
  ofResult result

def get (query : PassportVaultCallQuery) : CallM PassportVaultCallPreviewView := do
  let (profileId, draftId) ← ofResult (parseQuery query)
  let now ← ofResult service.now
  let preview ← ofResult ((service.calls.get profileId draftId now).mapError .operation)
  ofResult (rejectIf (preview.draftId ≠ draftId) invalidAdapterData)
  ofResult (validatePreviewIdentifiers preview)
  return preview.view

def reportSubmission (ask : OpaqueId → PassportVaultCallDraftId →
      Except PassportVaultCallPortError PassportVaultCallSubmissionStatus)
    (query : PassportVaultCallQuery) : CallM PassportVaultCallSubmissionStatusView := do
  let (profileId, draftId) ← ofResult (parseQuery query)
  let status ← service.answered profileId draftId (ask profileId draftId)
  service.checked profileId draftId (validateStatus status draftId)
  service.updateActivity profileId draftId (activityStatusFromSubmissionState status.state)
  return status.view

def submissionStatus : PassportVaultCallQuery → CallM PassportVaultCallSubmissionStatusView :=
  service.reportSubmission service.calls.submissionStatus

def cancelSubmission : PassportVaultCallQuery → CallM PassportVaultCallSubmissionStatusView :=
  service.reportSubmission service.calls.cancelSubmission

def reconcileSubmission : PassportVaultCallQuery → CallM PassportVaultCallSubmissionStatusView :=
  service.reportSubmission service.calls.reconcileSubmission

def historyViews (draftIds : List PassportVaultCallDraftId) :
    List PassportVaultCallSubmissionStatus →
      Except PassportVaultCallError (List PassportVaultCallSubmissionStatusView)
  | [] => .ok []
  | status :: rest => do
    rejectIf (status.draftId ∈ draftIds) invalidAdapterData
    validateStatus status status.draftId
    let views ← historyViews (status.draftId :: draftIds) rest
    return status.view :: views

def submissionHistory (profileId : String) :
    CallM (List PassportVaultCallSubmissionStatusView) := do
  let profileId ← ofResult (parseIdentifier profileId)
  let history ← ofResult ((service.calls.submissionHistory profileId).mapError .operation)
  ofResult (rejectIf (maxPassportVaultCallSubmissionHistory < history.length) invalidAdapterData)
  ofResult (historyViews [] history)

end PassportVaultContractCallService

/-! ## Calls of the use cases -/

inductive ContractCallUseCase
  | prepare (command : PreparePassportVaultCallCommand)
  | authorize (command : AuthorizePassportVaultCallCommand)
  | submit (command : SubmitPassportVaultCallCommand)
  | get (query : PassportVaultCallQuery)
  | submissionStatus (query : PassportVaultCallQuery)
  | cancelSubmission (query : PassportVaultCallQuery)
  | submissionHistory (profileId : String)
  | reconcileSubmission (query : PassportVaultCallQuery)

inductive ContractCallResponse
  | previewed (view : PassportVaultCallPreviewView)
  | submitted (view : PassportVaultCallSubmissionView)
  | reported (view : PassportVaultCallSubmissionStatusView)
  | listed (views : List PassportVaultCallSubmissionStatusView)
  deriving DecidableEq

namespace ContractCallUseCase

def perform (service : PassportVaultContractCallService) :
    ContractCallUseCase → CallM ContractCallResponse
  | prepare command => .previewed <$> service.prepare command
  | authorize command => .previewed <$> service.authorize command
  | submit command => .submitted <$> service.submit command
  | get query => .previewed <$> service.get query
  | submissionStatus query => .reported <$> service.submissionStatus query
  | cancelSubmission query => .reported <$> service.cancelSubmission query
  | submissionHistory profileId => .listed <$> service.submissionHistory profileId
  | reconcileSubmission query => .reported <$> service.reconcileSubmission query

def draft : ContractCallUseCase → Option ContractDraft
  | authorize command => some ⟨command.profileId, command.draftId⟩
  | submit command => some ⟨command.profileId, command.draftId⟩
  | submissionStatus query => some ⟨query.profileId, query.draftId⟩
  | cancelSubmission query => some ⟨query.profileId, query.draftId⟩
  | reconcileSubmission query => some ⟨query.profileId, query.draftId⟩
  | prepare _ | get _ | submissionHistory _ => none

/-- What a result tells of the draft: a submission that returned was confirmed, a
reported state and an error of the adapter have their status, and the errors found
before the adapter was asked say nothing. -/
def recorded :
    Except PassportVaultCallError ContractCallResponse → Option PassportVaultActivityStatus
  | .ok (.submitted _) => some .confirmed
  | .ok (.reported view) => some (activityStatusFromSubmissionState view.state)
  | .ok (.previewed _) | .ok (.listed _) => none
  | .error (.operation error) => some (activityStatusFromPortError error)
  | .error _ => none

def record (service : PassportVaultContractCallService) (draft : ContractDraft)
    (result : Except PassportVaultCallError ContractCallResponse)
    (activity : PassportVaultActivityState) : PassportVaultActivityState :=
  (recorded result).elim activity fun status =>
    activity.updateContract service.activityClock draft status

def effect (service : PassportVaultContractCallService) (useCase : ContractCallUseCase)
    (result : Except PassportVaultCallError ContractCallResponse)
    (activity : PassportVaultActivityState) : PassportVaultActivityState :=
  match useCase, result with
  | prepare command, .ok (.previewed view) =>
    (activity.beginContract service.activityClock view.draftId command.profileId view.operation
      view.lockId).2
  | useCase, result => useCase.draft.elim activity fun draft => record service draft result activity

end ContractCallUseCase

namespace PassportVaultContractCallService

open ContractCallUseCase

variable (service : PassportVaultContractCallService) {α : Type} {profileId : OpaqueId}
  {draftId : PassportVaultCallDraftId}

def Unrecorded (error : PassportVaultCallError) : Prop := recorded (.error error) = none

def RecordedFailed (error : PassportVaultCallError) : Prop :=
  recorded (.error error) = some .failed

theorem parseIdentifier_failsOnly (value : String) : FailsOnly Unrecorded (parseIdentifier value) :=
  failsOnly_mapError fun _ => rfl

theorem parseDraftId_failsOnly (value : String) : FailsOnly Unrecorded (parseDraftId value) :=
  failsOnly_mapError fun _ => rfl

theorem now_failsOnly : FailsOnly Unrecorded service.now :=
  failsOnly_mapError fun _ => rfl

theorem parseQuery_failsOnly (query : PassportVaultCallQuery) :
    FailsOnly Unrecorded (parseQuery query) := by
  apply failsOnly_bind (parseIdentifier_failsOnly _)
  intro profileId _
  apply failsOnly_bind (parseDraftId_failsOnly _)
  intro draftId _
  exact failsOnly_ok _

theorem requireConfirmation_failsOnly (confirmed : Bool) (actual expected : String) :
    FailsOnly Unrecorded (requireConfirmation confirmed actual expected) := by
  apply failsOnly_bind
  · exact failsOnly_rejectIf rfl
  · exact fun _ _ => failsOnly_rejectIf rfl

theorem validateTransition_failsOnly (before after : PassportVaultCallPreview)
    (expectedState : PassportVaultCallDraftState) :
    FailsOnly RecordedFailed (validateTransition before after expectedState) := by
  apply failsOnly_bind
  · exact failsOnly_rejectIf rfl
  · exact fun _ _ => failsOnly_rejectIf rfl

theorem validateStatus_failsOnly (status : PassportVaultCallSubmissionStatus) :
    FailsOnly RecordedFailed (validateStatus status draftId) :=
  failsOnly_rejectIf rfl

theorem submissionView_failsOnly (before : PassportVaultCallPreview)
    (submitted : SubmittedPassportVaultCall) :
    FailsOnly RecordedFailed (submissionView before submitted) := by
  apply failsOnly_bind (validateTransition_failsOnly _ _ _)
  intro _ _
  refine failsOnly_bind ?_ fun _ _ => failsOnly_ok _
  apply failsOnly_bind
  · exact failsOnly_rejectIf rfl
  · exact fun _ _ => failsOnly_rejectIf rfl

section Logged
variable {β : Type} {g : α → ContractCallResponse} {draft : ContractDraft}

def logged (draft : ContractDraft) (g : α → ContractCallResponse)
    (result : Except PassportVaultCallError α) :
    PassportVaultActivityState → PassportVaultActivityState :=
  record service draft (g <$> result)

theorem logged_eq_id {error} (h : Unrecorded error) :
    service.logged draft g (.error error) = id := by
  have hnone : recorded (g <$> .error error) = none := h
  funext s
  rw [logged, record, hnone]
  rfl

theorem logged_eq_updateContract {result status} (h : recorded (g <$> result) = some status)
    (s : PassportVaultActivityState) :
    service.logged draft g result s = s.updateContract service.activityClock draft status := by
  rw [logged, record, h]
  rfl

theorem reports_ofResult_logged {x} {f : β → CallM α} (hx : FailsOnly Unrecorded x)
    (hok : ∀ b, x = .ok b → Reports (service.logged draft g) (f b)) :
    Reports (service.logged draft g) (ofResult x >>= f) :=
  reports_ofResult_bind (fun error herror => service.logged_eq_id (hx error herror)) hok

section
variable (hdraft : draft = ⟨profileId.asStr, draftId.asStr⟩)
include hdraft

theorem reports_answered_logged {answer} {f : β → CallM α}
    (hok : ∀ value, answer = .ok value → Reports (service.logged draft g) (f value)) :
    Reports (service.logged draft g) (service.answered profileId draftId answer >>= f) := by
  cases answer with
  | error error =>
    refine ⟨.error (.operation error), fun s => ?_⟩
    rw [call_bind, service.logged_eq_updateContract rfl, hdraft]
    rfl
  | ok value =>
    obtain ⟨result, h⟩ := hok value rfl
    refine ⟨result, fun s => ?_⟩
    rw [call_bind]
    exact h s

theorem reports_checked_logged {check} {f : Unit → CallM α}
    (hcheck : FailsOnly RecordedFailed check)
    (hok : check = .ok () → Reports (service.logged draft g) (f ())) :
    Reports (service.logged draft g) (service.checked profileId draftId check >>= f) := by
  cases check with
  | error error =>
    have hfailed : recorded (g <$> .error error) = some .failed := hcheck error rfl
    refine ⟨.error error, fun s => ?_⟩
    rw [call_bind, service.logged_eq_updateContract hfailed, hdraft]
    rfl
  | ok =>
    obtain ⟨result, h⟩ := hok rfl
    refine ⟨result, fun s => ?_⟩
    rw [call_bind]
    exact h s

theorem reports_updateActivity_logged {x status} (hx : recorded (g <$> x) = some status) :
    Reports (service.logged draft g)
      (service.updateActivity profileId draftId status >>= fun _ => ofResult x) := by
  refine ⟨x, fun s => ?_⟩
  rw [call_bind, service.logged_eq_updateContract hx, hdraft]
  rfl

end

theorem reports_previewed (view : PassportVaultCallPreviewView) :
    Reports (service.logged draft .previewed) (pure view) :=
  ⟨.ok view, fun _ => rfl⟩

end Logged

section UseCases
variable {profileId : OpaqueId} {draftId : PassportVaultCallDraftId}

theorem draft_eq_of_parse {profile draft} (hprofile : parseIdentifier profile = .ok profileId)
    (hdraft : parseDraftId draft = .ok draftId) :
    (⟨profile, draft⟩ : ContractDraft) = ⟨profileId.asStr, draftId.asStr⟩ := by
  have hp := OpaqueId.parse_ok_iff.mp (mapError_ok_iff.mp hprofile)
  have hd : (OpaqueId.parse draft).map .mk = .ok draftId := mapError_ok_iff.mp hdraft
  cases hparse : OpaqueId.parse draft with
  | error => rw [hparse] at hd; cases hd
  | ok =>
    rw [hparse] at hd
    cases hd
    rw [hp, ← OpaqueId.parse_ok_iff.mp hparse]
    rfl

theorem draft_eq_of_parseQuery {query} (h : parseQuery query = .ok (profileId, draftId)) :
    (⟨query.profileId, query.draftId⟩ : ContractDraft) = ⟨profileId.asStr, draftId.asStr⟩ := by
  obtain ⟨p, hp, h⟩ := bind_ok_iff.mp h
  obtain ⟨d, hd, h⟩ := bind_ok_iff.mp h
  cases h
  exact draft_eq_of_parse hp hd

theorem reports_parsed_logged {g profile draft} {f : OpaqueId → PassportVaultCallDraftId → CallM α}
    (hok : ∀ profileId draftId,
      (⟨profile, draft⟩ : ContractDraft) = ⟨profileId.asStr, draftId.asStr⟩ →
      Reports (service.logged ⟨profile, draft⟩ g) (f profileId draftId)) :
    Reports (service.logged ⟨profile, draft⟩ g)
      (ofResult (parseIdentifier profile) >>= fun profileId =>
        ofResult (parseDraftId draft) >>= fun draftId => f profileId draftId) := by
  apply service.reports_ofResult_logged (parseIdentifier_failsOnly _)
  intro profileId hprofile
  apply service.reports_ofResult_logged (parseDraftId_failsOnly _)
  intro draftId hdraft
  exact hok profileId draftId (draft_eq_of_parse hprofile hdraft)

theorem reports_authorize (command : AuthorizePassportVaultCallCommand) :
    Reports (service.logged ⟨command.profileId, command.draftId⟩ .previewed)
      (service.authorize command) := by
  apply service.reports_parsed_logged
  intro profileId draftId hkey
  apply service.reports_ofResult_logged (requireConfirmation_failsOnly _ _ _)
  intro _ _
  refine service.reports_ofResult_logged (failsOnly_mapError fun _ => rfl) ?_
  intro authorizationChallenge _
  apply service.reports_ofResult_logged service.now_failsOnly
  intro now _
  apply service.reports_answered_logged hkey
  intro before _
  refine service.reports_checked_logged hkey (failsOnly_rejectIf rfl) fun _ => ?_
  refine service.reports_checked_logged hkey (failsOnly_rejectIf rfl) fun _ => ?_
  refine service.reports_checked_logged hkey (failsOnly_rejectIf rfl) fun _ => ?_
  apply service.reports_answered_logged hkey
  intro preview _
  apply service.reports_checked_logged hkey (validateTransition_failsOnly _ _ _)
  intro _
  exact service.reports_previewed _

theorem reports_submit (command : SubmitPassportVaultCallCommand) :
    Reports (service.logged ⟨command.profileId, command.draftId⟩ .submitted)
      (service.submit command) := by
  apply service.reports_parsed_logged
  intro profileId draftId hkey
  apply service.reports_ofResult_logged (requireConfirmation_failsOnly _ _ _)
  intro _ _
  apply service.reports_ofResult_logged service.now_failsOnly
  intro now _
  apply service.reports_answered_logged hkey
  intro before _
  refine service.reports_checked_logged hkey (failsOnly_rejectIf rfl) fun _ => ?_
  refine service.reports_checked_logged hkey (failsOnly_rejectIf rfl) fun hbefore => ?_
  rw [rejectIf_ok_iff] at hbefore
  -- The activity is updated under the draft of the adapter's answer, which was checked.
  have hsame : before.draftId = draftId := by
    by_contra hne
    simp [hne] at hbefore
  apply service.reports_answered_logged hkey
  intro submitted _
  apply service.reports_updateActivity_logged (by rw [hkey, hsame])
  cases hresult : submissionView before submitted with
  | error error => exact submissionView_failsOnly before submitted error hresult
  | ok => rfl

theorem reports_reportSubmission (ask : OpaqueId → PassportVaultCallDraftId →
      Except PassportVaultCallPortError PassportVaultCallSubmissionStatus)
    (query : PassportVaultCallQuery) :
    Reports (service.logged ⟨query.profileId, query.draftId⟩ .reported)
      (service.reportSubmission ask query) := by
  apply service.reports_ofResult_logged (parseQuery_failsOnly _)
  intro ids hids
  have hkey := draft_eq_of_parseQuery hids
  apply service.reports_answered_logged hkey
  intro status _
  apply service.reports_checked_logged hkey (validateStatus_failsOnly _)
  intro _
  exact service.reports_updateActivity_logged (x := .ok status.view) hkey rfl

theorem reports_prepare (command : PreparePassportVaultCallCommand) :
    Reports (fun result => effect service (.prepare command) (.previewed <$> result))
      (service.prepare command) := by
  apply reports_ofResult_bind fun _ _ => rfl
  intro profileId hprofile
  have hkey := OpaqueId.parse_ok_iff.mp (mapError_ok_iff.mp hprofile)
  apply reports_ofResult_bind fun _ _ => rfl
  intro contractAddressHex _
  apply reports_ofResult_bind fun _ _ => rfl
  intro operation _
  apply reports_ofResult_bind fun _ _ => rfl
  intro now _
  apply reports_ofResult_bind fun _ _ => rfl
  intro expiresAt _
  apply reports_ofResult_bind fun _ _ => rfl
  intro snapshot _
  apply reports_ofResult_bind fun _ _ => rfl
  intro _ _
  apply reports_ofResult_bind fun _ _ => rfl
  intro _ _
  apply reports_ofResult_bind fun _ _ => rfl
  intro preview _
  apply reports_ofResult_bind fun _ _ => rfl
  intro _ _
  refine ⟨.ok preview.view, fun s => ?_⟩
  rw [call_bind, hkey]
  rfl

theorem reports_get (query : PassportVaultCallQuery) :
    Reports (fun result => effect service (.get query) (.previewed <$> result))
      (service.get query) := by
  apply reports_ofResult_bind fun _ _ => rfl
  intro ids _
  apply reports_ofResult_bind fun _ _ => rfl
  intro now _
  apply reports_ofResult_bind fun _ _ => rfl
  intro preview _
  apply reports_ofResult_bind fun _ _ => rfl
  intro _ _
  apply reports_ofResult_bind fun _ _ => rfl
  intro _ _
  exact ⟨.ok preview.view, fun _ => rfl⟩

theorem reports_submissionHistory (profileId : String) :
    Reports (fun result => effect service (.submissionHistory profileId) (.listed <$> result))
      (service.submissionHistory profileId) := by
  apply reports_ofResult_bind fun _ _ => rfl
  intro profileId _
  apply reports_ofResult_bind fun _ _ => rfl
  intro history _
  apply reports_ofResult_bind fun _ _ => rfl
  intro _ _
  exact reports_ofResult rfl

end UseCases

end PassportVaultContractCallService

namespace ContractCallUseCase

variable (service : PassportVaultContractCallService)

theorem reports_perform (useCase : ContractCallUseCase) :
    Reports (useCase.effect service) (useCase.perform service) := by
  cases useCase with
  | prepare command => exact reports_map _ (service.reports_prepare command)
  | authorize command => exact reports_map _ (service.reports_authorize command)
  | submit command => exact reports_map _ (service.reports_submit command)
  | get query => exact reports_map _ (service.reports_get query)
  | submissionStatus query => exact reports_map _ (service.reports_reportSubmission _ query)
  | cancelSubmission query => exact reports_map _ (service.reports_reportSubmission _ query)
  | submissionHistory profileId => exact reports_map _ (service.reports_submissionHistory profileId)
  | reconcileSubmission query => exact reports_map _ (service.reports_reportSubmission _ query)

def outcome (useCase : ContractCallUseCase) : Except PassportVaultCallError ContractCallResponse :=
  (call .default (useCase.perform service)).1

/-- **The activity store is told what the caller is told.** -/
theorem call_perform (useCase : ContractCallUseCase) (activity : PassportVaultActivityState) :
    call activity (useCase.perform service) =
      (useCase.outcome service, useCase.effect service (useCase.outcome service) activity) :=
  (useCase.reports_perform service).call_eq _ _

end ContractCallUseCase

end Oxid.PassportVault
