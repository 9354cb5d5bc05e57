import Oxid.Midnight.RegistrationPlan

/-!
# Retained drafts

What the ports, the workers and a reconciliation do to one draft under its lock, for transfers
and for DUST registrations.  They differ in when a draft expires and in which changes ask for
the state first.
-/

namespace Oxid.Midnight
open Foundation Wallet PassportVault Transaction

inductive DraftState
  | prepared | authorized | submitting | submitted | expired
  deriving DecidableEq

inductive SubmissionState
  | notStarted | running | cancellationRequested | broadcasting | cancelled | included | rejected
  | expired | outcomeUnknown
  deriving DecidableEq

structure SubmissionReceipt where
  (transactionHash blockHash : Bytes32)
  feeSpecks : U128
  mode : SubmissionMode
  deriving DecidableEq

abbrev Transaction := List UInt8

structure RetainedDraft where
  planningFingerprint : Bytes32
  authorizationChallenge : OpaqueId
  networkId : ChainNetworkId
  shielded : Bool
  expiresAt : UInt64
  state : DraftState
  signingPayload : List UInt8
  (preparedShieldedTransaction signedTransaction : Option Transaction)
  submission : Option SubmissionReceipt
  submissionState : SubmissionState
  submissionControl : Option ℕ

structure DraftTerms where
  planningFingerprint : Bytes32
  authorizationChallenge : OpaqueId
  networkId : ChainNetworkId
  shielded : Bool
  expiresAt : UInt64
  signingPayload : List UInt8
  preparedShieldedTransaction : Option Transaction

def DraftTerms.retained (terms : DraftTerms) : RetainedDraft where
  planningFingerprint := terms.planningFingerprint
  authorizationChallenge := terms.authorizationChallenge
  networkId := terms.networkId
  shielded := terms.shielded
  expiresAt := terms.expiresAt
  state := .prepared
  signingPayload := terms.signingPayload
  preparedShieldedTransaction := terms.preparedShieldedTransaction
  signedTransaction := none
  submission := none
  submissionState := .notStarted
  submissionControl := none

namespace RetainedDraft

variable (retained : RetainedDraft)

def isActive : Bool :=
  retained.state = .prepared || retained.state = .authorized || retained.state = .submitting

def authorized (transaction : Transaction) : RetainedDraft :=
  { retained with
    state := .authorized
    signingPayload := []
    preparedShieldedTransaction :=
      if retained.shielded then none else retained.preparedShieldedTransaction
    signedTransaction := some transaction }

def submittedBy (control : ℕ) : RetainedDraft :=
  { retained with
    state := .submitting
    submissionState := .running
    submissionControl := some control }

def attempt (now : UInt64) : SubmissionAttempt where
  networkId := retained.networkId
  planningFingerprint := retained.planningFingerprint
  expiresAt := retained.expiresAt
  updatedAt := now

def restored (state : SubmissionState) : RetainedDraft :=
  { retained with state := .authorized, submissionState := state, submissionControl := none }

def unsettled : RetainedDraft :=
  { retained with submissionState := .outcomeUnknown, submissionControl := none }

def completed (receipt : SubmissionReceipt) : RetainedDraft :=
  { retained with
    state := .submitted
    signedTransaction := none
    submission := some receipt
    submissionState := .included
    submissionControl := none }

end RetainedDraft

inductive SubmitReply
  | submitted (receipt : SubmissionReceipt)
  | started (attempt : SubmissionAttempt)

def started {ε : Type} : Except ε SubmitReply → Option SubmissionAttempt
  | .ok (.started attempt) => some attempt
  | _ => none

inductive DraftUpdate
  | restoreAuthorized (state : SubmissionState)
  | markOutcomeUnknown
  | expire
  | remove
  | complete (receipt : SubmissionReceipt)
  deriving DecidableEq

def DraftUpdate.returns : DraftUpdate → Bool
  | .restoreAuthorized _ | .expire => true
  | .markOutcomeUnknown | .remove | .complete _ => false

def DraftUpdate.unsettles : DraftUpdate → Bool
  | .restoreAuthorized state => state = .outcomeUnknown
  | .markOutcomeUnknown => true
  | .expire | .remove | .complete _ => false

namespace Transfer

def expire (retained : RetainedDraft) : RetainedDraft :=
  { retained with
    state := .expired
    signingPayload := []
    preparedShieldedTransaction := none
    signedTransaction := none }

def authorize (challenge : OpaqueId) (now : UInt64)
    (signed : Except TransactionPortError Transaction) :
    Method RetainedDraft TransactionPortError Unit := do
  let retained ← get
  failIf (retained.authorizationChallenge ≠ challenge) .authorizationChallengeMismatch
  abortIf (retained.expiresAt ≤ now) (expire retained) .draftExpired
  failIf (retained.state = .authorized ∨ retained.state = .submitting ∨
    retained.state = .submitted) .draftConflict
  let transaction ← ofResult (if retained.shielded then
    Result.okOr retained.preparedShieldedTransaction .invalidData else signed)
  set (retained.authorized transaction)

def submit (now : UInt64) (control : ℕ) :
    Method RetainedDraft TransactionPortError SubmitReply := do
  let retained ← get
  match retained.state with
  | .submitted =>
    let receipt ← okOr retained.submission .invalidData
    return .submitted receipt
  | .submitting => throw .submissionInProgress
  | .expired => throw .draftExpired
  | .prepared | .authorized =>
    abortIf (retained.expiresAt ≤ now) (expire retained) .draftExpired
    failIf (retained.state = .prepared) .draftConflict
    let _ ← okOr retained.signedTransaction .invalidData
    set (retained.submittedBy control)
    return .started (retained.attempt now)

def get (now : UInt64) (retained : RetainedDraft) : RetainedDraft :=
  if retained.expiresAt ≤ now ∧ (retained.state = .prepared ∨ retained.state = .authorized) then
    expire retained
  else retained

def restoreAuthorized (state : SubmissionState) (retained : RetainedDraft) : RetainedDraft :=
  if retained.state = .submitting then retained.restored state else retained

def markSubmissionOutcomeUnknown (retained : RetainedDraft) : RetainedDraft :=
  if retained.state = .submitting then retained.unsettled else retained

def expireSubmission (retained : RetainedDraft) : RetainedDraft :=
  if retained.state = .submitting then
    { expire retained with submissionState := .notStarted, submissionControl := none }
  else retained

def complete (receipt : SubmissionReceipt) (retained : RetainedDraft) : RetainedDraft :=
  if retained.state = .submitting then retained.completed receipt else retained

def update : DraftUpdate → RetainedDraft → Option RetainedDraft
  | .restoreAuthorized state, retained => some (restoreAuthorized state retained)
  | .markOutcomeUnknown, retained => some (markSubmissionOutcomeUnknown retained)
  | .expire, retained => some (expireSubmission retained)
  | .remove, _ => none
  | .complete receipt, retained => some (complete receipt retained)

end Transfer

namespace Registration

def expireRetained (retained : RetainedDraft) : RetainedDraft :=
  { retained with
    state := .expired
    signingPayload := []
    signedTransaction := none
    submissionState := .expired
    submissionControl := none }

def authorize (challenge : OpaqueId) (now : UInt64)
    (signed : Except RegistrationPortError Transaction) :
    Method RetainedDraft RegistrationPortError Unit := do
  let retained ← get
  abortIf (retained.expiresAt ≤ now) (expireRetained retained) .draftExpired
  failIf (retained.authorizationChallenge ≠ challenge) .authorizationChallengeMismatch
  match retained.state with
  | .authorized => return ()
  | .submitting => throw .submissionInProgress
  | .submitted | .expired => throw .draftConflict
  | .prepared =>
    let transaction ← ofResult signed
    set (retained.authorized transaction)

def submit (now : UInt64) (control : ℕ) :
    Method RetainedDraft RegistrationPortError SubmitReply := do
  let retained ← get
  match retained.state with
  | .submitted =>
    let receipt ← okOr retained.submission .invalidData
    return .submitted receipt
  | .submitting => throw .submissionInProgress
  | .prepared => throw .draftConflict
  | .expired => throw .draftExpired
  | .authorized =>
    abortIf (retained.expiresAt ≤ now) (expireRetained retained) .draftExpired
    let _ ← okOr retained.signedTransaction .invalidData
    set (retained.submittedBy control)
    return .started (retained.attempt now)

def get (now : UInt64) (retained : RetainedDraft) : RetainedDraft :=
  if retained.expiresAt ≤ now ∧ (retained.state = .prepared ∨ retained.state = .authorized) then
    expireRetained retained
  else retained

def restoreAuthorized (state : SubmissionState) (retained : RetainedDraft) : RetainedDraft :=
  if retained.state = .submitting then retained.restored state else retained

def complete (receipt : SubmissionReceipt) (retained : RetainedDraft) : RetainedDraft :=
  if retained.state = .submitting then retained.completed receipt else retained

/-- The draft after an update.  Neither `mark_outcome_unknown` nor `expire_submission` asks
for the state. -/
def update : DraftUpdate → RetainedDraft → Option RetainedDraft
  | .restoreAuthorized state, retained => some (restoreAuthorized state retained)
  | .markOutcomeUnknown, retained => some retained.unsettled
  | .expire, retained => some (expireRetained retained)
  | .remove, _ => none
  | .complete receipt, retained => some (complete receipt retained)

end Registration

def JournalEntry.receipt (entry : JournalEntry) (blockHash : Bytes32) : SubmissionReceipt :=
  ⟨entry.intent.transactionHash, blockHash, entry.intent.feeSpecks, entry.intent.mode⟩

def reconcileDraft (entry : JournalEntry) (retained : RetainedDraft) : Option RetainedDraft :=
  match entry.state, entry.blockHash with
  | .included, some blockHash =>
    some { retained with
      state := .submitted
      submission := some (entry.receipt blockHash)
      submissionState := .included
      submissionControl := none }
  | .included, none => some retained
  | .rejected, _ | .expired, _ => none
  | .broadcasting, _ =>
    some { retained with
      submission := none, submissionState := .broadcasting, submissionControl := none }
  | .outcomeUnknown, _ =>
    some { retained with
      submission := none, submissionState := .outcomeUnknown, submissionControl := none }

inductive Flow
  | transfer | registration
  deriving DecidableEq

namespace Flow

def expire : Flow → RetainedDraft → RetainedDraft
  | .transfer => Transfer.expire
  | .registration => Registration.expireRetained

def authorize (flow : Flow) (challenge : OpaqueId) (now : UInt64)
    (signed : Except TransactionPortError Transaction) (retained : RetainedDraft) : RetainedDraft :=
  match flow with
  | .transfer => (call retained (Transfer.authorize challenge now signed)).2
  | .registration =>
    (call retained (Registration.authorize challenge now (signed.mapError mapTransactionError))).2

def submit (flow : Flow) (now : UInt64) (control : ℕ) (retained : RetainedDraft) :
    Option SubmissionAttempt × RetainedDraft :=
  match flow with
  | .transfer =>
    let (reply, after) := call retained (Transfer.submit now control)
    (started reply, after)
  | .registration =>
    let (reply, after) := call retained (Registration.submit now control)
    (started reply, after)

def get : Flow → UInt64 → RetainedDraft → RetainedDraft
  | .transfer => Transfer.get
  | .registration => Registration.get

def update : Flow → DraftUpdate → RetainedDraft → Option RetainedDraft
  | .transfer => Transfer.update
  | .registration => Registration.update

section Effects
variable {flow : Flow} {challenge : OpaqueId} {now : UInt64} {control : ℕ}
  {signed : Except TransactionPortError Transaction} {retained after : RetainedDraft}
  {update : DraftUpdate}

@[simp] theorem state_expire : (flow.expire retained).state = .expired := by
  cases flow <;> rfl

@[simp] theorem expiresAt_expire : (flow.expire retained).expiresAt = retained.expiresAt := by
  cases flow <;> rfl

def Signable (flow : Flow) (state : DraftState) : Prop :=
  state = .prepared ∨ flow = .transfer ∧ state = .expired

/-- The call finds the draft expired; for a transfer it has looked at the challenge before. -/
def lapses (flow : Flow) (challenge : OpaqueId) (now : UInt64) (retained : RetainedDraft) : Bool :=
  retained.expiresAt ≤ now &&
    (flow = .registration || retained.authorizationChallenge = challenge)

def Authorized (flow : Flow) (challenge : OpaqueId) (now : UInt64)
    (retained after : RetainedDraft) : Prop :=
  after = retained ∨ flow.lapses challenge now retained ∧ after = flow.expire retained ∨
    ¬ retained.expiresAt ≤ now ∧ flow.Signable retained.state ∧
      ∃ transaction, after = retained.authorized transaction

theorem authorize_leaves (flow : Flow) (challenge : OpaqueId) (now : UInt64)
    (signed : Except TransactionPortError Transaction) (retained : RetainedDraft) :
    flow.Authorized challenge now retained (flow.authorize challenge now signed retained) := by
  cases flow with
  | transfer =>
    change Leaves retained (Transfer.authorize challenge now signed)
      fun _ after => Authorized .transfer challenge now retained after
    refine leaves_get (leaves_failIf (fun _ => .inl rfl) fun hmatch => ?_)
    refine leaves_abortIf (fun h => .inr (.inl ⟨?_, rfl⟩)) fun hlive => ?_
    · simp [lapses, h, not_not.mp hmatch]
    refine leaves_failIf (fun _ => .inl rfl) fun hstate => ?_
    refine leaves_ofResult (fun _ _ => .inl rfl) fun transaction _ => ?_
    refine .inr (.inr ⟨hlive, ?_, transaction, rfl⟩)
    rw [Signable]
    cases h : retained.state <;> simp_all
  | registration =>
    change Leaves retained (Registration.authorize challenge now _)
      fun _ after => Authorized .registration challenge now retained after
    refine leaves_get (leaves_abortIf (fun h => .inr (.inl ⟨?_, rfl⟩)) fun hlive => ?_)
    · simp [lapses, h]
    refine leaves_failIf (fun _ => .inl rfl) fun _ => ?_
    split
    · exact leaves_pure (.inl rfl)
    · exact leaves_throw (.inl rfl)
    · exact leaves_throw (.inl rfl)
    · exact leaves_throw (.inl rfl)
    · rename_i hstate
      refine leaves_ofResult (fun _ _ => .inl rfl) fun transaction _ => ?_
      exact .inr (.inr ⟨hlive, .inl hstate, transaction, rfl⟩)

def Submitted (flow : Flow) (now : UInt64) (control : ℕ) (retained : RetainedDraft)
    (attempt : Option SubmissionAttempt) (after : RetainedDraft) : Prop :=
  attempt = none ∧ after = retained ∨
    attempt = none ∧ (retained.state = .prepared ∨ retained.state = .authorized) ∧
      after = flow.expire retained ∨
    attempt = some (retained.attempt now) ∧ retained.state = .authorized ∧
      after = retained.submittedBy control

theorem submit_leaves (flow : Flow) (now : UInt64) (control : ℕ) (retained : RetainedDraft) :
    flow.Submitted now control retained (flow.submit now control retained).1
      (flow.submit now control retained).2 := by
  cases flow with
  | transfer =>
    change Leaves retained (Transfer.submit now control)
      fun reply after => Submitted .transfer now control retained (started reply) after
    refine leaves_get ?_
    split
    · exact leaves_okOr (fun _ => .inl ⟨rfl, rfl⟩) fun receipt _ => leaves_pure (.inl ⟨rfl, rfl⟩)
    · exact leaves_throw (.inl ⟨rfl, rfl⟩)
    · exact leaves_throw (.inl ⟨rfl, rfl⟩)
    all_goals
      rename_i hstate
      refine leaves_abortIf (fun _ => .inr (.inl ⟨rfl, by simp [hstate], rfl⟩)) fun _ => ?_
      refine leaves_failIf (fun _ => .inl ⟨rfl, rfl⟩) fun hprepared => ?_
      refine leaves_okOr (fun _ => .inl ⟨rfl, rfl⟩) fun _ _ => ?_
    · exact absurd hstate hprepared
    · exact .inr (.inr ⟨rfl, hstate, rfl⟩)
  | registration =>
    change Leaves retained (Registration.submit now control)
      fun reply after => Submitted .registration now control retained (started reply) after
    refine leaves_get ?_
    split
    · exact leaves_okOr (fun _ => .inl ⟨rfl, rfl⟩) fun receipt _ => leaves_pure (.inl ⟨rfl, rfl⟩)
    · exact leaves_throw (.inl ⟨rfl, rfl⟩)
    · exact leaves_throw (.inl ⟨rfl, rfl⟩)
    · exact leaves_throw (.inl ⟨rfl, rfl⟩)
    · rename_i hstate
      refine leaves_abortIf (fun _ => .inr (.inl ⟨rfl, .inr hstate, rfl⟩)) fun _ => ?_
      refine leaves_okOr (fun _ => .inl ⟨rfl, rfl⟩) fun _ _ => ?_
      exact .inr (.inr ⟨rfl, hstate, rfl⟩)

theorem get_leaves (flow : Flow) (now : UInt64) (retained : RetainedDraft) :
    flow.get now retained = retained ∨ (retained.state = .prepared ∨ retained.state = .authorized) ∧
        flow.get now retained = flow.expire retained := by
  cases flow with
  | transfer =>
    change Transfer.get now retained = _ ∨ _ ∧ Transfer.get now retained = _
    rw [Transfer.get]
    split_ifs with h
    · exact .inr ⟨h.2, rfl⟩
    · exact .inl rfl
  | registration =>
    change Registration.get now retained = _ ∨ _ ∧ Registration.get now retained = _
    rw [Registration.get]
    split_ifs with h
    · exact .inr ⟨h.2, rfl⟩
    · exact .inl rfl

inductive Updated (flow : Flow) (retained : RetainedDraft) : DraftUpdate → RetainedDraft → Prop
  | kept (update : DraftUpdate) (hexpire : ¬ (flow = .registration ∧ update = .expire)) :
      Updated flow retained update retained
  | restored (state) (h : retained.state = .submitting) :
      Updated flow retained (.restoreAuthorized state) (retained.restored state)
  | unsettled : Updated flow retained .markOutcomeUnknown retained.unsettled
  | expired (state) (hstate : state ≠ .outcomeUnknown)
      (h : flow = .registration ∨ retained.state = .submitting) :
      Updated flow retained .expire
        { flow.expire retained with submissionState := state, submissionControl := none }
  | completed (receipt : SubmissionReceipt) (h : retained.state = .submitting) :
      Updated flow retained (.complete receipt) (retained.completed receipt)

section
variable (h : flow.update update retained = some after)
include h

theorem updated_of_update : flow.Updated retained update after := by
  cases flow with
  | transfer =>
    have hkept : ∀ update, Updated .transfer retained update retained :=
      fun update => .kept update fun hboth => by cases hboth.1
    cases update with
    | restoreAuthorized state =>
      cases h
      rw [Transfer.restoreAuthorized]
      split_ifs with hstate
      · exact .restored state hstate
      · exact hkept _
    | markOutcomeUnknown =>
      cases h
      rw [Transfer.markSubmissionOutcomeUnknown]
      split_ifs
      · exact .unsettled
      · exact hkept _
    | expire =>
      cases h
      rw [Transfer.expireSubmission]
      split_ifs with hstate
      · exact .expired .notStarted (by decide) (.inr hstate)
      · exact hkept _
    | remove => cases h
    | complete receipt =>
      cases h
      rw [Transfer.complete]
      split_ifs with hstate
      · exact .completed receipt hstate
      · exact hkept _
  | registration =>
    cases update with
    | restoreAuthorized state =>
      cases h
      rw [Registration.restoreAuthorized]
      split_ifs with hstate
      · exact .restored state hstate
      · exact .kept _ fun hboth => by cases hboth.2
    | markOutcomeUnknown =>
      cases h
      exact .unsettled
    | expire =>
      cases h
      exact .expired .expired (by decide) (.inl rfl)
    | remove => cases h
    | complete receipt =>
      cases h
      rw [Registration.complete]
      split_ifs with hstate
      · exact .completed receipt hstate
      · exact .kept _ fun hboth => by cases hboth.2

theorem update_leaves (hkeeps : update.returns = false) : after.expiresAt = retained.expiresAt ∧
      (after.state = retained.state ∨ after.state = .submitted) := by
  cases updated_of_update h with
  | kept => exact ⟨rfl, .inl rfl⟩
  | restored => cases hkeeps
  | unsettled => exact ⟨rfl, .inl rfl⟩
  | expired => cases hkeeps
  | completed => exact ⟨rfl, .inr rfl⟩

theorem update_submitted (hstate : retained.state = .submitted)
    (hexpire : ¬ (flow = .registration ∧ update = .expire)) : after.state = .submitted := by
  cases updated_of_update h with
  | kept => exact hstate
  | restored _ hsubmitting => cases hstate.symm.trans hsubmitting
  | unsettled => exact hstate
  | expired _ _ hwhen =>
    rcases hwhen with hflow | hsubmitting
    · exact absurd ⟨hflow, rfl⟩ hexpire
    · cases hstate.symm.trans hsubmitting
  | completed => rfl

end

def Reports (retained after : RetainedDraft) : Prop :=
  (after.submissionState = .outcomeUnknown → retained.submissionState = .outcomeUnknown) ∧
    ∀ i, after.submissionControl = some i → retained.submissionControl = some i

theorem reports_refl : Reports retained retained := ⟨id, fun _ => id⟩

theorem reports_expire (flow : Flow) : Reports retained (flow.expire retained) := by
  cases flow with
  | transfer => exact ⟨id, fun _ => id⟩
  | registration => exact ⟨nofun, nofun⟩

theorem reports_authorize : Reports retained (flow.authorize challenge now signed retained) := by
  rcases authorize_leaves flow challenge now signed retained with h | ⟨-, h⟩ | ⟨-, -, _, h⟩
  · rw [h]
    exact reports_refl
  · rw [h]
    exact reports_expire flow
  · rw [h]
    exact ⟨id, fun _ => id⟩

theorem reports_get : Reports retained (flow.get now retained) := by
  rcases get_leaves flow now retained with h | ⟨-, h⟩
  · rw [h]
    exact reports_refl
  · rw [h]
    exact reports_expire flow

theorem reports_update (h : flow.update update retained = some after)
    (hupdate : update.unsettles = false) : Reports retained after := by
  cases updated_of_update h with
  | kept => exact reports_refl
  | restored state =>
    refine ⟨fun hstate => ?_, nofun⟩
    change state = .outcomeUnknown at hstate
    rw [hstate] at hupdate
    cases hupdate
  | unsettled => cases hupdate
  | expired _ hstate => exact ⟨fun hunknown => absurd hunknown hstate, nofun⟩
  | completed => exact ⟨nofun, nofun⟩

theorem control_update (h : flow.update update retained = some after) {i : ℕ}
    (hi : after.submissionControl = some i) : retained.submissionControl = some i := by
  cases updated_of_update h with
  | kept => exact hi
  | restored | unsettled | expired | completed => cases hi

end Effects

end Flow

theorem reconcileDraft_leaves {entry retained after}
    (h : reconcileDraft entry retained = some after) : after.expiresAt = retained.expiresAt ∧
      (after.state = retained.state ∨ after.state = .submitted) := by
  rw [reconcileDraft] at h
  split at h
  · cases h
    exact ⟨rfl, .inr rfl⟩
  · cases h
    exact ⟨rfl, .inl rfl⟩
  · cases h
  · cases h
  · cases h
    exact ⟨rfl, .inl rfl⟩
  · cases h
    exact ⟨rfl, .inl rfl⟩

theorem control_reconcileDraft {entry retained after}
    (h : reconcileDraft entry retained = some after) {i} (hi : after.submissionControl = some i) :
    retained.submissionControl = some i := by
  rw [reconcileDraft] at h
  split at h
  · cases h
    cases hi
  · cases h
    exact hi
  · cases h
  · cases h
  · cases h
    cases hi
  · cases h
    cases hi

end Oxid.Midnight
