import Mathlib.Data.Nat.Notation
import Oxid.Wallet.Domain

/-!
# The DUST registration settlement policy

The pure reducer of `dust_registration_policy.rs` calls itself after it has swapped the parked
registration back in.  That recursion has no measure, so its depth is bounded; by
`reduceWithin_of_two_le` the bound is enough, so `none` is exactly the call that does not return.
-/

namespace Oxid.Wallet.DustRegistration

structure Identity where
  profile : WalletProfileId
  realm : ChainNetworkId
  generation : UInt64
  deriving DecidableEq

inductive AuthorizationPhase
  | awaitingAuthorization | submitting | submitted
  deriving DecidableEq

structure Registration where
  draftId : WalletTransactionDraftId
  authorizationPhase : AuthorizationPhase
  transactionId : Option ChainTransactionId
  (observationRevision finalityRevision reconciliationRevision dustRevision : UInt64)
  dustObservationRevision : UInt64
  (dustReady included : Bool)
  abandonmentRevision : UInt64
  deriving DecidableEq

structure Checkpoint where
  identity : Identity
  revision : UInt64
  eligible : Bool
  deriving DecidableEq

inductive Reconciliation
  | pending | included | dropped
  deriving DecidableEq

inductive State
  | unavailable | notEligible | actionRequired | awaitingAuthorization | submitting | confirming
  | reconciling | ready | cancelled | offline | timedOut | degraded | suspended
  deriving DecidableEq

structure Projection where
  state : State
  identity : Option Identity
  registration : Option Registration
  checkpoint : Option Checkpoint
  (preparationRevision recoveryRevision : UInt64)
  abandonedRegistration : Option Registration
  resumeState : Option State
  pendingRetryRevision : Option UInt64
  deriving DecidableEq

def Projection.default : Projection where
  state := .unavailable
  identity := none
  registration := none
  checkpoint := none
  preparationRevision := 0
  recoveryRevision := 0
  abandonedRegistration := none
  resumeState := none
  pendingRetryRevision := none

inductive Event
  | eligibility (identity : Identity) (revision : UInt64) (eligible : Bool)
  | registrationAlreadyCurrent (identity : Identity) (revision : UInt64)
  | authorizationRequested (identity : Identity) (draftId : WalletTransactionDraftId)
      (preparationRevision : UInt64)
  | authorizationSucceeded (identity : Identity) (draftId : WalletTransactionDraftId)
  | authorizationRejected (identity : Identity) (draftId : WalletTransactionDraftId)
  | submissionAccepted (identity : Identity) (draftId : WalletTransactionDraftId)
      (transactionId : ChainTransactionId)
  | finalityObserved (identity : Identity) (transactionId : ChainTransactionId)
      (revision : UInt64)
  | registrationReconciled (identity : Identity) (transactionId : ChainTransactionId)
      (revision : UInt64) (reconciliation : Reconciliation)
  | dustRefreshed (identity : Identity) (transactionId : ChainTransactionId)
      (revision : UInt64) (afterObservationRevision : UInt64) (ready : Bool)
  | droppedRegistrationAbandoned (identity : Identity) (transactionId : ChainTransactionId)
      (afterObservationRevision : UInt64)
  | cancelled (identity : Identity) (draftId : WalletTransactionDraftId)
  | offline (identity : Identity) (revision : UInt64)
  | timedOut (identity : Identity) (revision : UInt64)
  | degraded (identity : Identity) (revision : UInt64)
  | suspended (identity : Identity) (revision : UInt64)
  | resumed (identity : Identity) (revision : UInt64)
  | retry (identity : Identity) (revision : UInt64)
  | superseded (identity : Identity)
  deriving DecidableEq

namespace Event

def identity : Event → Identity
  | .eligibility i .. | .registrationAlreadyCurrent i .. | .authorizationRequested i ..
  | .authorizationSucceeded i .. | .authorizationRejected i .. | .submissionAccepted i ..
  | .finalityObserved i .. | .registrationReconciled i .. | .dustRefreshed i ..
  | .droppedRegistrationAbandoned i .. | .cancelled i .. | .offline i .. | .timedOut i ..
  | .degraded i .. | .suspended i .. | .resumed i .. | .retry i .. | .superseded i => i

def recoveryRevision : Event → Option UInt64
  | .offline _ r | .timedOut _ r | .degraded _ r | .suspended _ r | .resumed _ r
  | .retry _ r => some r
  | _ => none

def isEligibility : Event → Bool
  | .eligibility .. => true
  | _ => false

def isRetry : Event → Bool
  | .retry .. => true
  | _ => false

def isSuperseded : Event → Bool
  | .superseded .. => true
  | _ => false

end Event

def State.isRecoverable : State → Bool
  | .offline | .timedOut | .degraded | .suspended => true
  | _ => false

def State.canRetry : State → Bool
  | .offline | .timedOut | .degraded | .suspended => true
  | _ => false

@[simp] theorem State.canRetry_eq (s : State) : s.canRetry = s.isRecoverable := rfl

def pendingRegistration (draftId : WalletTransactionDraftId) : Registration where
  draftId := draftId
  authorizationPhase := .awaitingAuthorization
  transactionId := none
  observationRevision := 0
  finalityRevision := 0
  reconciliationRevision := 0
  dustRevision := 0
  dustObservationRevision := 0
  dustReady := false
  included := false
  abandonmentRevision := 0

namespace Registration

/-! ## What one event changes of a registration -/

variable (r : Registration)

def authorize : Registration :=
  { r with authorizationPhase := .submitting }

def submit (transaction : ChainTransactionId) : Registration :=
  { r with authorizationPhase := .submitted, transactionId := some transaction }

def observeFinality (revision : UInt64) : Registration :=
  { r with
    abandonmentRevision := 0
    finalityRevision := revision
    observationRevision := max r.observationRevision revision }

def reconcile (revision : UInt64) (reconciliation : Reconciliation) : Registration :=
  { r with
    abandonmentRevision := 0
    reconciliationRevision := revision
    observationRevision := max r.observationRevision revision
    included := reconciliation = .included }

def refreshDust (revision afterObservationRevision : UInt64) (ready : Bool) : Registration :=
  { r with
    dustRevision := revision
    dustObservationRevision := afterObservationRevision
    dustReady := ready }

def abandon (afterObservationRevision : UInt64) : Registration :=
  { r with abandonmentRevision := afterObservationRevision }

def finalityIsCurrent : Bool :=
  r.reconciliationRevision ≤ r.finalityRevision

def isReady : Bool :=
  r.included && r.dustReady && r.dustObservationRevision = r.observationRevision

end Registration

namespace Projection

/-! ## State accessors -/

variable (p : Projection)

def setState (state : State) : Projection :=
  { p with state := state, resumeState := none }

def effectiveState : State :=
  if p.state.isRecoverable then p.resumeState.getD p.state else p.state

def setEffectiveState (state : State) : Projection :=
  if p.state.isRecoverable then { p with resumeState := some state } else p.setState state

def applyEligibilityTo (eligible : Bool) : State → State
  | .notEligible => if eligible then .actionRequired else .notEligible
  | .actionRequired => if !eligible then .notEligible else .actionRequired
  | state => state

def applyEligibility (eligible : Bool) : Projection :=
  if p.state.isRecoverable then
    { p with resumeState := p.resumeState.map (applyEligibilityTo eligible) }
  else { p with state := applyEligibilityTo eligible p.state }

def latestEligibilityState : State :=
  if p.checkpoint.any (fun c => !c.eligible) then .notEligible else .actionRequired

def updateActive (f : Registration → Registration) : Projection :=
  { p with registration := p.registration.map f }

def updateParked (f : Registration → Registration) : Projection :=
  { p with abandonedRegistration := p.abandonedRegistration.map f }

def takeParked : Projection :=
  { p with registration := p.abandonedRegistration, abandonedRegistration := none }

/-! ## What the projection holds -/

def hasDraft (draft : WalletTransactionDraftId) : Bool :=
  p.registration.any (fun r => r.draftId = draft)

def hasTransaction (transaction : ChainTransactionId) : Bool :=
  p.registration.any (fun r => r.transactionId = some transaction)

def hasSubmittedRegistration : Bool :=
  p.registration.any (fun r => r.transactionId.isSome)

def registrationIsAbandoned : Bool :=
  p.registration.any (fun r => 0 < r.abandonmentRevision)

def registrationReady : Bool :=
  p.registration.any (·.isReady)

def parkedIn (draft : WalletTransactionDraftId) (phase : AuthorizationPhase) : Bool :=
  p.abandonedRegistration.any fun r => r.draftId = draft && r.authorizationPhase = phase

def canCancel : Bool :=
  (isPreSubmission p.state ||
      (p.state.isRecoverable && p.resumeState.any isPreSubmission)) &&
    !p.hasSubmittedRegistration
where
  isPreSubmission : State → Bool
    | .actionRequired | .awaitingAuthorization => true
    | _ => false

/-! ## Outages -/

def enterRecoverableState (next current : Projection) (state : State) : Projection :=
  if current.resumeState = none then
    { next with resumeState := some current.state, state := state }
  else { next with state := state }

def resumedState (retained : State) : State :=
  match retained with
  | .ready => .ready
  | .notEligible => .notEligible
  | .submitting =>
    if p.registration.any (fun r => r.transactionId.isNone) then .submitting
    else p.latestEligibilityState
  | .awaitingAuthorization =>
    if p.registration.any (fun r => r.transactionId.isNone) then .awaitingAuthorization
    else p.latestEligibilityState
  | .confirming | .reconciling =>
    if p.hasSubmittedRegistration then
      if p.registration.any (fun r => r.included ||
          (0 < r.finalityRevision && r.finalityIsCurrent))
      then .reconciling
      else .confirming
    else p.latestEligibilityState
  | _ => p.latestEligibilityState

def resumeRecoverableState : Projection :=
  let state := p.resumedState (p.resumeState.getD p.latestEligibilityState)
  let resumed := { p with resumeState := none, state := state }
  if (state = .notEligible ∨ state = .actionRequired) ∧ ¬ p.hasSubmittedRegistration then
    { resumed with registration := none }
  else resumed

def settlePendingRetry : Projection :=
  match p.pendingRetryRevision with
  | none => p
  | some revision =>
    if revision ≤ p.recoveryRevision then { p with pendingRetryRevision := none }
    else if p.state.canRetry then
      resumeRecoverableState
        { p with pendingRetryRevision := none, recoveryRevision := revision }
    else p

/-! ## The parked registration -/

/-- `supersedes_abandoned_registration`: the event is newer evidence about the
parked registration's transaction than anything held of either registration. -/
def supersedesAbandonedRegistration (e : Event) : Bool :=
  p.abandonedRegistration.any fun parked =>
    let activeObservationRevision := (p.registration.map (·.observationRevision)).getD 0
    match e with
    | .finalityObserved _ transaction revision =>
      parked.transactionId = some transaction &&
        max (max (max activeObservationRevision parked.finalityRevision)
          parked.reconciliationRevision) parked.abandonmentRevision < revision
    | .registrationReconciled _ transaction revision reconciliation =>
      parked.transactionId = some transaction &&
        max (max activeObservationRevision parked.reconciliationRevision)
          parked.abandonmentRevision < revision &&
        (reconciliation ≠ .dropped || parked.finalityRevision ≤ revision)
    | .dustRefreshed _ transaction revision afterObservationRevision _ =>
      parked.transactionId = some transaction &&
        max activeObservationRevision parked.abandonmentRevision < afterObservationRevision &&
        parked.dustRevision < revision
    | _ => false

def restoreAbandoned : Projection :=
  { p with
    registration := p.abandonedRegistration
    abandonedRegistration := p.registration }.setEffectiveState p.latestEligibilityState

def reduceParked : Event → Option Projection
  | .submissionAccepted _ draft transaction =>
    if p.parkedIn draft .submitting then
      some (p.updateParked (·.submit transaction))
    else none
  | .authorizationSucceeded _ draft =>
    if p.parkedIn draft .awaitingAuthorization then
      if p.latestEligibilityState = .notEligible then
        some { p with abandonedRegistration := none }
      else
        some (p.updateParked (·.authorize))
    else none
  | .authorizationRejected _ draft | .cancelled _ draft =>
    if p.parkedIn draft .awaitingAuthorization then
      some { p with abandonedRegistration := none }
    else none
  | _ => none

/-! ## Chain observations of the active registration -/

def observesChain : Bool :=
  match p.effectiveState with
  | .notEligible | .actionRequired | .confirming | .reconciling | .ready => true
  | _ => false

def isIdle : Bool :=
  match p.effectiveState with
  | .notEligible | .actionRequired => true
  | _ => false

def acceptsFinality (transaction : ChainTransactionId) (revision : UInt64) : Bool :=
  p.observesChain && p.hasTransaction transaction &&
    p.registration.any fun r =>
      r.finalityRevision < revision && r.abandonmentRevision < revision &&
        (!p.isIdle || r.reconciliationRevision < revision)

def applyFinality (next : Projection) (revision : UInt64) : Projection :=
  let next := next.updateActive (·.observeFinality revision)
  let finalityIsCurrent := next.registration.any (·.finalityIsCurrent)
  if next.registrationReady then next.setEffectiveState .ready
  else if p.effectiveState = .ready ∨
      ((p.isIdle ∨ p.effectiveState = .confirming) ∧ finalityIsCurrent) then
    next.setEffectiveState .reconciling
  else next

def acceptsReconciliation (transaction : ChainTransactionId) (revision : UInt64)
    (reconciliation : Reconciliation) : Bool :=
  p.observesChain && p.hasTransaction transaction &&
    p.registration.any fun r =>
      r.reconciliationRevision < revision && r.abandonmentRevision < revision &&
        (reconciliation ≠ .dropped || r.finalityRevision ≤ revision)

def applyReconciliation (next : Projection) (revision : UInt64) (reconciliation : Reconciliation) :
    Projection :=
  let next := next.updateActive (·.reconcile revision reconciliation)
  match reconciliation with
  | .included => next.setEffectiveState (if next.registrationReady then .ready else .reconciling)
  | .pending =>
    next.setEffectiveState
      (if next.registration.any (·.finalityIsCurrent) then .reconciling else .confirming)
  | .dropped => next.setEffectiveState p.latestEligibilityState

def acceptsDust (transaction : ChainTransactionId) (revision : UInt64) : Bool :=
  p.observesChain && p.hasTransaction transaction &&
    p.registration.any fun r => r.dustRevision < revision

def applyDust (next : Projection) (revision afterObservationRevision : UInt64) (ready : Bool) :
    Projection :=
  let next := next.updateActive (·.refreshDust revision afterObservationRevision ready)
  if next.registrationReady then next.setEffectiveState .ready
  else if p.effectiveState = .ready then next.setEffectiveState .reconciling
  else next

/-! ## The reducer -/

/-- The main match.  `p` is the projection before the event and `next` the one
being built; `none` is the catch-all arm that returns `p` unchanged. -/
def applyEvent (next : Projection) : Event → Option Projection
  | .eligibility identity revision eligible =>
    if next.identity = none then
      some ({ next with
        identity := some identity
        registration := none
        checkpoint := some ⟨identity, revision, eligible⟩ }.setState
          (if eligible then .actionRequired else .notEligible))
    else if revision ≤ (p.checkpoint.map (·.revision)).getD 0 then none
    else
      some ({ next with checkpoint := some ⟨identity, revision, eligible⟩ }.applyEligibility
        eligible)
  | .registrationAlreadyCurrent _ revision =>
    if p.effectiveState = .actionRequired ∧ p.preparationRevision < revision then
      some ({ next with
        preparationRevision := revision
        registration := none }.setEffectiveState .ready)
    else none
  | .authorizationRequested _ draft preparationRevision =>
    if p.effectiveState = .actionRequired ∧
        (¬ p.hasSubmittedRegistration ∨ p.registrationIsAbandoned) ∧
        p.abandonedRegistration = none ∧ p.preparationRevision < preparationRevision then
      some ({ next with
        preparationRevision := preparationRevision
        abandonedRegistration :=
          if p.registrationIsAbandoned then p.registration else next.abandonedRegistration
        registration := some (pendingRegistration draft) }.setEffectiveState
          .awaitingAuthorization)
    else if p.effectiveState = .awaitingAuthorization ∧ ¬ p.hasDraft draft ∧
        p.latestEligibilityState = .actionRequired ∧
        p.preparationRevision < preparationRevision then
      some { next with
        preparationRevision := preparationRevision
        registration := some (pendingRegistration draft) }
    else none
  | .authorizationSucceeded _ draft =>
    if p.effectiveState = .awaitingAuthorization ∧ p.hasDraft draft ∧
        p.latestEligibilityState = .notEligible then
      some (next.takeParked.setEffectiveState .notEligible)
    else if p.effectiveState = .awaitingAuthorization ∧ p.hasDraft draft then
      some ((next.updateActive (·.authorize)).setEffectiveState .submitting)
    else none
  | .authorizationRejected _ draft =>
    if p.effectiveState = .awaitingAuthorization ∧ p.hasDraft draft then
      some (next.takeParked.setEffectiveState p.latestEligibilityState)
    else none
  | .submissionAccepted _ draft transaction =>
    if p.effectiveState = .submitting ∧ p.hasDraft draft then
      some ((next.updateActive (·.submit transaction)).setEffectiveState .confirming)
    else none
  | .finalityObserved _ transaction revision =>
    if p.acceptsFinality transaction revision then some (p.applyFinality next revision)
    else none
  | .registrationReconciled _ transaction revision reconciliation =>
    if p.acceptsReconciliation transaction revision reconciliation then
      some (p.applyReconciliation next revision reconciliation)
    else none
  | .dustRefreshed _ transaction revision afterObservationRevision ready =>
    if p.acceptsDust transaction revision then
      some (p.applyDust next revision afterObservationRevision ready)
    else none
  | .droppedRegistrationAbandoned _ transaction afterObservationRevision =>
    if p.effectiveState = .actionRequired ∧ p.hasTransaction transaction ∧
        p.registration.any (fun r => r.observationRevision < afterObservationRevision &&
          r.dustObservationRevision ≤ afterObservationRevision) then
      some (next.updateActive (·.abandon afterObservationRevision))
    else none
  | .cancelled _ draft =>
    if p.canCancel ∧ p.hasDraft draft then
      if next.abandonedRegistration.isSome then
        some (next.takeParked.setEffectiveState p.latestEligibilityState)
      else some ({ next with registration := none }.setState .cancelled)
    else none
  | .offline .. => some (enterRecoverableState next p .offline)
  | .timedOut .. => some (enterRecoverableState next p .timedOut)
  | .degraded .. => some (enterRecoverableState next p .degraded)
  | .suspended .. => some (enterRecoverableState next p .suspended)
  | .resumed .. => some (if p.state.isRecoverable then resumeRecoverableState next else next)
  | .retry .. => some (if p.state.canRetry then resumeRecoverableState next else next)
  | .superseded .. =>
    some ({ next with registration := none, abandonedRegistration := none }.setState
      .unavailable)

def finish (next : Projection) (e : Event) : Projection :=
  match p.applyEvent next e with
  | none => p
  | some q => if e.recoveryRevision.isSome && !e.isRetry then q.settlePendingRetry else q

def reduceActive (e : Event) (replaces : Bool) : Projection :=
  let next := if replaces then Projection.default else p
  match e.recoveryRevision with
  | none => p.finish next e
  | some revision =>
    if revision ≤ p.recoveryRevision then p
    else if e.isRetry ∧ ¬ p.state.canRetry then
      if p.pendingRetryRevision.any (revision ≤ ·) then p
      else { next with pendingRetryRevision := some revision }
    else p.finish { next with recoveryRevision := revision } e

/-- Whether the event starts a replacement projection; `none` when the event is
of another generation and is ignored. -/
def replacesGeneration (e : Event) : Option Bool :=
  match p.identity with
  | some active =>
    if e.identity = active then some false
    else if e.isEligibility ∧ p.state = .unavailable then some true
    else if e.isEligibility ∧ active.generation < e.identity.generation then some true
    else none
  | none => if e.isEligibility then some false else none

end Projection

open Projection

def reduceWithin : ℕ → Projection → Event → Option Projection
  | 0, _, _ => none
  | depth + 1, p, e =>
    match p.replacesGeneration e with
    | none => some p
    | some replaces =>
      if replaces = false ∧ p.state = .cancelled ∧ ¬ e.isSuperseded then some p
      else if replaces = false ∧ p.identity.isSome ∧ p.state = .unavailable then some p
      else
        (p.reduceParked e).or
          (if p.supersedesAbandonedRegistration e then
            reduceWithin depth p.restoreAbandoned e
          else some (p.reduceActive e replaces))

/-- `reduce_wallet_dust_registration_settlement`.  `none` is a call that does not
return. -/
def reduceSettlement (p : Projection) (e : Event) : Option Projection :=
  reduceWithin 2 p e

end Oxid.Wallet.DustRegistration
