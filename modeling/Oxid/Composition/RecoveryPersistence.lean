import Oxid.Wallet.DustRegistration.Persistence

/-!
# Persisting recovery records

`RecoveryPersistence` of `dust_settlement.rs` numbers records and puts them in two slots, from
which a worker thread saves.  A saved record of a submission is *held*: until it is released,
nothing is saved.  A step is one operation on what the threads share.
-/

namespace Oxid.Composition
open Foundation Wallet.DustRegistration

structure RecoveryPersistenceJob where
  generation : UInt64
  submissionBarrier : Bool
  record : RecoveryRecord
  deriving DecidableEq

/-- `RecoveryPersistenceState`, with the channel that wakes the worker.  `latest` and
`submission` are the slots the mutex protects, and `locked` tells whether it is taken;
`changed` counts the calls of `notify_waiters`. -/
structure RecoveryPersistenceState where
  (latest submission : Option RecoveryPersistenceJob)
  locked : Bool
  (nextGeneration persistedGeneration latestGeneration persistedLatestGeneration : UInt64)
  (failedLatestGeneration requiredSubmissionGeneration persistedSubmissionGeneration : UInt64)
  (failedSubmissionGeneration heldSubmissionGeneration releasedSubmissionGeneration : UInt64)
  durable : Bool
  changed : ℕ
  wake : Bool

namespace RecoveryPersistenceState

def spawn (durable : Bool) : RecoveryPersistenceState where
  latest := none
  submission := none
  locked := false
  nextGeneration := 0
  persistedGeneration := 0
  latestGeneration := 0
  persistedLatestGeneration := 0
  failedLatestGeneration := 0
  requiredSubmissionGeneration := 0
  persistedSubmissionGeneration := 0
  failedSubmissionGeneration := 0
  heldSubmissionGeneration := 0
  releasedSubmissionGeneration := 0
  durable := durable
  changed := 0
  wake := false

variable (s : RecoveryPersistenceState)

def notifyWaiters : RecoveryPersistenceState :=
  { s with changed := s.changed + 1 }

def drawn : UInt64 := saturatingAdd64 s.nextGeneration 1

def draw : RecoveryPersistenceState :=
  { s with nextGeneration := s.nextGeneration + 1 }

def recordPersisted (job : RecoveryPersistenceJob) : RecoveryPersistenceState :=
  if job.submissionBarrier then
    { s with
      persistedSubmissionGeneration := max s.persistedSubmissionGeneration job.generation }
  else { s with persistedLatestGeneration := max s.persistedLatestGeneration job.generation }

def recordFailed (job : RecoveryPersistenceJob) : RecoveryPersistenceState :=
  if job.submissionBarrier then
    { s with failedSubmissionGeneration := max s.failedSubmissionGeneration job.generation }
  else { s with failedLatestGeneration := max s.failedLatestGeneration job.generation }

section Frame
variable (s : RecoveryPersistenceState) (job : RecoveryPersistenceJob)

@[simp] theorem recordPersisted_persistedGeneration :
    (s.recordPersisted job).persistedGeneration = s.persistedGeneration := by
  unfold recordPersisted
  split <;> rfl

@[simp] theorem recordPersisted_heldSubmissionGeneration :
    (s.recordPersisted job).heldSubmissionGeneration = s.heldSubmissionGeneration := by
  unfold recordPersisted
  split <;> rfl

@[simp] theorem recordPersisted_releasedSubmissionGeneration :
    (s.recordPersisted job).releasedSubmissionGeneration = s.releasedSubmissionGeneration := by
  unfold recordPersisted
  split <;> rfl

@[simp] theorem recordFailed_persistedGeneration :
    (s.recordFailed job).persistedGeneration = s.persistedGeneration := by
  unfold recordFailed
  split <;> rfl

@[simp] theorem recordFailed_heldSubmissionGeneration :
    (s.recordFailed job).heldSubmissionGeneration = s.heldSubmissionGeneration := by
  unfold recordFailed
  split <;> rfl

@[simp] theorem recordFailed_releasedSubmissionGeneration :
    (s.recordFailed job).releasedSubmissionGeneration = s.releasedSubmissionGeneration := by
  unfold recordFailed
  split <;> rfl

end Frame

def place (job : RecoveryPersistenceJob) : RecoveryPersistenceState :=
  if job.submissionBarrier then { s with submission := some job, locked := false }
  else { s with latest := some job, locked := false }

end RecoveryPersistenceState

/-! ## The worker -/

inductive Worker
  | receiving
  | checkingHold
  | taking
  | comparing (job : RecoveryPersistenceJob)
  | skipping (job : RecoveryPersistenceJob)
  | saving (job : RecoveryPersistenceJob)
  | recordingGeneration (job : RecoveryPersistenceJob)
  | recordingPersisted (job : RecoveryPersistenceJob)
  | recordingFailed (job : RecoveryPersistenceJob)
  | settling (job : RecoveryPersistenceJob) (persisted : Bool)
  | holding (job : RecoveryPersistenceJob)
  | announcing (job : RecoveryPersistenceJob)
  | checkingRelease (job : RecoveryPersistenceJob)
  | clearingHold (job : RecoveryPersistenceJob)
  | notifying
  | stopped
  deriving DecidableEq

/-- How `store.save` ends.  A save that fails, or unwinds, may have written. -/
inductive SaveOutcome
  | saved
  | failed (wrote : Bool)
  | panicked (wrote : Bool)

namespace SaveOutcome

def store (record : RecoveryRecord) (before : Option RecoveryRecord) :
    SaveOutcome → Option RecoveryRecord
  | .saved => some record
  | .failed wrote => if wrote then some record else before
  | .panicked wrote => if wrote then some record else before

def worker (job : RecoveryPersistenceJob) : SaveOutcome → Worker
  | .saved => .recordingGeneration job
  | .failed _ => .recordingFailed job
  | .panicked _ => .stopped

end SaveOutcome

open RecoveryPersistenceState in
def Worker.step (s : RecoveryPersistenceState) : Worker → Option (RecoveryPersistenceState × Worker)
  | .receiving => if s.wake then some ({ s with wake := false }, .checkingHold) else none
  | .checkingHold => some (s, if s.heldSubmissionGeneration ≠ 0 then .receiving else .taking)
  | .taking =>
    if s.locked then none
    else
      match s.submission, s.latest with
      | some job, _ => some ({ s with submission := none }, .comparing job)
      | none, some job => some ({ s with latest := none }, .comparing job)
      | none, none => some (s, .receiving)
  | .comparing job =>
    some (s, if job.generation ≤ s.persistedGeneration then .skipping job else .saving job)
  | .skipping job => some (s.recordPersisted job, .notifying)
  | .saving _ => none
  | .recordingGeneration job =>
    some ({ s with persistedGeneration := job.generation }, .recordingPersisted job)
  | .recordingPersisted job =>
    some (s.recordPersisted job,
      if job.submissionBarrier then .settling job true else .notifying)
  | .recordingFailed job =>
    some (s.recordFailed job, if job.submissionBarrier then .settling job false else .notifying)
  | .settling job persisted =>
    some ({ s with durable := persisted }, if persisted then .holding job else .notifying)
  | .holding job => some ({ s with heldSubmissionGeneration := job.generation }, .announcing job)
  | .announcing job => some (s.notifyWaiters, .checkingRelease job)
  | .checkingRelease job =>
    -- A release that came between the two stores found nothing held.
    some (s, if job.generation ≤ s.releasedSubmissionGeneration then .clearingHold job
      else .receiving)
  | .clearingHold _ => some ({ s with heldSubmissionGeneration := 0 }, .checkingHold)
  | .notifying => some (s.notifyWaiters, .checkingHold)
  | .stopped => none

/-! ## Enqueueing -/

inductive Producer
  | entering (record : RecoveryRecord)
  | numbering (record : RecoveryRecord)
  | requiring (job : RecoveryPersistenceJob)
  | unsettling (job : RecoveryPersistenceJob)
  | placing (job : RecoveryPersistenceJob)
  | waking (generation : UInt64)
  | rejecting
  | refusing (generation : UInt64)
  | undoing (generation : UInt64)
  | failing (generation : UInt64)
  | notifying
  | finished

namespace Producer

def observe (projection : Projection) : Producer :=
  match RecoveryRecord.fromProjection projection with
  | .ok record => .entering record
  | .error _ => .rejecting

def step (closed : Bool) (s : RecoveryPersistenceState) :
    Producer → Option (RecoveryPersistenceState × Producer)
  | .entering record =>
    if s.locked then none else some ({ s with locked := true }, .numbering record)
  | .numbering record => some (s.draw, .requiring ⟨s.drawn, record.state = .submitting, record⟩)
  | .requiring job =>
    if job.submissionBarrier then
      some ({ s with requiredSubmissionGeneration := job.generation }, .unsettling job)
    else some ({ s with latestGeneration := job.generation }, .placing job)
  | .unsettling job => some ({ s with durable := false }, .placing job)
  | .placing job => some (s.place job, .waking job.generation)
  | .waking generation =>
    -- `try_send`: a full channel is as good as one that takes the message.
    if closed then some (s, .refusing generation) else some ({ s with wake := true }, .finished)
  | .rejecting => some (s.draw, .refusing s.drawn)
  | .refusing generation =>
    some ({ s with requiredSubmissionGeneration := generation }, .undoing generation)
  | .undoing generation => some ({ s with durable := false }, .failing generation)
  | .failing generation =>
    some ({ s with
      failedSubmissionGeneration := max s.failedSubmissionGeneration generation }, .notifying)
  | .notifying => some (s.notifyWaiters, .finished)
  | .finished => none

end Producer

/-! ## Waiting -/

/-- Where a call of `await_latest` is; `epoch` counts the notifications when it began to listen. -/
inductive LatestWait
  | targeting
  | registering (target : UInt64)
  | polling (target : UInt64) (epoch : ℕ)
  | failing (target : UInt64) (epoch : ℕ)
  | parked (target : UInt64) (epoch : ℕ)
  | finished (persisted : Option Bool)

namespace LatestWait

def step (s : RecoveryPersistenceState) : LatestWait → Option LatestWait
  | .targeting =>
    some (if s.latestGeneration = 0 then .finished (some true)
      else .registering s.latestGeneration)
  | .registering target => some (.polling target s.changed)
  | .polling target epoch =>
    some (if target ≤ s.persistedLatestGeneration then .finished (some true)
      else .failing target epoch)
  | .failing target epoch =>
    some (if target ≤ s.failedLatestGeneration then .finished (some false)
      else .parked target epoch)
  | .parked target epoch => if s.changed = epoch then none else some (.registering target)
  | .finished _ => none

def cancel : LatestWait → Option LatestWait
  | .parked _ _ => some (.finished none)
  | _ => none

end LatestWait

inductive SubmissionWait
  | registering
  | polling (epoch : ℕ)
  | sampling (epoch : ℕ) (held : UInt64)
  | failing (epoch : ℕ)
  | parked (epoch : ℕ)
  deriving DecidableEq

namespace SubmissionWait

def step (s : RecoveryPersistenceState) (target : UInt64) :
    SubmissionWait → Option (SubmissionWait ⊕ Option UInt64)
  | .registering => some (.inl (.polling s.changed))
  | .polling epoch => some (.inl (.sampling epoch s.heldSubmissionGeneration))
  | .sampling epoch held =>
    some (if s.durable && target ≤ held then .inr (some held) else .inl (.failing epoch))
  | .failing epoch =>
    some (if target ≤ s.failedSubmissionGeneration then .inr none else .inl (.parked epoch))
  | .parked epoch => if s.changed = epoch then none else some (.inl .registering)

def isParked : SubmissionWait → Bool
  | .parked _ => true
  | _ => false

end SubmissionWait

/-! ## Releasing -/

inductive Release
  | raising (generation : UInt64)
  | reading (released : UInt64)
  | exchanging (released held : UInt64)
  | waking
  deriving DecidableEq

def Release.step (s : RecoveryPersistenceState) :
    Release → RecoveryPersistenceState × Option Release
  | .raising generation =>
    let released := max s.releasedSubmissionGeneration generation
    ({ s with releasedSubmissionGeneration := released }, some (.reading released))
  | .reading released =>
    (s, if s.heldSubmissionGeneration = 0 || released < s.heldSubmissionGeneration then none
      else some (.exchanging released s.heldSubmissionGeneration))
  | .exchanging released held =>
    if s.heldSubmissionGeneration = held then
      ({ s with heldSubmissionGeneration := 0 }, some .waking)
    else (s, some (.reading released))
  -- `try_send` when the worker is gone has no effect; a message nobody receives has none.
  | .waking => ({ s with wake := true }, none)

end Oxid.Composition
