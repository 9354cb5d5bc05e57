import Oxid.Midnight.SubmissionControl
import Oxid.Midnight.RetainedDraft

/-!
# Submitting retained drafts

`submit` starts a worker and waits for it.  The worker lets a completer broadcast, and records
how that ended in the journal and in the draft; the waiter may be dropped, find the worker
gone, or give up.  A step is one critical section or one access to the journal.
-/

namespace Oxid.Midnight
open Foundation Wallet PassportVault Transaction Transition

/-! ## What is still to be done -/

structure Mark where
  state : StoredSubmissionState
  blockHash : Option Bytes32
  blockHeight : Option UInt64
  deriving DecidableEq

namespace Mark

def included (outcome : SubmissionOutcome) : Mark :=
  ⟨.included, some outcome.blockHash, some outcome.blockHeight⟩

def rejected : Mark := ⟨.rejected, none, none⟩

def outcomeUnknown : Mark := ⟨.outcomeUnknown, none, none⟩

end Mark

/-- The critical sections a party has yet to go through.  The control's methods that load
an entry and save it come in two parts. -/
inductive Task
  | done
  | update (update : DraftUpdate) (missing : Task)
  | requestCancellation
  | ifBroadcastStarted (yes no : Task)
  | markTerminal (mark : Mark) (ok failed : Task)
  | save (entry : JournalEntry) (ok failed : Task)
  | markTerminalIfBroadcasting (mark : Mark) (yes no failed : Task)
  | markOutcomeUnknown (next : Task)
  | saveLocked (entry : JournalEntry) (ok failed : Task)
  deriving DecidableEq

def SubmissionOutcome.receipt (outcome : SubmissionOutcome) : SubmissionReceipt :=
  ⟨outcome.transactionHash, outcome.blockHash, outcome.feeSpecks, outcome.mode⟩

def finishSubmission : Except TransactionPortError SubmissionOutcome → Task
  | .ok outcome =>
    .markTerminal (.included outcome) (.update (.complete outcome.receipt) .done)
      (.markTerminal .outcomeUnknown (.update .markOutcomeUnknown .done)
        (.update .markOutcomeUnknown .done))
  | .error .draftExpired => .update .expire .done
  | .error .submissionOutcomeUnknown =>
    .markTerminal .outcomeUnknown (.update .markOutcomeUnknown .done)
      (.update .markOutcomeUnknown .done)
  | .error .submissionCancelled => .update (.restoreAuthorized .cancelled) .done
  | .error .submissionRejected =>
    .ifBroadcastStarted (.markTerminal .rejected (.update .remove .done) .done)
      (.update (.restoreAuthorized .notStarted) .done)
  | .error _ =>
    .ifBroadcastStarted
      (.markTerminal .outcomeUnknown (.update .markOutcomeUnknown .done)
        (.update .markOutcomeUnknown .done))
      (.update (.restoreAuthorized .notStarted) .done)

def finishRegistration : Except TransactionPortError SubmissionOutcome → Task
  | .ok outcome =>
    .markTerminalIfBroadcasting (.included outcome) (.update (.complete outcome.receipt) .done)
      (.update .markOutcomeUnknown .done) .done
  | .error .draftExpired => .update .expire .done
  | .error .submissionOutcomeUnknown => .markOutcomeUnknown (.update .markOutcomeUnknown .done)
  | .error .submissionCancelled => .update (.restoreAuthorized .cancelled) .done
  | .error .submissionRejected =>
    .ifBroadcastStarted
      (.markTerminalIfBroadcasting .rejected (.update .remove .done)
        (.update .markOutcomeUnknown .done) .done)
      (.update (.restoreAuthorized .notStarted) .done)
  | .error .insufficientDust => .update (.restoreAuthorized .notStarted) .done
  | .error _ =>
    .ifBroadcastStarted (.markOutcomeUnknown (.update .markOutcomeUnknown .done))
      (.update (.restoreAuthorized .notStarted) .done)

namespace Flow

def finish : Flow → Except TransactionPortError SubmissionOutcome → Task
  | .transfer => finishSubmission
  | .registration => finishRegistration

/-- What a waiter does whose worker is gone, or that has waited too long.  If the draft is
gone as well it returns early, and the guard it still holds asks for a cancellation. -/
def lost : Flow → Task
  | .transfer =>
    .ifBroadcastStarted
      (.markTerminal .outcomeUnknown (.update .markOutcomeUnknown .requestCancellation)
        (.update .markOutcomeUnknown .requestCancellation))
      (.update .markOutcomeUnknown .requestCancellation)
  | .registration => .markOutcomeUnknown (.update .markOutcomeUnknown .requestCancellation)

end Flow

/-! ## One submission -/

inductive Worker
  | spawning
  | absent
  | running
  | crashed
  | finishing (task : Task)
  deriving DecidableEq

/-- The waiting `submit`.  When nothing is left to be done it has returned, or was dropped. -/
inductive Waiter
  | waiting
  | handling (task : Task)
  deriving DecidableEq

inductive Party
  | worker | waiter
  deriving DecidableEq

structure Attempt where
  control : SubmissionControl
  worker : Worker
  waiter : Waiter
  /-- A party holds the lock of the phase between two accesses to the journal. -/
  (locked passed : Bool)

inductive AttemptMove
  | spawn
  | spawnFailed
  | beginBroadcast (intent : BroadcastIntent)
  | complete (result : Except TransactionPortError SubmissionOutcome)
  | crash
  | deliver
  | lose
  | timeout
  | drop
  | advance (party : Party)

structure Moved where
  attempt : Attempt
  journal : Journal
  update : Option DraftUpdate

namespace Attempt

def new (key : SubmissionKey) (attempt : SubmissionAttempt) : Attempt :=
  ⟨.new key attempt, .spawning, .waiting, false, false⟩

variable (a : Attempt)

def alive : Bool :=
  match a.worker with
  | .spawning | .running => true
  | .finishing task => task ≠ .done
  | .absent | .crashed => false

def task (a : Attempt) : Party → Option Task
  | .worker =>
    match a.worker with
    | .finishing task => some task
    | _ => none
  | .waiter =>
    match a.waiter with
    | .handling task => some task
    | .waiting => none

def setTask (party : Party) (task : Task) : Attempt :=
  match party with
  | .worker => { a with worker := .finishing task }
  | .waiter => { a with waiter := .handling task }

def cancelled (journal : Journal) : Attempt :=
  { a with control := (call ⟨a.control, journal⟩ Controlled.requestCancellation).2.control }

def loaded (journal : Journal) (faults : JournalFaults) : Option JournalEntry :=
  (call ⟨a.control, journal⟩ (Controlled.loadEntry faults)).1.toOption

def saved (journal : Journal) (faults : JournalFaults) (entry : JournalEntry)
    (phase : SubmissionPhase) : Option (SubmissionControl × Journal) :=
  match call ⟨a.control, journal⟩ (Controlled.saveEntry faults entry phase) with
  | (.ok _, after) => some (after.control, after.journal)
  | (.error _, _) => none

/-- The next critical section of a party.  `present` says whether the draft is there. -/
def advance (journal : Journal) (faults : JournalFaults) (present : Bool) (party : Party) :
    Task → Option Moved
  | .done => none
  | .update update missing =>
    if present then some ⟨a.setTask party .done, journal, some update⟩
    else some ⟨a.setTask party missing, journal, none⟩
  | .requestCancellation =>
    if a.locked then none
    else some ⟨(a.cancelled journal).setTask party .done, journal, none⟩
  | .ifBroadcastStarted yes no =>
    if a.locked then none
    else
      some ⟨a.setTask party (if a.control.phase = .broadcasting then yes else no), journal, none⟩
  | .markTerminal mark ok failed =>
    match a.loaded journal faults with
    | some entry =>
      some ⟨a.setTask party
        (.save (entry.mark mark.state mark.blockHash mark.blockHeight) ok failed), journal, none⟩
    | none => some ⟨a.setTask party failed, journal, none⟩
  | .save entry ok failed =>
    match a.saved journal faults entry a.control.phase with
    | some (control, journal) =>
      some ⟨{ a with control := control }.setTask party ok, journal, none⟩
    | none => some ⟨a.setTask party failed, journal, none⟩
  | .markTerminalIfBroadcasting mark yes no failed =>
    if a.locked then none
    else if a.control.phase ≠ .broadcasting then some ⟨a.setTask party no, journal, none⟩
    else
      match a.loaded journal faults with
      | some entry =>
        some ⟨{ a with locked := true }.setTask party
          (.saveLocked (entry.mark mark.state mark.blockHash mark.blockHeight) yes failed),
          journal, none⟩
      | none => some ⟨a.setTask party failed, journal, none⟩
  | .markOutcomeUnknown next =>
    if a.locked then none
    else if a.control.phase ≠ .broadcasting then
      some ⟨{ a with control := { a.control with phase := .terminal } }.setTask party next,
        journal, none⟩
    else
      match a.loaded journal faults with
      | some entry =>
        some ⟨{ a with locked := true }.setTask party
          (.saveLocked (entry.mark .outcomeUnknown none none) next next), journal, none⟩
      | none => some ⟨a.setTask party next, journal, none⟩
  | .saveLocked entry ok failed =>
    match a.saved journal faults entry .terminal with
    | some (control, journal) =>
      some ⟨{ a with control := control, locked := false }.setTask party ok, journal, none⟩
    | none => some ⟨{ a with locked := false }.setTask party failed, journal, none⟩

def awaited : Bool :=
  match a.worker with
  | .running | .crashed => true
  | .finishing task => task ≠ .done
  | .spawning | .absent => false

def move (flow : Flow) (faults : JournalFaults) (journal : Journal) (present : Bool) (a : Attempt) :
    AttemptMove → Option Moved
  | .spawn =>
    if a.worker = .spawning then some ⟨{ a with worker := .running }, journal, none⟩ else none
  | .spawnFailed =>
    if a.worker = .spawning then
      some ⟨{ a with worker := .absent, waiter := .handling .done }, journal,
        some (.restoreAuthorized .notStarted)⟩
    else none
  | .beginBroadcast intent =>
    if a.worker = .running ∧ a.locked = false then
      match call ⟨a.control, journal⟩ (Controlled.beginBroadcast faults intent) with
      | (.ok _, after) =>
        some ⟨{ a with control := after.control, passed := true }, after.journal, none⟩
      | (.error _, _) => some ⟨a, journal, none⟩
    else none
  | .complete result =>
    if a.worker = .running then
      some ⟨{ a with worker := .finishing (flow.finish result) }, journal, none⟩
    else none
  | .crash =>
    if a.worker = .running then some ⟨{ a with worker := .crashed }, journal, none⟩ else none
  | .deliver =>
    if a.worker = .finishing .done ∧ a.waiter = .waiting then
      some ⟨{ a with waiter := .handling .done }, journal, none⟩
    else none
  | .lose =>
    if a.worker = .crashed ∧ a.waiter = .waiting then
      some ⟨{ a with waiter := .handling flow.lost }, journal, none⟩
    else none
  | .timeout =>
    if flow = .registration ∧ a.awaited ∧ a.waiter = .waiting then
      some ⟨{ a with waiter := .handling flow.lost }, journal, none⟩
    else none
  | .drop =>
    if a.worker ≠ .spawning ∧ a.waiter = .waiting ∧ a.locked = false then
      some ⟨{ a.cancelled journal with waiter := .handling .done }, journal, none⟩
    else none
  | .advance party => (a.task party).bind (a.advance journal faults present party)

end Attempt

/-! ## The adapter -/

inductive ReconcileStage
  | loaded (key : SubmissionKey) (entry : JournalEntry)
  | saved (key : SubmissionKey) (entry : JournalEntry)
  | returned

structure Adapter where
  drafts : Rows SubmissionKey RetainedDraft
  journal : Journal
  planned : List (Option (SubmissionKey × DraftTerms))
  attempts : List Attempt
  reconciliations : List ReconcileStage

inductive AdapterEvent
  | prepare (key : SubmissionKey) (terms : DraftTerms) (fault : Option SubmissionJournalStoreError)
  | retain (n : ℕ)
  | authorize (key : SubmissionKey) (challenge : OpaqueId) (now : UInt64)
      (signed : Except TransactionPortError Transaction)
  | submit (key : SubmissionKey) (now : UInt64)
  | get (key : SubmissionKey) (now : UInt64)
  | cancel (key : SubmissionKey)
  | attempt (i : ℕ) (move : AttemptMove) (faults : JournalFaults)
  | reconcile (key : SubmissionKey) (fault : Option SubmissionJournalStoreError)
  | persist (n : ℕ) (outcome : Reconciliation) (fault : Option SubmissionJournalStoreError)
  | abandon (n : ℕ)
  | settle (n : ℕ)
  | foreign (key : SubmissionKey) (entry : JournalEntry)

namespace Flow

def idStart : Flow → String
  | .transfer => "txdraft_"
  | .registration => "dustreg_"

def owns (flow : Flow) (key : SubmissionKey) : Bool :=
  flow.idStart.toList.isPrefixOf key.draftId.id.asStr.toList

def passes : Flow → Option StoredEntry → Bool
  | _, none => true
  | .transfer, some stored => stored.2.state = .rejected || stored.2.state = .expired
  | .registration, some _ => false

/-- What `prepare` thinks of the retained drafts when it is about to add one.  It has asked
the same of them earlier, but only the answer under this lock counts. -/
def admits (flow : Flow) (drafts : Rows SubmissionKey RetainedDraft) (key : SubmissionKey)
    (terms : DraftTerms) : Bool :=
  let own := drafts.list.filter fun row => row.1.profileId = key.profileId
  let same := own.any fun row => row.2.planningFingerprint = terms.planningFingerprint
  match flow with
  | .transfer =>
    if terms.shielded then !own.any fun row => row.2.shielded && row.2.isActive
    else !same && (drafts.get key).isNone
  | .registration => !same && !own.any fun row => row.2.isActive

end Flow

def StoredSubmissionState.reconcilable : StoredSubmissionState → Bool
  | .broadcasting | .outcomeUnknown => true
  | .included | .rejected | .expired => false

namespace Adapter

def start (journal : Journal) : Adapter := ⟨.empty, journal, [], [], []⟩

variable (s : Adapter)

def changeDraft (key : SubmissionKey) (f : RetainedDraft → RetainedDraft) : Adapter :=
  { s with drafts := s.drafts.modify (· = key) f }

def replaceDraft (key : SubmissionKey) (f : RetainedDraft → Option RetainedDraft) : Adapter :=
  match (s.drafts.get key).bind f with
  | some retained => s.changeDraft key fun _ => retained
  | none => { s with drafts := s.drafts.erase key }

def cancel (key : SubmissionKey) : Option Adapter :=
  match s.drafts.get key with
  | none => some s
  | some retained =>
    match retained.submissionState, retained.submissionControl with
    | .running, some i => do
      let a ← s.attempts[i]?
      if a.locked then none
      else
        match call ⟨a.control, s.journal⟩ Controlled.requestCancellation with
        | (.ok _, _) =>
          some { s.changeDraft key fun retained =>
            { retained with submissionState := .cancellationRequested } with
            attempts := s.attempts.set i (a.cancelled s.journal) }
        | (.error _, _) => some s
    | _, _ => some s

def moveAttempt (flow : Flow) (s : Adapter) (i : ℕ) (move : AttemptMove) (faults : JournalFaults) :
    Option Adapter := do
  let a ← s.attempts[i]?
  let moved ← a.move flow faults s.journal (s.drafts.get a.control.key).isSome move
  let t := { s with journal := moved.journal, attempts := s.attempts.set i moved.attempt }
  match moved.update with
  | none => some t
  | some update => some (t.replaceDraft a.control.key (flow.update update))

def step (flow : Flow) (s : Adapter) : AdapterEvent → Option Adapter
  | .prepare key terms fault =>
    if flow.owns key ∧ fault = none ∧ flow.passes
        (dominantFingerprintEntry s.journal.entries key.profileId terms.planningFingerprint) then
      some { s with planned := s.planned ++ [some (key, terms)] }
    else some s
  | .retain n => do
    let (key, terms) ← s.planned[n]?.join
    let s := { s with planned := s.planned.set n none }
    if flow.admits s.drafts key terms then
      some { s with drafts := s.drafts.upsert key (fun _ => terms.retained) terms.retained }
    else some s
  | .authorize key challenge now signed =>
    some (s.changeDraft key (flow.authorize challenge now signed))
  | .submit key now =>
    match s.drafts.get key with
    | none => some s
    | some retained =>
      let (attempt, after) := flow.submit now s.attempts.length retained
      let t := s.changeDraft key fun _ => after
      match attempt with
      | none => some t
      | some attempt => some { t with attempts := t.attempts ++ [.new key attempt] }
  | .get key now => some (s.changeDraft key (flow.get now))
  | .cancel key => s.cancel key
  | .attempt i move faults => s.moveAttempt flow i move faults
  | .reconcile key fault =>
    match faulty fault (.ok (s.journal.load key)) with
    | .ok (some entry) =>
      if flow.owns key ∧ entry.state.reconcilable then
        some { s with reconciliations := s.reconciliations ++ [.loaded key entry] }
      else some s
    | _ => some s
  | .persist n outcome fault =>
    match s.reconciliations[n]? with
    | some (.loaded key entry) =>
      match faulty fault (s.journal.save key (outcome.apply entry)) with
      | .ok journal =>
        some { s with
          journal := journal
          reconciliations := s.reconciliations.set n (.saved key (outcome.apply entry)) }
      | .error _ => some { s with reconciliations := s.reconciliations.set n .returned }
    | _ => none
  | .abandon n =>
    match s.reconciliations[n]? with
    | some (.loaded _ _) => some { s with reconciliations := s.reconciliations.set n .returned }
    | _ => none
  | .settle n =>
    match s.reconciliations[n]? with
    | some (.saved key entry) =>
      some { s.replaceDraft key (reconcileDraft entry) with
        reconciliations := s.reconciliations.set n .returned }
    | _ => none
  | .foreign key entry =>
    if flow.owns key then none
    else
      match s.journal.save key entry with
      | .ok journal => some { s with journal := journal }
      | .error _ => some s

def broadcasts : AdapterEvent → List (SubmissionKey × ℕ)
  | .attempt i (.beginBroadcast intent) faults =>
    match s.attempts[i]? with
    | some a =>
      if a.worker = .running ∧ a.locked = false ∧
          (call ⟨a.control, s.journal⟩ (Controlled.beginBroadcast faults intent)).1.isOk then
        [(a.control.key, i)]
      else []
    | none => []
  | _ => []

end Adapter

/-! ## A draft to try it with -/

def sampleKey (flow : Flow) : SubmissionKey where
  profileId := ⟨⟨"profile_of_drafts", by decide, by decide, by decide, by decide⟩⟩
  draftId :=
    match flow with
    | .transfer => ⟨⟨"txdraft_sample", by decide, by decide, by decide, by decide⟩⟩
    | .registration => ⟨⟨"dustreg_sample", by decide, by decide, by decide, by decide⟩⟩

def sampleChallenge : OpaqueId :=
  ⟨"challenge_of_drafts", by decide, by decide, by decide, by decide⟩

def sampleTerms : DraftTerms where
  planningFingerprint := hashOfByte 1
  authorizationChallenge := sampleChallenge
  networkId := ⟨⟨"network_of_drafts", by decide, by decide, by decide, by decide⟩⟩
  shielded := false
  expiresAt := 1000
  signingPayload := [1]
  preparedShieldedTransaction := none

def JournalFaults.none : JournalFaults := ⟨.none, .none⟩

namespace Flow

variable (flow : Flow)

def preparing : List AdapterEvent :=
  [.prepare (sampleKey flow) sampleTerms none, .retain 0]

def signing (now : UInt64) : AdapterEvent :=
  .authorize (sampleKey flow) sampleChallenge now (.ok [2])

def submitting (i : ℕ) : List AdapterEvent :=
  [.submit (sampleKey flow) 20, .attempt i .spawn .none]

end Flow

def beginning (i : ℕ) : AdapterEvent := .attempt i (.beginBroadcast sampleIntent) .none

def advancing (i : ℕ) (party : Party) (steps : ℕ) : List AdapterEvent :=
  List.replicate steps (.attempt i (.advance party) .none)

namespace Adapter

def submittingRun (flow : Flow) : List AdapterEvent :=
  flow.preparing ++ [flow.signing 10] ++ flow.submitting 0

def includedRun (flow : Flow) : List AdapterEvent :=
  submittingRun flow ++ [beginning 0, .attempt 0 (.complete (.ok sampleOutcome)) .none] ++
    advancing 0 .worker 3

def stateAfter (flow : Flow) (es : List AdapterEvent) : Option DraftState :=
  (run (step flow) (start .empty) es).bind fun t =>
    (t.drafts.get (sampleKey flow)).map RetainedDraft.state

end Adapter

end Oxid.Midnight
