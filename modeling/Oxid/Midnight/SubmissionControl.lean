import Oxid.Transition.Run
import Oxid.Midnight.SubmissionJournal

/-!
# The control of one submission attempt

The methods of `MidnightSubmissionControl` hold the lock of the phase throughout, so any
schedule is a sequence of whole calls, between which others may write to the journal.
-/

namespace Oxid.Midnight
open Foundation Wallet PassportVault Transaction Transition

structure SubmissionControl where
  key : SubmissionKey
  attempt : SubmissionAttempt
  phase : SubmissionPhase
  cancellation : Bool

def SubmissionControl.new (key : SubmissionKey) (attempt : SubmissionAttempt) : SubmissionControl :=
  ⟨key, attempt, .working, false⟩

/-- A fault is what the store answers instead of what it does. -/
structure JournalFaults where
  (load save : Option SubmissionJournalStoreError)

def mapSubmissionStoreError : SubmissionJournalStoreError → TransactionPortError
  | .unavailable => .unavailable
  | .invalidData => .invalidData

def faulty {α : Type} (fault : Option SubmissionJournalStoreError)
    (access : Except SubmissionJournalStoreError α) : Except TransactionPortError α :=
  (fault.elim access .error).mapError mapSubmissionStoreError

/-- A control with the journal it writes to. -/
structure Controlled where
  control : SubmissionControl
  journal : Journal

namespace Controlled

def loadEntry (faults : JournalFaults) : Method Controlled TransactionPortError JournalEntry := do
  let s ← get
  let found ← ofResult (faulty faults.load (.ok (s.journal.load s.control.key)))
  okOr found .invalidData

/-- The phase moves only after the journal has taken the entry. -/
def saveEntry (faults : JournalFaults) (entry : JournalEntry) (phase : SubmissionPhase) :
    Method Controlled TransactionPortError Unit := do
  let s ← get
  let journal ← ofResult (faulty faults.save (s.journal.save s.control.key entry))
  set { s with journal := journal, control := { s.control with phase := phase } }

def rewriteEntry (faults : JournalFaults) (state : StoredSubmissionState)
    (blockHash : Option Bytes32) (blockHeight : Option UInt64) (phase : SubmissionPhase) :
    Method Controlled TransactionPortError Unit := do
  let entry ← loadEntry faults
  saveEntry faults (entry.mark state blockHash blockHeight) phase

def requestCancellation : Method Controlled TransactionPortError Unit := do
  let s ← get
  match s.control.phase with
  | .working =>
    set { s with
      control := { s.control with cancellation := true, phase := .cancellationRequested } }
  | .cancellationRequested => pure ()
  | .broadcasting | .terminal => throw .submissionCancellationUnsafe

def beginBroadcast (faults : JournalFaults) (intent : BroadcastIntent) :
    Method Controlled TransactionPortError Unit := do
  let s ← get
  match s.control.phase with
  | .working => saveEntry faults (s.control.attempt.broadcasting intent) .broadcasting
  | .cancellationRequested => throw .submissionCancelled
  | .broadcasting => throw .submissionInProgress
  | .terminal => throw .submissionOutcomeUnknown

def markOutcomeUnknown (faults : JournalFaults) : Method Controlled TransactionPortError Unit := do
  let s ← get
  if s.control.phase = .broadcasting then
    rewriteEntry faults .outcomeUnknown none none .terminal
  else
    set { s with control := { s.control with phase := .terminal } }

def markTerminalIfBroadcasting (faults : JournalFaults) (state : StoredSubmissionState)
    (blockHash : Option Bytes32) (blockHeight : Option UInt64) :
    Method Controlled TransactionPortError Bool := do
  let s ← get
  if s.control.phase ≠ .broadcasting then return false
  else
    rewriteEntry faults state blockHash blockHeight .terminal
    return true

def markTerminal (faults : JournalFaults) (state : StoredSubmissionState)
    (blockHash : Option Bytes32) (blockHeight : Option UInt64) :
    Method Controlled TransactionPortError Unit := do
  let s ← get
  rewriteEntry faults state blockHash blockHeight s.control.phase

end Controlled

open Controlled

/-! ## Calls -/

inductive ControlCall
  | requestCancellation
  | beginBroadcast (faults : JournalFaults) (intent : BroadcastIntent)
  | markOutcomeUnknown (faults : JournalFaults)
  | markTerminalIfBroadcasting (faults : JournalFaults) (state : StoredSubmissionState)
      (blockHash : Option Bytes32) (blockHeight : Option UInt64)
  | journalChanged (journal : Journal)

namespace Controlled

variable (s : Controlled)

/-- `journalChanged` is a write of somebody else between two calls. -/
def perform : ControlCall → Except TransactionPortError Bool × Controlled
  | .requestCancellation => call s ((fun _ => true) <$> requestCancellation)
  | .beginBroadcast faults intent => call s ((fun _ => true) <$> beginBroadcast faults intent)
  | .markOutcomeUnknown faults => call s ((fun _ => true) <$> markOutcomeUnknown faults)
  | .markTerminalIfBroadcasting faults state blockHash blockHeight =>
    call s (markTerminalIfBroadcasting faults state blockHash blockHeight)
  | .journalChanged journal => (.ok true, { s with journal := journal })

def step (c : ControlCall) : Option Controlled := some (s.perform c).2

def after (calls : List ControlCall) : Controlled :=
  calls.foldl (fun s c => (s.perform c).2) s

def begun (c : ControlCall) : List BroadcastIntent :=
  match c, (s.perform c).1 with
  | .beginBroadcast _ intent, .ok _ => [intent]
  | _, _ => []

def cancelled (c : ControlCall) : List Unit :=
  match c, (s.perform c).1 with
  | .requestCancellation, .ok _ => [()]
  | _, _ => []

section Calls
variable {s : Controlled} {faults : JournalFaults}

theorem faulty_ok_iff {α : Type} {fault access} {a : α} :
    faulty fault access = .ok a ↔ fault = none ∧ access = .ok a := by
  cases fault <;> simp [faulty]

theorem saveEntry_allOrNothing (s : Controlled) (faults : JournalFaults) (entry : JournalEntry)
    (phase : SubmissionPhase) :
    AllOrNothing s (saveEntry faults entry phase) fun _ t =>
      ∃ journal, s.journal.save s.control.key entry = .ok journal ∧
        t = { s with journal := journal, control := { s.control with phase := phase } } := by
  refine allOrNothing_get (allOrNothing_ofResult fun journal hjournal => ?_)
  exact allOrNothing_of_call rfl ⟨journal, (faulty_ok_iff.mp hjournal).2, rfl⟩

theorem rewriteEntry_allOrNothing (s : Controlled) (faults : JournalFaults)
    (state : StoredSubmissionState) (blockHash : Option Bytes32) (blockHeight : Option UInt64)
    (phase : SubmissionPhase) :
    AllOrNothing s (rewriteEntry faults state blockHash blockHeight phase) fun _ t =>
      ∃ journal, t = ⟨{ s.control with phase := phase }, journal⟩ := by
  rw [rewriteEntry, loadEntry, bind_assoc]
  refine allOrNothing_get ?_
  rw [bind_assoc]
  refine allOrNothing_ofResult fun found _ => allOrNothing_okOr fun entry _ => ?_
  rcases saveEntry_allOrNothing s faults (entry.mark state blockHash blockHeight) phase with
    ⟨e, h⟩ | ⟨a, t, h, journal, -, rfl⟩
  · exact .inl ⟨e, h⟩
  · exact .inr ⟨a, _, h, journal, rfl⟩

/-- All that a call can come to. -/
inductive Outcome (s : Controlled) :
    ControlCall → Except TransactionPortError Bool → Controlled → Prop
  | cancelled (h : s.control.phase = .working) :
      Outcome s .requestCancellation (.ok true)
        { s with control :=
          { s.control with cancellation := true, phase := .cancellationRequested } }
  | stillCancelled (h : s.control.phase = .cancellationRequested) :
      Outcome s .requestCancellation (.ok true) s
  | begun (faults intent journal) (h : s.control.phase = .working)
      (hsave : s.journal.save s.control.key (s.control.attempt.broadcasting intent) = .ok journal) :
      Outcome s (.beginBroadcast faults intent) (.ok true)
        ⟨{ s.control with phase := .broadcasting }, journal⟩
  | unknown (faults journal) :
      Outcome s (.markOutcomeUnknown faults) (.ok true)
        ⟨{ s.control with phase := .terminal }, journal⟩
  | settled (faults state blockHash blockHeight journal) (h : s.control.phase = .broadcasting) :
      Outcome s (.markTerminalIfBroadcasting faults state blockHash blockHeight) (.ok true)
        ⟨{ s.control with phase := .terminal }, journal⟩
  | late (faults state blockHash blockHeight) (h : s.control.phase ≠ .broadcasting) :
      Outcome s (.markTerminalIfBroadcasting faults state blockHash blockHeight) (.ok false) s
  | changed (journal) : Outcome s (.journalChanged journal) (.ok true) { s with journal := journal }
  | failed (c e) : Outcome s c (.error e) s

theorem requestCancellation_outcome :
    Outcome s .requestCancellation (s.perform .requestCancellation).1
      (s.perform .requestCancellation).2 := by
  rw [perform, call_map, requestCancellation, call_get_bind]
  cases hphase : s.control.phase with
  | working => exact .cancelled hphase
  | cancellationRequested => exact .stillCancelled hphase
  | broadcasting => exact .failed _ _
  | terminal => exact .failed _ _

theorem beginBroadcast_outcome (intent : BroadcastIntent) :
    Outcome s (.beginBroadcast faults intent) (s.perform (.beginBroadcast faults intent)).1
      (s.perform (.beginBroadcast faults intent)).2 := by
  rw [perform, call_map, beginBroadcast, call_get_bind]
  cases hphase : s.control.phase with
  | working =>
    rcases saveEntry_allOrNothing s faults (s.control.attempt.broadcasting intent)
      .broadcasting with ⟨e, h⟩ | ⟨_, t, h, journal, hsave, rfl⟩
    · rw [h]
      exact .failed _ _
    · rw [h]
      exact .begun faults intent journal hphase hsave
  | cancellationRequested => exact .failed _ _
  | broadcasting => exact .failed _ _
  | terminal => exact .failed _ _

theorem markOutcomeUnknown_outcome :
    Outcome s (.markOutcomeUnknown faults) (s.perform (.markOutcomeUnknown faults)).1
      (s.perform (.markOutcomeUnknown faults)).2 := by
  rw [perform, call_map, markOutcomeUnknown, call_get_bind]
  split_ifs with hphase
  · rcases rewriteEntry_allOrNothing s faults .outcomeUnknown none none .terminal with
      ⟨e, h⟩ | ⟨_, _, h, journal, rfl⟩
    · rw [h]
      exact .failed _ _
    · rw [h]
      exact .unknown faults journal
  · exact .unknown faults s.journal

theorem markTerminalIfBroadcasting_outcome (state : StoredSubmissionState)
    (blockHash : Option Bytes32) (blockHeight : Option UInt64) :
    Outcome s (.markTerminalIfBroadcasting faults state blockHash blockHeight)
      (s.perform (.markTerminalIfBroadcasting faults state blockHash blockHeight)).1
      (s.perform (.markTerminalIfBroadcasting faults state blockHash blockHeight)).2 := by
  rw [perform, markTerminalIfBroadcasting, call_get_bind]
  by_cases hphase : s.control.phase = .broadcasting
  · rw [if_neg (not_not.mpr hphase), call_bind]
    rcases rewriteEntry_allOrNothing s faults state blockHash blockHeight .terminal with
      ⟨e, h⟩ | ⟨_, _, h, journal, rfl⟩
    · rw [h]
      exact .failed _ _
    · rw [h]
      exact .settled faults state blockHash blockHeight journal hphase
  · rw [if_pos hphase]
    exact .late faults state blockHash blockHeight hphase

theorem perform_outcome (s : Controlled) (c : ControlCall) :
    Outcome s c (s.perform c).1 (s.perform c).2 := by
  cases c with
  | requestCancellation => exact requestCancellation_outcome
  | beginBroadcast _ intent => exact beginBroadcast_outcome intent
  | markOutcomeUnknown => exact markOutcomeUnknown_outcome
  | markTerminalIfBroadcasting _ state blockHash blockHeight =>
    exact markTerminalIfBroadcasting_outcome state blockHash blockHeight
  | journalChanged journal => exact .changed journal

theorem run_step (s : Controlled) (calls : List ControlCall) :
    run step s calls = some (s.after calls) := by
  induction calls generalizing s with
  | nil => rfl
  | cons c _ ih =>
    rw [run_cons, step, Option.bind_some, ih]
    rfl

theorem after_append (s : Controlled) (calls calls' : List ControlCall) :
    s.after (calls ++ calls') = (s.after calls).after calls' :=
  List.foldl_append

/-! ## Cancellation and broadcast -/

/-- One of the two wins: nobody both cancels and broadcasts. -/
structure Consistent (begun : List BroadcastIntent) (cancelled : List Unit)
    (phase : SubmissionPhase) : Prop where
  once : begun.length ≤ 1
  exclusive : cancelled = [] ∨ begun = []
  working : phase = .working → cancelled = [] ∧ begun = []
  requested : phase = .cancellationRequested → begun = []
  broadcasting : phase = .broadcasting → cancelled = []

theorem Consistent.step {begins cancels c} (h : Consistent begins cancels s.control.phase) :
    Consistent (begins ++ s.begun c) (cancels ++ s.cancelled c) (s.perform c).2.control.phase := by
  have houtcome := perform_outcome s c
  unfold begun cancelled
  generalize (s.perform c).1 = result at houtcome ⊢
  generalize (s.perform c).2 = t at houtcome ⊢
  cases houtcome with
  | cancelled hphase =>
    obtain ⟨-, hbegins⟩ := h.working hphase
    exact ⟨by simp [hbegins], .inr (by simp [hbegins]), by simp, by simp [hbegins], by simp⟩
  | stillCancelled hphase =>
    have hbegins := h.requested hphase
    exact ⟨by simp [hbegins], .inr (by simp [hbegins]), by simp [hphase], by simp [hbegins],
      by simp [hphase]⟩
  | begun _ _ _ hphase =>
    obtain ⟨hcancels, hbegins⟩ := h.working hphase
    exact ⟨by simp [hbegins], .inl (by simp [hcancels]), by simp, by simp, by simp [hcancels]⟩
  | unknown => exact ⟨by simpa using h.once, by simpa using h.exclusive, by simp, by simp, by simp⟩
  | settled => exact ⟨by simpa using h.once, by simpa using h.exclusive, by simp, by simp, by simp⟩
  | late => simpa using h
  | changed => simpa using h
  | failed c => cases c <;> simpa using h

theorem phase_perform_of_terminal {c} (h : s.control.phase = .terminal) :
    (s.perform c).2.control.phase = .terminal := by
  have houtcome := perform_outcome s c
  generalize (s.perform c).1 = result at houtcome
  generalize (s.perform c).2 = t at houtcome ⊢
  cases houtcome with
  | cancelled hphase => rw [h] at hphase; cases hphase
  | begun _ _ _ hphase => rw [h] at hphase; cases hphase
  | settled => rfl
  | unknown => rfl
  | stillCancelled _ | late _ _ _ _ _ | changed _ | failed _ _ => exact h

theorem phase_after_of_terminal (calls : List ControlCall) (h : s.control.phase = .terminal) :
    (s.after calls).control.phase = .terminal := by
  induction calls generalizing s with
  | nil => exact h
  | cons c _ ih => exact ih (phase_perform_of_terminal h)

theorem perform_control (s : Controlled) (c : ControlCall) :
    (s.perform c).2.control.key = s.control.key ∧
      (s.perform c).2.control.attempt = s.control.attempt := by
  have houtcome := perform_outcome s c
  generalize (s.perform c).1 = result at houtcome
  generalize (s.perform c).2 = t at houtcome ⊢
  cases houtcome <;> exact ⟨rfl, rfl⟩

theorem after_control (s : Controlled) (calls : List ControlCall) :
    (s.after calls).control.key = s.control.key ∧
      (s.after calls).control.attempt = s.control.attempt := by
  induction calls generalizing s with
  | nil => exact ⟨rfl, rfl⟩
  | cons c _ ih =>
    obtain ⟨hkey, hattempt⟩ := ih (s.perform c).2
    obtain ⟨hkey', hattempt'⟩ := perform_control s c
    exact ⟨hkey.trans hkey', hattempt.trans hattempt'⟩

theorem consistent_after (key : SubmissionKey) (attempt : SubmissionAttempt) (journal : Journal)
    (calls : List ControlCall) : let start : Controlled := ⟨.new key attempt, journal⟩
    Consistent (outputs step begun start calls) (outputs step cancelled start calls)
      (start.after calls).control.phase := by
  intro start
  refine run_induction (motive := fun calls s =>
    Consistent (outputs step begun start calls) (outputs step cancelled start calls)
      s.control.phase) ?_ ?_ calls _ (run_step start calls)
  · exact ⟨Nat.zero_le _, .inl rfl, fun _ => ⟨rfl, rfl⟩, fun _ => rfl, fun _ => rfl⟩
  · intro calls p c q hp ih hstep
    rw [step, Option.some.injEq] at hstep
    rw [outputs_concat hp, outputs_concat hp, ← hstep]
    exact ih.step

theorem load_of_begun {intent b} (h : (s.perform (.beginBroadcast faults intent)).1 = .ok b) :
    (s.perform (.beginBroadcast faults intent)).2.journal.load s.control.key =
      some (s.control.attempt.broadcasting intent) := by
  have houtcome := perform_outcome s (.beginBroadcast faults intent)
  rw [h] at houtcome
  generalize (s.perform (.beginBroadcast faults intent)).2 = t at houtcome ⊢
  cases houtcome with
  | begun _ _ _ _ hsave => exact Journal.load_save_barrier hsave rfl

theorem phase_of_markOutcomeUnknown {b} (h : (s.perform (.markOutcomeUnknown faults)).1 = .ok b) :
    (s.perform (.markOutcomeUnknown faults)).2.control.phase = .terminal := by
  have houtcome := perform_outcome s (.markOutcomeUnknown faults)
  rw [h] at houtcome
  generalize (s.perform (.markOutcomeUnknown faults)).2 = t at houtcome ⊢
  cases houtcome with
  | unknown => rfl

theorem perform_of_terminal (h : s.control.phase = .terminal) :
    (∀ faults intent, s.perform (.beginBroadcast faults intent) =
      (.error .submissionOutcomeUnknown, s)) ∧ ∀ faults state blockHash blockHeight,
      s.perform (.markTerminalIfBroadcasting faults state blockHash blockHeight) =
        (.ok false, s) := by
  constructor
  · intro faults intent
    rw [perform, call_map, beginBroadcast, call_get_bind, h]
    rfl
  · intro faults state blockHash blockHeight
    have hne : s.control.phase ≠ .broadcasting := by
      rw [h]
      exact SubmissionPhase.noConfusion
    rw [perform, markTerminalIfBroadcasting, call_get_bind, if_pos hne]
    rfl

end Calls
end Controlled

/-- **Cancellation and broadcast exclude each other.** -/
theorem cancellation_excludes_broadcast (key : SubmissionKey) (attempt : SubmissionAttempt)
    (journal : Journal) (calls : List ControlCall) :
    let start : Controlled := ⟨.new key attempt, journal⟩
    (outputs step begun start calls).length ≤ 1 ∧
    (outputs step cancelled start calls = [] ∨
      outputs step begun start calls = []) ∧
    (∀ before faults intent later, calls = before ++ .beginBroadcast faults intent :: later →
      ((start.after before).perform (.beginBroadcast faults intent)).1 = .ok true →
      ∃ entry, (start.after (before ++ [.beginBroadcast faults intent])).journal.load key =
          some entry ∧ entry.state = .broadcasting ∧ entry.intent = intent) ∧
    ∀ before faults between c later,
      calls = before ++ .markOutcomeUnknown faults :: (between ++ c :: later) →
      ((start.after before).perform (.markOutcomeUnknown faults)).1 = .ok true →
      let s := start.after (before ++ .markOutcomeUnknown faults :: between)
      (∀ faults intent, c = .beginBroadcast faults intent →
        s.perform c = (.error .submissionOutcomeUnknown, s)) ∧
      ∀ faults state blockHash blockHeight,
        c = .markTerminalIfBroadcasting faults state blockHash blockHeight →
        s.perform c = (.ok false, s) := by
  intro start
  have hconsistent := consistent_after key attempt journal calls
  refine ⟨hconsistent.once, hconsistent.exclusive, ?_, ?_⟩
  · intro before faults intent later _ hok
    obtain ⟨hkey, -⟩ := after_control start before
    have hload := load_of_begun hok
    rw [hkey] at hload
    rw [after_append]
    exact ⟨_, hload, rfl, rfl⟩
  · intro before faults between c later _ hok s
    have hterminal : s.control.phase = .terminal := by
      show (start.after (before ++ .markOutcomeUnknown faults :: between)).control.phase = .terminal
      rw [after_append]
      exact phase_after_of_terminal between (phase_of_markOutcomeUnknown hok)
    obtain ⟨hbegin, hmark⟩ := perform_of_terminal hterminal
    constructor
    · rintro faults intent rfl
      exact hbegin faults intent
    · rintro faults state blockHash blockHeight rfl
      exact hmark faults state blockHash blockHeight

end Oxid.Midnight
