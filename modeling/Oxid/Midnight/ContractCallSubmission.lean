import Mathlib.Logic.Function.Basic
import Oxid.Transition.Run
import Oxid.Midnight.Submission

/-!
# Submitting one contract call

`complete_contract_call` looks the draft up in a journal, takes its place in the map of
active submissions, lets a completer broadcast, writes the outcome to the journal and gives
the place up.  The model is of one draft and any number of calls.
-/

namespace Oxid.Midnight
open Foundation Transition Wallet PassportVault Option List

abbrev SubmissionResult := Except TransactionPortError SubmissionOutcome

def contractCallOutcome (entry : JournalEntry) : SubmissionResult :=
  if entry.state ≠ .included then .error .invalidData
  else match entry.blockHash, entry.blockHeight with
    | some blockHash, some blockHeight =>
      .ok ⟨entry.intent.transactionHash, blockHash, blockHeight, entry.intent.feeSpecks,
        entry.intent.mode⟩
    | _, _ => .error .invalidData

def settledBy : Option JournalEntry → Option SubmissionResult
  | none => none
  | some entry =>
    match entry.state with
    | .included => some (contractCallOutcome entry)
    | .broadcasting | .outcomeUnknown => some (.error .submissionOutcomeUnknown)
    | .rejected | .expired => none

def Clear (journal : Option JournalEntry) : Prop := settledBy journal = none

instance instDecidableClear (journal : Option JournalEntry) : Decidable (Clear journal) :=
  match h : settledBy journal with
  | none => isTrue h
  | some _ => isFalse (by rw [Clear, h]; exact Option.some_ne_none _)

inductive Completion
  | returned (result : SubmissionResult)
  | panicked
  deriving DecidableEq

inductive Marking
  | included (outcome : SubmissionOutcome)
  | outcomeUnknown
  | rejected
  deriving DecidableEq

def Marking.apply (marking : Marking) (entry : JournalEntry) : JournalEntry :=
  match marking with
  | .included outcome => entry.mark .included (some outcome.blockHash) (some outcome.blockHeight)
  | .outcomeUnknown => entry.mark .outcomeUnknown none none
  | .rejected => entry.mark .rejected none none

def Marking.saved : Marking → SubmissionResult
  | .included outcome => .ok outcome
  | .outcomeUnknown => .error .submissionOutcomeUnknown
  | .rejected => .error .submissionRejected

inductive Progress
  | waiting
  | checked
  | completing
  | inspectingRejected
  | inspecting (error : Option TransactionPortError)
  | marking (marking : Marking)
  | saving (entry : JournalEntry) (marking : Marking)
  | releasing (result : SubmissionResult)
  | returned (result : SubmissionResult)
  deriving DecidableEq

def afterCompletion : Completion → Progress
  | .returned (.ok outcome) => .marking (.included outcome)
  | .returned (.error .submissionOutcomeUnknown) => .marking .outcomeUnknown
  | .returned (.error .submissionRejected) => .inspectingRejected
  | .returned (.error error) => .inspecting (some error)
  | .panicked => .inspecting none

def Marking.missing : Marking → Progress
  | .included _ => .marking .outcomeUnknown
  | .outcomeUnknown => .releasing (.error .submissionOutcomeUnknown)
  | .rejected => .releasing (.error .invalidData)

structure Submission where
  attempt : SubmissionAttempt
  progress : Progress
  control : Option SubmissionPhase

/-! ## The system -/

/-- One draft: its journal entry, its place in `contract_call_submissions`, the calls,
and the reconciliations that have loaded the entry and not yet saved it. -/
structure System where
  journal : Option JournalEntry
  active : Option Nat
  calls : Nat → Submission
  reconciling : Nat → Option JournalEntry

def System.start (journal : Option JournalEntry) (attempts : Nat → SubmissionAttempt) : System :=
  ⟨journal, none, fun i => ⟨attempts i, .waiting, none⟩, fun _ => none⟩

inductive Event
  | check (call : Nat)
  | reserve (call : Nat)
  | beginBroadcast (call : Nat) (intent : BroadcastIntent)
  | requestCancellation (call : Nat)
  | complete (call : Nat) (completion : Completion)
  | advance (call : Nat)
  | reconcileLoad (reconciler : Nat)
  | reconcileSave (reconciler : Nat) (reconciliation : Reconciliation)

/-- A call has found nothing in its way in the journal, has taken the place of the draft, or has
passed `begin_broadcast`. -/
inductive Passage
  | checked (call : Nat)
  | reserved (call : Nat)
  | broadcast (call : Nat)
  deriving DecidableEq

open Passage

def Passage.broadcaster : Passage → Option Nat
  | .broadcast i => some i
  | _ => none

namespace System

variable (s : System)

def setCall (i : Nat) (submission : Submission) : System :=
  { s with calls := Function.update s.calls i submission }

def goto (i : Nat) (progress : Progress) : System :=
  s.setCall i { s.calls i with progress := progress }

def setControl (i : Nat) (phase : SubmissionPhase) : System :=
  s.setCall i { s.calls i with control := some phase }

def check (i : Nat) : Option (System × Option Passage) :=
  if (s.calls i).progress = .waiting then
    match settledBy s.journal with
    | some result => some (s.goto i (.returned result), none)
    | none => some (s.goto i .checked, some (.checked i))
  else none

def reserve (i : Nat) : Option (System × Option Passage) :=
  if (s.calls i).progress = .checked then
    if s.active.isSome then some (s.goto i (.returned (.error .submissionInProgress)), none)
    else
      some ({ s.setCall i ⟨(s.calls i).attempt, .completing, some .working⟩ with active := some i },
        some (.reserved i))
  else none

def beginBroadcast (i : Nat) (intent : BroadcastIntent) : Option (System × Option Passage) :=
  match (s.calls i).control with
  | none => none
  | some .working =>
    some ({ s.setControl i .broadcasting with
      journal := some ((s.calls i).attempt.broadcasting intent) }, some (.broadcast i))
  | some _ => some (s, none)

def requestCancellation (i : Nat) : Option System :=
  match (s.calls i).control with
  | none => none
  | some .working => some (s.setControl i .cancellationRequested)
  | some _ => some s

def complete (i : Nat) (completion : Completion) : Option System :=
  if (s.calls i).progress = .completing then some (s.goto i (afterCompletion completion))
  else none

def advance (i : Nat) : Option System :=
  match (s.calls i).progress with
  | .waiting | .checked | .completing | .returned _ => none
  | .inspectingRejected =>
    if (s.calls i).control = some .broadcasting then some (s.goto i (.marking .rejected))
    else some (s.goto i (.inspecting (some .submissionRejected)))
  | .inspecting error =>
    if (s.calls i).control = some .broadcasting then some (s.goto i (.marking .outcomeUnknown))
    else some (s.goto i (.releasing (.error (error.getD .unavailable))))
  | .marking marking =>
    match s.journal with
    | none => some (s.goto i marking.missing)
    | some entry => some (s.goto i (.saving (marking.apply entry) marking))
  | .saving entry marking => some { s.goto i (.releasing marking.saved) with journal := some entry }
  | .releasing result => some { s.goto i (.returned result) with active := none }

def reconcileLoad (r : Nat) : System :=
  match s.journal with
  | some entry =>
    if entry.state = .broadcasting ∨ entry.state = .outcomeUnknown then
      { s with reconciling := Function.update s.reconciling r (some entry) }
    else s
  | none => s

def reconcileSave (r : Nat) (reconciliation : Reconciliation) : Option System :=
  match s.reconciling r with
  | some entry =>
    some { s with
      journal := some (reconciliation.apply entry)
      reconciling := Function.update s.reconciling r none }
  | none => none

def act : Event → Option (System × Option Passage)
  | .check i => s.check i
  | .reserve i => s.reserve i
  | .beginBroadcast i intent => s.beginBroadcast i intent
  | .requestCancellation i => (s.requestCancellation i).map (·, none)
  | .complete i completion => (s.complete i completion).map (·, none)
  | .advance i => (s.advance i).map (·, none)
  | .reconcileLoad r => some (s.reconcileLoad r, none)
  | .reconcileSave r reconciliation => (s.reconcileSave r reconciliation).map (·, none)

/-- What a run is asked for: nothing is marked rejected or expired, and a completer begins to
broadcast before it returns. -/
def Orderly : Event → Prop
  | .beginBroadcast i _ => (s.calls i).progress = .completing
  | .complete _ completion => completion ≠ .returned (.error .submissionRejected)
  | .reconcileSave _ reconciliation => reconciliation ≠ .rejected ∧ reconciliation ≠ .expired
  | _ => True

instance instDecidableOrderly (s : System) (e : Event) : Decidable (s.Orderly e) :=
  match e with
  | .beginBroadcast i _ => inferInstanceAs (Decidable ((s.calls i).progress = .completing))
  | .complete _ completion =>
    inferInstanceAs (Decidable (completion ≠ .returned (.error .submissionRejected)))
  | .reconcileSave _ reconciliation =>
    inferInstanceAs (Decidable (reconciliation ≠ .rejected ∧ reconciliation ≠ .expired))
  | .check _ | .reserve _ | .requestCancellation _ | .advance _ | .reconcileLoad _ => isTrue trivial

/-- Nobody has begun to broadcast between the check of a call and its reservation. -/
def Undivided (past : List Passage) : Passage → Prop
  | .reserved i => ¬ Since (.checked i) (fun r => r.broadcaster.isSome) past
  | _ => True

end System

def Progress.holds : Progress → Bool
  | .waiting | .checked | .returned _ => false
  | .completing | .inspectingRejected | .inspecting _ | .marking _ | .saving _ _
  | .releasing _ => true

def Progress.unstarted : Progress → Bool
  | .waiting | .checked => true
  | _ => false

def Progress.Blocks : Progress → Prop
  | .inspectingRejected => False
  | .marking outcome => outcome ≠ .rejected
  | .saving entry _ => ¬ Clear (some entry)
  | _ => True

structure Progress.Settling (p : Progress) : Prop where
  started : p.unstarted = false
  ended : p ≠ .completing
  blocks : p.Blocks

theorem settling_afterCompletion {completion}
    (h : completion ≠ .returned (.error .submissionRejected)) :
    (afterCompletion completion).Settling := by
  cases completion with
  | panicked => exact ⟨rfl, nofun, trivial⟩
  | returned result =>
    cases result with
    | ok => exact ⟨rfl, nofun, nofun⟩
    | error e =>
      cases e with
      | submissionRejected => exact absurd rfl h
      | submissionOutcomeUnknown => exact ⟨rfl, nofun, nofun⟩
      | _ => exact ⟨rfl, nofun, trivial⟩

theorem settling_releasing (result : SubmissionResult) : (Progress.releasing result).Settling :=
  ⟨rfl, nofun, trivial⟩

variable {marking : Marking}

theorem settling_marking (h : marking ≠ .rejected) : (Progress.marking marking).Settling :=
  ⟨rfl, nofun, h⟩

theorem settling_missing (h : marking ≠ .rejected) : marking.missing.Settling := by
  cases marking with
  | included => exact settling_marking nofun
  | outcomeUnknown => exact settling_releasing _
  | rejected => exact absurd rfl h

theorem not_clear_of_state {entry} (hrejected : entry.state ≠ .rejected)
    (hexpired : entry.state ≠ .expired) : ¬ Clear (some entry) := by
  rw [Clear, settledBy]
  split
  · exact some_ne_none _
  · exact some_ne_none _
  · exact some_ne_none _
  · exact absurd (by assumption) hrejected
  · exact absurd (by assumption) hexpired

theorem not_clear_apply (h : marking ≠ .rejected) (entry : JournalEntry) :
    ¬ Clear (some (marking.apply entry)) := by
  cases marking with
  | included => exact not_clear_of_state nofun nofun
  | outcomeUnknown => exact not_clear_of_state nofun nofun
  | rejected => exact absurd rfl h

theorem not_clear_reconciled {reconciliation : Reconciliation}
    (hrejected : reconciliation ≠ .rejected) (hexpired : reconciliation ≠ .expired)
    (entry : JournalEntry) : ¬ Clear (some (reconciliation.apply entry)) := by
  cases reconciliation with
  | included => exact not_clear_of_state nofun nofun
  | unresolved => exact not_clear_of_state nofun nofun
  | rejected => exact absurd rfl hrejected
  | expired => exact absurd rfl hexpired

namespace System

section Invariant
variable {s t : System} {i j : Nat} {p : Progress} {past : List Passage} {f : Option Passage}

@[simp] theorem goto_progress (s : System) (i j : Nat) (p : Progress) :
    ((s.goto i p).calls j).progress = if j = i then p else (s.calls j).progress := by
  simp only [goto, setCall, Function.update_apply]
  split_ifs <;> rfl

@[simp] theorem goto_control (s : System) (i j : Nat) (p : Progress) :
    ((s.goto i p).calls j).control = (s.calls j).control := by
  simp only [goto, setCall, Function.update_apply]
  split_ifs with h
  · rw [h]
  · rfl

@[simp] theorem setControl_progress (s : System) (i j : Nat) (phase : SubmissionPhase) :
    ((s.setControl i phase).calls j).progress = (s.calls j).progress := by
  simp only [setControl, setCall, Function.update_apply]
  split_ifs with h
  · rw [h]
  · rfl

@[simp] theorem setControl_control (s : System) (i j : Nat) (phase : SubmissionPhase) :
    ((s.setControl i phase).calls j).control =
      if j = i then some phase else (s.calls j).control := by
  simp only [setControl, setCall, Function.update_apply]
  split_ifs <;> rfl

/-- One call at a time holds the place of the draft.  Once a call has begun to broadcast, the
journal lets no other through, no other is at its completer, and each that has checked the journal
has done so before. -/
structure Tally (past : List Passage) (s : System) : Prop where
  held : ∀ i, (s.calls i).progress.holds → s.active = some i
  blocks : ∀ i, (s.calls i).progress.Blocks
  settled : ∀ i, .broadcast i ∈ past → ¬ Clear s.journal
  sole : ∀ i j, .broadcast i ∈ past → (s.calls j).progress = .completing → j = i
  begun : ∀ i, .broadcast i ∈ past →
    (s.calls i).progress.unstarted = false ∧ (s.calls i).control ≠ some .working
  checked : ∀ i, (s.calls i).progress = .checked → .checked i ∈ past ∧
    ∀ j, .broadcast j ∈ past → Since (.checked i) (fun r => r.broadcaster.isSome) past
  once : (past.filterMap Passage.broadcaster).length ≤ 1

theorem tally_start (journal : Option JournalEntry) (attempts : Nat → SubmissionAttempt) :
    Tally [] (start journal attempts) :=
  ⟨fun _ h => (by cases h), fun _ => trivial, nofun, nofun, nofun, fun _ h => (by cases h), by simp⟩

theorem broadcasters_eq_nil (hnone : ∀ i, .broadcast i ∉ past) :
    past.filterMap broadcaster = [] := by
  refine filterMap_eq_nil_iff.mpr fun r hr => ?_
  cases r with
  | broadcast i => exact absurd hr (hnone i)
  | _ => rfl

/-- As long as nobody has begun to broadcast, only the places and the checks are to be kept. -/
theorem tally_of_unsent (hnone : ∀ i, .broadcast i ∉ past)
    (held : ∀ i, (s.calls i).progress.holds → s.active = some i)
    (blocks : ∀ i, (s.calls i).progress.Blocks)
    (checked : ∀ i, (s.calls i).progress = .checked → .checked i ∈ past) : Tally past s where
  held := held
  blocks := blocks
  settled i hi := absurd hi (hnone i)
  sole i _ hi := absurd hi (hnone i)
  begun i hi := absurd hi (hnone i)
  checked i hi := ⟨checked i hi, fun j hj => absurd hj (hnone j)⟩
  once := by simp [broadcasters_eq_nil hnone]

section
variable (h : Tally past s)
include h

theorem Tally.goto (hholds : p.holds → s.active = some i) (hblocks : p.Blocks)
    (hcompleting : p = .completing → (s.calls i).progress = .completing)
    (hstarted : p.unstarted = false) : Tally past (s.goto i p) where
  held j hj := by
    rw [goto_progress] at hj
    split_ifs at hj with hji
    · rw [hji]
      exact hholds hj
    · exact h.held j hj
  blocks j := by
    rw [goto_progress]
    split_ifs
    · exact hblocks
    · exact h.blocks j
  settled := h.settled
  sole j k hj hk := by
    rw [goto_progress] at hk
    split_ifs at hk with hki
    · rw [hki]
      exact h.sole j i hj (hcompleting hk)
    · exact h.sole j k hj hk
  begun j hj := by
    rw [goto_progress, goto_control]
    refine ⟨?_, (h.begun j hj).2⟩
    split_ifs
    · exact hstarted
    · exact (h.begun j hj).1
  checked j hj := by
    rw [goto_progress] at hj
    split_ifs at hj
    · rw [hj] at hstarted
      cases hstarted
    · exact h.checked j hj
  once := h.once

theorem Tally.save {entry} (hentry : ¬ Clear (some entry)) :
    Tally past { s with journal := some entry } :=
  { h with settled := fun _ _ => hentry }

theorem Tally.reconciling (loaded : Nat → Option JournalEntry) :
    Tally past { s with reconciling := loaded } :=
  { h with }

theorem Tally.release (hnone : ∀ j, (s.calls j).progress.holds = false) :
    Tally past { s with active := none } :=
  { h with held := fun j hj => by rw [hnone j] at hj; cases hj }

theorem Tally.setControl {phase} (hphase : phase ≠ .working) :
    Tally past (s.setControl i phase) where
  held j hj := h.held j (by simpa using hj)
  blocks j := by simpa using h.blocks j
  settled := h.settled
  sole j k hj hk := h.sole j k hj (by simpa using hk)
  begun j hj := by
    rw [setControl_progress, setControl_control]
    refine ⟨(h.begun j hj).1, ?_⟩
    split_ifs
    · simpa using hphase
    · exact (h.begun j hj).2
  checked j hj := h.checked j (by simpa using hj)
  once := h.once

theorem Tally.settle (hholds : (s.calls i).progress.holds) (hp : p.Settling) :
    Tally past (s.goto i p) :=
  h.goto (fun _ => h.held i hholds) hp.blocks (fun hc => absurd hc hp.ended) hp.started

theorem Tally.refuse (result : SubmissionResult) : Tally past (s.goto i (.returned result)) :=
  h.goto nofun trivial nofun rfl

theorem Tally.check (hact : s.check i = some (t, f)) : Tally (past ++ f.toList) t := by
  rw [System.check] at hact
  split_ifs at hact with hwaiting
  split at hact <;> cases hact
  · rw [toList_none, append_nil]
    exact h.refuse _
  · rename_i hclear
    -- the journal is clear, so nobody has begun to broadcast
    have hnone : ∀ j, .broadcast j ∉ past := fun j hj => h.settled j hj hclear
    refine tally_of_unsent (by simpa using hnone) (fun j hj => ?_) (fun j => ?_) fun j hj => ?_
    · rw [goto_progress] at hj
      split_ifs at hj
      · cases hj
      · exact h.held j hj
    · rw [goto_progress]
      split_ifs
      · trivial
      · exact h.blocks j
    · rw [goto_progress] at hj
      split_ifs at hj with hji
      · rw [hji]
        simp
      · exact mem_append_left _ (h.checked j hj).1

theorem Tally.reserve (hfree : ∀ r, f = some r → Undivided past r)
    (hact : s.reserve i = some (t, f)) : Tally (past ++ f.toList) t := by
  rw [System.reserve] at hact
  split_ifs at hact with hchecked hactive <;> cases hact
  · rw [toList_none, append_nil]
    exact h.refuse _
  · rw [not_isSome_iff_eq_none] at hactive
    have hnone : ∀ j, .broadcast j ∉ past := fun j hj =>
      hfree _ rfl ((h.checked i hchecked).2 j hj)
    refine tally_of_unsent (by simpa using hnone) (fun j hj => ?_) (fun j => ?_) fun j hj => ?_
    · by_cases hji : j = i
      · rw [hji]
      · have := h.held j (by simpa [setCall, hji] using hj)
        rw [hactive] at this
        cases this
    · by_cases hji : j = i
      · simp [setCall, hji, Progress.Blocks]
      · simpa [setCall, hji] using h.blocks j
    · by_cases hji : j = i
      · simp [setCall, hji] at hj
      · exact mem_append_left _ (h.checked j (by simpa [setCall, hji] using hj)).1

/-- The call that begins to broadcast is at its completer: it is the first one. -/
theorem Tally.beginBroadcast {intent} (hcompleting : (s.calls i).progress = .completing)
    (hact : s.beginBroadcast i intent = some (t, f)) : Tally (past ++ f.toList) t := by
  rw [System.beginBroadcast] at hact
  split at hact <;> cases hact
  · rename_i hworking
    have hentry : ¬ Clear (some ((s.calls i).attempt.broadcasting intent)) :=
      not_clear_of_state nofun nofun
    have hnone : ∀ j, .broadcast j ∉ past := by
      intro j hj
      have hij := h.sole j i hj hcompleting
      exact (h.begun j hj).2 (hij ▸ hworking)
    have hnew : ∀ {j}, .broadcast j ∈ past ++ [.broadcast i] → j = i := by
      intro j hj
      simpa [hnone j] using hj
    have hset : Tally past (s.setControl i .broadcasting) := h.setControl nofun
    refine ⟨hset.held, hset.blocks, fun _ _ => hentry, fun j k hj hk => ?_, fun j hj => ?_,
      fun j hj => ?_, by simp [broadcasters_eq_nil hnone, broadcaster]⟩
    · have hk := h.held k (by rw [← setControl_progress s i k, hk]; rfl)
      have hi := h.held i (by rw [hcompleting]; rfl)
      rw [hi] at hk
      rw [hnew hj]
      exact (some.inj hk).symm
    · cases hnew hj
      rw [setControl_progress, setControl_control, if_pos rfl, hcompleting]
      exact ⟨rfl, nofun⟩
    · obtain ⟨hmem, -⟩ := hset.checked j hj
      exact ⟨mem_append_left _ hmem, fun _ _ => since_concat hmem rfl⟩
  · rw [toList_none, append_nil]
    exact h

theorem Tally.requestCancellation (hstep : s.requestCancellation i = some t) : Tally past t := by
  rw [System.requestCancellation] at hstep
  split at hstep <;> cases hstep
  · exact h.setControl nofun
  · exact h

theorem Tally.complete {completion} (hnot : completion ≠ .returned (.error .submissionRejected))
    (hstep : s.complete i completion = some t) : Tally past t := by
  rw [System.complete] at hstep
  split_ifs at hstep with hcompleting
  cases hstep
  exact h.settle (by rw [hcompleting]; rfl) (settling_afterCompletion hnot)

theorem Tally.holds_goto_returned
    (hholds : (s.calls i).progress.holds) (result : SubmissionResult) (j : Nat) :
    ((s.goto i (.returned result)).calls j).progress.holds = false := by
  rw [goto_progress]
  split_ifs with hji
  · rfl
  · rw [← Bool.not_eq_true]
    intro hj
    have hi := h.held i hholds
    rw [h.held j hj] at hi
    exact hji (some.inj hi)

theorem Tally.advance (hstep : s.advance i = some t) : Tally past t := by
  have hblocks := h.blocks i
  rw [System.advance] at hstep
  cases hp : (s.calls i).progress with
  | waiting | checked | completing | returned => simp [hp] at hstep
  | inspectingRejected =>
    rw [hp] at hblocks
    exact absurd hblocks id
  | inspecting =>
    have hholds : (s.calls i).progress.holds := by rw [hp]; rfl
    simp only [hp] at hstep
    split_ifs at hstep
    · cases hstep
      exact h.settle hholds (settling_marking nofun)
    · cases hstep
      exact h.settle hholds (settling_releasing _)
  | marking =>
    have hholds : (s.calls i).progress.holds := by rw [hp]; rfl
    rw [hp] at hblocks
    simp only [hp] at hstep
    split at hstep
    · cases hstep
      exact h.settle hholds (settling_missing hblocks)
    · cases hstep
      exact h.settle hholds ⟨rfl, nofun, not_clear_apply hblocks _⟩
  | saving =>
    have hholds : (s.calls i).progress.holds := by rw [hp]; rfl
    rw [hp] at hblocks
    simp only [hp] at hstep
    cases hstep
    exact (h.settle hholds (settling_releasing _)).save hblocks
  | releasing result =>
    have hholds : (s.calls i).progress.holds := by rw [hp]; rfl
    simp only [hp] at hstep
    cases hstep
    exact (h.refuse result).release (h.holds_goto_returned hholds result)

theorem Tally.reconcileLoad (r : Nat) : Tally past (s.reconcileLoad r) := by
  rw [System.reconcileLoad]
  split
  · split_ifs
    · exact h.reconciling _
    · exact h
  · exact h

theorem Tally.step {e} (horderly : s.Orderly e) (hfree : ∀ r, f = some r → Undivided past r)
    (hact : s.act e = some (t, f)) : Tally (past ++ f.toList) t := by
  have hquiet : ∀ {after : Option System}, after.map (·, none) = some (t, f) →
      (∀ t, after = some t → Tally past t) → Tally (past ++ f.toList) t := by
    intro after hafter htally
    obtain ⟨t, ht, heq⟩ := map_eq_some_iff.mp hafter
    cases heq
    rw [toList_none, append_nil]
    exact htally t ht
  cases e with
  | check => exact h.check hact
  | reserve => exact h.reserve hfree hact
  | beginBroadcast => exact h.beginBroadcast horderly hact
  | requestCancellation => exact hquiet hact fun _ => h.requestCancellation
  | complete => exact hquiet hact fun _ => h.complete horderly
  | advance => exact hquiet hact fun _ => h.advance
  | reconcileLoad r =>
    cases hact
    rw [toList_none, append_nil]
    exact h.reconcileLoad r
  | reconcileSave =>
    refine hquiet hact fun t ht => ?_
    rw [System.reconcileSave] at ht
    split at ht <;> cases ht
    exact (h.save (not_clear_reconciled horderly.1 horderly.2 _)).reconciling _

end

/-- **A contract call is broadcast at most once.**  In every orderly run of any number of calls and
reconciliations of one draft, in which nobody begins to broadcast between the check of a call and
its reservation, at most one call passes `begin_broadcast`, and it does so once. -/
theorem broadcast_at_most_once (journal : Option JournalEntry)
    (attempts : Nat → SubmissionAttempt) (events : List Event) (final : System)
    (horderly : EveryStep (stepOf act) Orderly (start journal attempts) events)
    (hundivided : EveryReport Undivided (history act (start journal attempts) events))
    (hrun : run (stepOf act) (start journal attempts) events = some final) :
    ((history act (start journal attempts) events).filterMap broadcaster).length ≤ 1 := by
  refine (history_invariant_of_everyStep (P := fun past s =>
    EveryReport Undivided past → Tally past s) horderly hrun
    (fun _ => tally_start journal attempts) ?_ hundivided).once
  intro past p e q f ih ho hact hpast
  refine (ih hpast.of_append).step ho ?_ hact
  rintro r rfl
  exact hpast past r [] rfl

/-! ## Two calls that checked the journal together -/

def sameAttempt : SubmissionAttempt where
  networkId := ⟨⟨"mainnet", by decide, by decide, by decide, by decide⟩⟩
  planningFingerprint := .zero
  expiresAt := 2
  updatedAt := 1

def successfulCall (i : Nat) : List Event :=
  [.reserve i, .beginBroadcast i sampleIntent, .complete i (.returned (.ok sampleOutcome)),
    .advance i, .advance i, .advance i]

/-- The second call has checked the journal too, and finds the place taken; the third one finds
the outcome of the first. -/
def togetherRun : List Event :=
  [.check 0, .check 1, .reserve 0, .reserve 1] ++ (successfulCall 0).tail ++ [.check 2]

theorem broadcast_once_together : history act (start none fun _ => sameAttempt) togetherRun =
        [.checked 0, .checked 1] ++ [.reserved 0] ++ [.broadcast 0] ∧
      ((history act (start none fun _ => sameAttempt) togetherRun).filterMap
        broadcaster).length ≤ 1 := by
  have hhistory : history act (start none fun _ => sameAttempt) togetherRun =
      [.checked 0, .checked 1] ++ [.reserved 0] ++ [.broadcast 0] := rfl
  refine ⟨hhistory, broadcast_at_most_once none (fun _ => sameAttempt) togetherRun _ (by decide)
    ?_ rfl⟩
  have htrivial : ∀ {past r}, (∀ i, r ≠ .reserved i) → ∀ r', some r = some r' →
      Undivided past r' := by
    rintro past r hr _ ⟨⟩
    cases r with
    | reserved i => exact absurd rfl (hr i)
    | _ => trivial
  rw [hhistory]
  refine (((everyReport_nil.append (f := some (.checked 0)) (htrivial nofun)).append
    (f := some (.checked 1)) (htrivial nofun)).append (f := some (.reserved 0)) ?_).append
      (f := some (.broadcast 0)) (htrivial nofun)
  rintro _ ⟨⟩ hsince
  obtain ⟨r, hr, hbroadcast⟩ := hsince.exists_mem
  simp only [toList_some, nil_append, mem_append, mem_singleton] at hr
  rcases hr with rfl | rfl <;> cases hbroadcast

def failedCall (i : Nat) : List Event :=
  [.check i, .reserve i, .complete i (.returned (.error .provingFailed)), .advance i, .advance i]

/-- Both calls check the journal before the first takes the place: the second takes it later, and
broadcasts again.  And a control that a completer kept lets it broadcast after another call has. -/
theorem broadcast_twice : (history act (start none fun _ => sameAttempt)
        ([.check 0, .check 1] ++ successfulCall 0 ++ successfulCall 1)).filterMap
          broadcaster = [0, 1] ∧ (history act (start none fun _ => sameAttempt)
        (failedCall 0 ++ [.check 1] ++ successfulCall 1 ++
          [.beginBroadcast 0 sampleIntent])).filterMap broadcaster = [1, 0] :=
  ⟨rfl, rfl⟩

end Invariant
end System
end Oxid.Midnight
