import Oxid.Midnight.SubmissionSystem

/-!
# The steps of submissions

What the parties of a submission can do in one move, and what that keeps: the key, the phase
but for a few changes, and whatever holds of all that a party has in hand.
-/

namespace Oxid.Midnight
open Foundation Wallet PassportVault Transaction Transition Controlled

namespace Attempt

section Moves
variable {flow : Flow} {a : Attempt} {journal : Journal} {faults : JournalFaults} {present : Bool}
  {party : Party} {task : Task} {moved : Moved}

/-- One critical section or one journal access of a party that carries out a task. -/
inductive Advanced (a : Attempt) (journal : Journal) (party : Party) : Task → Moved → Prop
  | updated (update missing) :
      Advanced a journal party (.update update missing)
        ⟨a.setTask party .done, journal, some update⟩
  | missing (update missing) :
      Advanced a journal party (.update update missing) ⟨a.setTask party missing, journal, none⟩
  | cancelled :
      Advanced a journal party .requestCancellation
        ⟨(a.cancelled journal).setTask party .done, journal, none⟩
  | started (yes no : Task) (h : a.control.phase = .broadcasting) :
      Advanced a journal party (.ifBroadcastStarted yes no) ⟨a.setTask party yes, journal, none⟩
  | notStarted (yes no : Task) (h : a.control.phase ≠ .broadcasting) :
      Advanced a journal party (.ifBroadcastStarted yes no) ⟨a.setTask party no, journal, none⟩
  | loaded (mark : Mark) (ok failed : Task) (entry : JournalEntry) :
      Advanced a journal party (.markTerminal mark ok failed)
        ⟨a.setTask party (.save (entry.mark mark.state mark.blockHash mark.blockHeight) ok failed),
          journal, none⟩
  | notLoaded (mark : Mark) (ok failed : Task) :
      Advanced a journal party (.markTerminal mark ok failed)
        ⟨a.setTask party failed, journal, none⟩
  | saved (entry : JournalEntry) (ok failed : Task) (journal' : Journal)
      (h : journal.save a.control.key entry = .ok journal') :
      Advanced a journal party (.save entry ok failed) ⟨a.setTask party ok, journal', none⟩
  | notSaved (entry : JournalEntry) (ok failed : Task) :
      Advanced a journal party (.save entry ok failed) ⟨a.setTask party failed, journal, none⟩
  | late (mark : Mark) (yes no failed : Task) (h : a.control.phase ≠ .broadcasting) :
      Advanced a journal party (.markTerminalIfBroadcasting mark yes no failed)
        ⟨a.setTask party no, journal, none⟩
  | locked (mark : Mark) (yes no failed : Task) (entry : JournalEntry)
      (h : a.control.phase = .broadcasting) :
      Advanced a journal party (.markTerminalIfBroadcasting mark yes no failed)
        ⟨{ a with locked := true }.setTask party
          (.saveLocked (entry.mark mark.state mark.blockHash mark.blockHeight) yes failed),
          journal, none⟩
  | notLocked (mark : Mark) (yes no failed : Task) (h : a.control.phase = .broadcasting) :
      Advanced a journal party (.markTerminalIfBroadcasting mark yes no failed)
        ⟨a.setTask party failed, journal, none⟩
  | ended (next : Task) (h : a.control.phase ≠ .broadcasting) :
      Advanced a journal party (.markOutcomeUnknown next)
        ⟨{ a with control := { a.control with phase := .terminal } }.setTask party next, journal,
          none⟩
  | unknownLocked (next : Task) (entry : JournalEntry) (h : a.control.phase = .broadcasting) :
      Advanced a journal party (.markOutcomeUnknown next)
        ⟨{ a with locked := true }.setTask party
          (.saveLocked (entry.mark .outcomeUnknown none none) next next), journal, none⟩
  | unknownNotLocked (next : Task) (h : a.control.phase = .broadcasting) :
      Advanced a journal party (.markOutcomeUnknown next) ⟨a.setTask party next, journal, none⟩
  | savedLocked (entry : JournalEntry) (ok failed : Task) (journal' : Journal)
      (h : journal.save a.control.key entry = .ok journal') :
      Advanced a journal party (.saveLocked entry ok failed)
        ⟨{ a with control := { a.control with phase := .terminal }, locked := false }.setTask
          party ok, journal', none⟩
  | notSavedLocked (entry : JournalEntry) (ok failed : Task) :
      Advanced a journal party (.saveLocked entry ok failed)
        ⟨{ a with locked := false }.setTask party failed, journal, none⟩

theorem saved_eq_some {entry phase control journal'}
    (h : a.saved journal faults entry phase = some (control, journal')) :
    control = { a.control with phase := phase } ∧
      journal.save a.control.key entry = .ok journal' := by
  rw [saved] at h
  rcases saveEntry_allOrNothing ⟨a.control, journal⟩ faults entry phase with
    ⟨e, hcall⟩ | ⟨_, t, hcall, saved, hsave, rfl⟩
  · rw [hcall] at h
    cases h
  · rw [hcall] at h
    cases h
    exact ⟨rfl, hsave⟩

theorem advanced_of_advance (h : a.advance journal faults present party task = some moved) :
    Advanced a journal party task moved := by
  cases task with
  | done => cases h
  | update =>
    rw [advance] at h
    split_ifs at h
    · cases h
      exact .updated _ _
    · cases h
      exact .missing _ _
  | requestCancellation =>
    rw [advance] at h
    split_ifs at h
    cases h
    exact .cancelled
  | ifBroadcastStarted =>
    rw [advance] at h
    split_ifs at h with _ hphase
    · cases h
      exact .started _ _ hphase
    · cases h
      exact .notStarted _ _ hphase
  | markTerminal =>
    rw [advance] at h
    split at h
    · cases h
      exact .loaded _ _ _ _
    · cases h
      exact .notLoaded _ _ _
  | save =>
    rw [advance] at h
    split at h
    · rename_i hsaved
      obtain ⟨rfl, hsave⟩ := saved_eq_some hsaved
      cases h
      exact .saved _ _ _ _ hsave
    · cases h
      exact .notSaved _ _ _
  | markTerminalIfBroadcasting =>
    rw [advance] at h
    split_ifs at h with _ hphase
    · cases h
      exact .late _ _ _ _ hphase
    · rw [not_not] at hphase
      split at h
      · cases h
        exact .locked _ _ _ _ _ hphase
      · cases h
        exact .notLocked _ _ _ _ hphase
  | markOutcomeUnknown =>
    rw [advance] at h
    split_ifs at h with _ hphase
    · cases h
      exact .ended _ hphase
    · rw [not_not] at hphase
      split at h
      · cases h
        exact .unknownLocked _ _ hphase
      · cases h
        exact .unknownNotLocked _ hphase
  | saveLocked =>
    rw [advance] at h
    split at h
    · rename_i hsaved
      obtain ⟨rfl, hsave⟩ := saved_eq_some hsaved
      cases h
      exact .savedLocked _ _ _ _ hsave
    · cases h
      exact .notSavedLocked _ _ _

theorem cancelled_cases (a : Attempt) (journal : Journal) :
    a.cancelled journal = a ∨ a.control.phase = .working ∧ a.cancelled journal =
      { a with control := { a.control with
        phase := .cancellationRequested, cancellation := true } } := by
  rw [cancelled, requestCancellation, call_get_bind]
  cases hphase : a.control.phase with
  | working => exact .inr ⟨rfl, rfl⟩
  | cancellationRequested | broadcasting | terminal => exact .inl rfl

/-- What each move can come to, with the faults of the journal left open. -/
inductive Effect (flow : Flow) (a : Attempt) (journal : Journal) : AttemptMove → Moved → Prop
  | spawned (h : a.worker = .spawning) :
      Effect flow a journal .spawn ⟨{ a with worker := .running }, journal, none⟩
  | spawnFailed (h : a.worker = .spawning) :
      Effect flow a journal .spawnFailed
        ⟨{ a with worker := .absent, waiter := .handling .done }, journal,
          some (.restoreAuthorized .notStarted)⟩
  | begun (intent journal') (hworker : a.worker = .running) (hphase : a.control.phase = .working)
      (hsave : journal.save a.control.key (a.control.attempt.broadcasting intent) = .ok journal') :
      Effect flow a journal (.beginBroadcast intent)
        ⟨{ a with control := { a.control with phase := .broadcasting }, passed := true }, journal',
          none⟩
  | notBegun (intent) : Effect flow a journal (.beginBroadcast intent) ⟨a, journal, none⟩
  | completed (result) (h : a.worker = .running) :
      Effect flow a journal (.complete result)
        ⟨{ a with worker := .finishing (flow.finish result) }, journal, none⟩
  | crashed (h : a.worker = .running) :
      Effect flow a journal .crash ⟨{ a with worker := .crashed }, journal, none⟩
  | delivered (hworker : a.worker = .finishing .done) (hwaiter : a.waiter = .waiting) :
      Effect flow a journal .deliver ⟨{ a with waiter := .handling .done }, journal, none⟩
  | lost (hworker : a.worker = .crashed) (hwaiter : a.waiter = .waiting) :
      Effect flow a journal .lose ⟨{ a with waiter := .handling flow.lost }, journal, none⟩
  | timedOut (hflow : flow = .registration) (hawaited : a.awaited)
      (hwaiter : a.waiter = .waiting) :
      Effect flow a journal .timeout ⟨{ a with waiter := .handling flow.lost }, journal, none⟩
  | dropped (hwaiter : a.waiter = .waiting) :
      Effect flow a journal .drop
        ⟨{ a.cancelled journal with waiter := .handling .done }, journal, none⟩
  | advanced (party : Party) (task : Task) (moved : Moved) (h : a.task party = some task)
      (hadvanced : Advanced a journal party task moved) :
      Effect flow a journal (.advance party) moved

open Attempt

theorem effect_of_move {move : AttemptMove}
    (h : a.move flow faults journal present move = some moved) :
    Effect flow a journal move moved := by
  cases move with
  | spawn =>
    rw [move] at h
    split_ifs at h with hworker
    cases h
    exact .spawned hworker
  | spawnFailed =>
    rw [move] at h
    split_ifs at h with hworker
    cases h
    exact .spawnFailed hworker
  | beginBroadcast intent =>
    rw [move] at h
    split_ifs at h with hworker
    rw [beginBroadcast, call_get_bind] at h
    cases hphase : a.control.phase with
    | working =>
      simp only [hphase] at h
      rcases saveEntry_allOrNothing ⟨a.control, journal⟩ faults
        (a.control.attempt.broadcasting intent) .broadcasting with
        ⟨e, hcall⟩ | ⟨_, t, hcall, journal', hsave, rfl⟩
      · rw [hcall] at h
        cases h
        exact .notBegun _
      · rw [hcall] at h
        cases h
        exact .begun _ _ hworker.1 hphase hsave
    | cancellationRequested =>
      simp only [hphase] at h
      cases h
      exact .notBegun _
    | broadcasting =>
      simp only [hphase] at h
      cases h
      exact .notBegun _
    | terminal =>
      simp only [hphase] at h
      cases h
      exact .notBegun _
  | complete =>
    rw [move] at h
    split_ifs at h with hworker
    cases h
    exact .completed _ hworker
  | crash =>
    rw [move] at h
    split_ifs at h with hworker
    cases h
    exact .crashed hworker
  | deliver =>
    rw [move] at h
    split_ifs at h with hboth
    cases h
    exact .delivered hboth.1 hboth.2
  | lose =>
    rw [move] at h
    split_ifs at h with hboth
    cases h
    exact .lost hboth.1 hboth.2
  | timeout =>
    rw [move] at h
    split_ifs at h with hall
    cases h
    exact .timedOut hall.1 hall.2.1 hall.2.2
  | drop =>
    rw [move] at h
    split_ifs at h with hall
    cases h
    exact .dropped hall.2.1
  | advance party =>
    rw [move, Option.bind_eq_some_iff] at h
    obtain ⟨task, htask, h⟩ := h
    exact .advanced party task moved htask (advanced_of_advance h)

end Moves
end Attempt

/-- What a task may still do that cannot be taken back. -/
inductive Act
  | update (update : DraftUpdate)
  | terminate

/-- Whatever the party may still do, given the answers it can get, has the property. -/
def Task.Every (answers : Bool → Prop) (P : Act → Prop) : Task → Prop
  | .done | .requestCancellation => True
  | .update change missing => P (.update change) ∧ missing.Every answers P
  | .ifBroadcastStarted yes no =>
    (answers true → yes.Every answers P) ∧ (answers false → no.Every answers P)
  | .markTerminal _ ok failed | .save _ ok failed => ok.Every answers P ∧ failed.Every answers P
  | .markTerminalIfBroadcasting _ yes no failed =>
    P .terminate ∧ yes.Every answers P ∧ no.Every answers P ∧ failed.Every answers P
  | .markOutcomeUnknown next => P .terminate ∧ next.Every answers P
  | .saveLocked _ ok failed => P .terminate ∧ ok.Every answers P ∧ failed.Every answers P

def Task.Saves (entry : JournalEntry) : Task → Prop
  | .save entry' _ _ | .saveLocked entry' _ _ => entry' = entry
  | _ => False

namespace Attempt

section Parties
variable {flow : Flow} {a : Attempt} {journal : Journal} {party : Party} {task : Task}
  {moved : Moved} {move : AttemptMove} {answers : Bool → Prop} {P : Act → Prop}

@[simp] theorem control_setTask (a : Attempt) (party : Party) (task : Task) :
    (a.setTask party task).control = a.control := by
  cases party <;> rfl

@[simp] theorem passed_setTask (a : Attempt) (party : Party) (task : Task) :
    (a.setTask party task).passed = a.passed := by
  cases party <;> rfl

@[simp] theorem task_setTask_self (a : Attempt) (party : Party) (task : Task) :
    (a.setTask party task).task party = some task := by
  cases party <;> rfl

theorem key_cancelled (a : Attempt) (journal : Journal) :
    (a.cancelled journal).control.key = a.control.key := by
  rcases cancelled_cases a journal with h | ⟨-, h⟩ <;> rw [h]

theorem cancelled_eq (a : Attempt) (journal : Journal) :
    a.cancelled journal = { a with control := (a.cancelled journal).control } := rfl

namespace Advanced

theorem key (h : Advanced a journal party task moved) :
    moved.attempt.control.key = a.control.key := by
  cases h with
  | cancelled => simp [key_cancelled]
  | _ => simp

theorem passed (h : Advanced a journal party task moved) : moved.attempt.passed = a.passed := by
  cases h with
  | cancelled => rw [passed_setTask, cancelled_eq]
  | _ => simp

theorem worker (h : Advanced a journal .waiter task moved) : moved.attempt.worker = a.worker := by
  cases h <;> rfl

theorem waiter (h : Advanced a journal .worker task moved) : moved.attempt.waiter = a.waiter := by
  cases h <;> rfl

section
variable (h : Advanced a journal party task moved)
include h

theorem task_of_ne {other : Party}
    (hother : other ≠ party) : moved.attempt.task other = a.task other := by
  cases other <;> cases party
  · exact absurd rfl hother
  · rw [Attempt.task, h.worker, Attempt.task]
  · rw [Attempt.task, h.waiter, Attempt.task]
  · exact absurd rfl hother

theorem update {update : DraftUpdate} (hupdate : moved.update = some update) :
    moved.attempt = a.setTask party .done ∧ ∃ missing, task = .update update missing := by
  cases h with
  | updated _ missing =>
    cases hupdate
    exact ⟨rfl, missing, rfl⟩
  | _ => cases hupdate

theorem journal_cases : moved.journal = journal ∨
      ∃ entry, task.Saves entry ∧ journal.save a.control.key entry = .ok moved.journal := by
  cases h with
  | saved entry _ _ _ hsave => exact .inr ⟨entry, rfl, hsave⟩
  | savedLocked entry _ _ _ hsave => exact .inr ⟨entry, rfl, hsave⟩
  | _ => exact .inl rfl

theorem phase : moved.attempt.control.phase = a.control.phase ∨
      a.control.phase = .working ∧ moved.attempt.control.phase = .cancellationRequested ∨
      moved.attempt.control.phase = .terminal := by
  cases h with
  | cancelled =>
    rcases cancelled_cases a journal with h | ⟨hphase, h⟩
    · exact .inl (by simp [h])
    · exact .inr (.inl ⟨hphase, by simp [h]⟩)
  | ended => exact .inr (.inr (by simp))
  | savedLocked => exact .inr (.inr (by simp))
  | _ => exact .inl (by simp)

theorem terminal (hevery : task.Every answers P)
    (hphase : moved.attempt.control.phase = .terminal) :
    a.control.phase = .terminal ∨ P .terminate := by
  cases h with
  | cancelled =>
    rcases cancelled_cases a journal with h | ⟨-, h⟩
    · exact .inl (by simpa [h] using hphase)
    · simp [h] at hphase
  | ended => exact .inr hevery.1
  | savedLocked => exact .inr hevery.1
  | _ => exact .inl (by simpa using hphase)

theorem every (hevery : task.Every answers P)
    (hanswers : ∀ yes no, task = .ifBroadcastStarted yes no →
      answers (a.control.phase = .broadcasting)) :
    ∃ next, moved.attempt.task party = some next ∧ next.Every answers P := by
  cases h with
  | updated | cancelled => exact ⟨.done, task_setTask_self .., trivial⟩
  | missing => exact ⟨_, task_setTask_self .., hevery.2⟩
  | started yes no hphase =>
    have hyes := hanswers yes no rfl
    rw [hphase, decide_eq_true rfl] at hyes
    exact ⟨yes, task_setTask_self .., hevery.1 hyes⟩
  | notStarted yes no hphase =>
    have hno := hanswers yes no rfl
    rw [decide_eq_false hphase] at hno
    exact ⟨no, task_setTask_self .., hevery.2 hno⟩
  | loaded => exact ⟨_, task_setTask_self .., hevery⟩
  | notLoaded | notSaved => exact ⟨_, task_setTask_self .., hevery.2⟩
  | saved => exact ⟨_, task_setTask_self .., hevery.1⟩
  | late => exact ⟨_, task_setTask_self .., hevery.2.2.1⟩
  | locked => exact ⟨_, task_setTask_self .., hevery.1, hevery.2.1, hevery.2.2.2⟩
  | notLocked => exact ⟨_, task_setTask_self .., hevery.2.2.2⟩
  | ended | unknownNotLocked => exact ⟨_, task_setTask_self .., hevery.2⟩
  | unknownLocked => exact ⟨_, task_setTask_self .., hevery.1, hevery.2, hevery.2⟩
  | savedLocked => exact ⟨_, task_setTask_self .., hevery.2.1⟩
  | notSavedLocked => exact ⟨_, task_setTask_self .., hevery.2.2⟩

end

end Advanced

/-- The moves that give a party its task. -/
inductive Begins (flow : Flow) : AttemptMove → Party → Task → Prop
  | completed (result) : Begins flow (.complete result) .worker (flow.finish result)
  | lost : Begins flow .lose .waiter flow.lost
  | timedOut : Begins flow .timeout .waiter flow.lost

namespace Effect

section
variable (h : a.Effect flow journal move moved)
include h

theorem key : moved.attempt.control.key = a.control.key := by
  cases h with
  | dropped => exact key_cancelled a journal
  | advanced _ _ _ _ hadvanced => exact hadvanced.key
  | _ => rfl

theorem alive (halive : moved.attempt.alive) : a.alive := by
  cases h with
  | spawned hworker | begun _ _ hworker | completed _ hworker => simp [Attempt.alive, hworker]
  | spawnFailed | crashed => simp [Attempt.alive] at halive
  | notBegun | delivered | lost | timedOut | dropped => exact halive
  | advanced party _ _ htask hadvanced =>
    cases party with
    | waiter => rwa [Attempt.alive, hadvanced.worker] at halive
    | worker =>
      rw [Attempt.task] at htask
      split at htask
      · rename_i hworker
        cases htask
        rw [Attempt.alive, hworker]
        cases hadvanced <;> simp
      · cases htask

theorem passed : moved.attempt.passed = a.passed ∨
      moved.attempt.passed ∧ a.worker = .running ∧ moved.attempt.worker = .running ∧
        a.control.phase = .working ∧ moved.attempt.control.phase = .broadcasting := by
  cases h with
  | begun _ _ hworker hphase => exact .inr ⟨rfl, hworker, hworker, hphase, rfl⟩
  | advanced _ _ _ _ hadvanced => exact .inl hadvanced.passed
  | _ => exact .inl rfl

theorem update {update : DraftUpdate} (hupdate : moved.update = some update) :
    move = .spawnFailed ∧ a.worker = .spawning ∧ moved.attempt.worker = .absent ∧
        moved.attempt.passed = a.passed ∧ update = .restoreAuthorized .notStarted ∨
      ∃ party missing, move = .advance party ∧ a.task party = some (.update update missing) ∧
        moved.attempt = a.setTask party .done := by
  cases h with
  | spawnFailed hworker =>
    cases hupdate
    exact .inl ⟨rfl, hworker, rfl, rfl, rfl⟩
  | advanced party _ _ htask hadvanced =>
    obtain ⟨hmoved, missing, rfl⟩ := hadvanced.update hupdate
    exact .inr ⟨party, missing, rfl, htask, hmoved⟩
  | _ => cases hupdate

theorem journal_cases : moved.journal = journal ∨
      (∃ intent, a.worker = .running ∧ a.control.phase = .working ∧ journal.save a.control.key
        (a.control.attempt.broadcasting intent) = .ok moved.journal) ∨
      ∃ party task entry, a.task party = some task ∧ task.Saves entry ∧
        journal.save a.control.key entry = .ok moved.journal := by
  cases h with
  | begun intent _ hworker hphase hsave => exact .inr (.inl ⟨intent, hworker, hphase, hsave⟩)
  | advanced party task _ htask hadvanced =>
    rcases hadvanced.journal_cases with hsame | ⟨entry, hsaves, hsave⟩
    · exact .inl hsame
    · exact .inr (.inr ⟨party, task, entry, htask, hsaves, hsave⟩)
  | _ => exact .inl rfl

theorem phase : moved.attempt.control.phase = a.control.phase ∨
      a.control.phase = .working ∧ moved.attempt.control.phase = .cancellationRequested ∨
      a.control.phase = .working ∧ moved.attempt.control.phase = .broadcasting ∧
        a.worker = .running ∧ moved.attempt.passed ∨ moved.attempt.control.phase = .terminal := by
  cases h with
  | begun _ _ hworker hphase => exact .inr (.inr (.inl ⟨hphase, rfl, hworker, rfl⟩))
  | dropped =>
    rcases cancelled_cases a journal with h | ⟨hphase, h⟩
    · exact .inl (by rw [h])
    · exact .inr (.inl ⟨hphase, by rw [h]⟩)
  | advanced _ _ _ _ hadvanced =>
    rcases hadvanced.phase with h | h | h
    · exact .inl h
    · exact .inr (.inl h)
    · exact .inr (.inr (.inr h))
  | _ => exact .inl rfl

theorem terminal (hevery : ∀ party task, a.task party = some task → task.Every answers P)
    (hphase : moved.attempt.control.phase = .terminal) :
    a.control.phase = .terminal ∨ P .terminate := by
  cases h with
  | begun => cases hphase
  | dropped =>
    rcases cancelled_cases a journal with h | ⟨-, h⟩
    · exact .inl (by rwa [h] at hphase)
    · rw [h] at hphase
      cases hphase
  | advanced party task _ htask hadvanced =>
    exact hadvanced.terminal (hevery party task htask) hphase
  | _ => exact .inl hphase

theorem every (hevery : ∀ task, a.task party = some task → task.Every answers P)
    (hbegins : ∀ task, Begins flow move party task → task.Every answers P)
    (hanswers : ∀ yes no, move = .advance party → a.task party = some (.ifBroadcastStarted yes no) →
      answers (a.control.phase = .broadcasting)) :
    ∀ task, moved.attempt.task party = some task → task.Every answers P := by
  intro task htask
  cases h with
  | begun | notBegun | spawned | crashed =>
    cases party with
    | waiter => exact hevery task htask
    | worker => first | exact hevery task htask | cases htask
  | spawnFailed =>
    cases party <;> cases htask
    trivial
  | completed result =>
    cases party with
    | waiter => exact hevery task htask
    | worker =>
      cases htask
      exact hbegins _ (.completed result)
  | delivered | dropped =>
    cases party with
    | worker => exact hevery task htask
    | waiter =>
      cases htask
      trivial
  | lost =>
    cases party with
    | worker => exact hevery task htask
    | waiter =>
      cases htask
      exact hbegins _ .lost
  | timedOut =>
    cases party with
    | worker => exact hevery task htask
    | waiter =>
      cases htask
      exact hbegins _ .timedOut
  | advanced mover before _ hbefore hadvanced =>
    by_cases hparty : party = mover
    · subst hparty
      obtain ⟨next, hnext, hdone⟩ := hadvanced.every (hevery before hbefore) fun yes no heq =>
        hanswers yes no rfl (heq ▸ hbefore)
      rw [htask] at hnext
      cases hnext
      exact hdone
    · exact hevery task (hadvanced.task_of_ne hparty ▸ htask)

end

end Effect

/-- What one step of the adapter can make of an attempt. -/
inductive Later (flow : Flow) (journal : Journal) (a : Attempt) : Attempt → Prop
  | same : Later flow journal a a
  | cancelled : Later flow journal a (a.cancelled journal)
  | moved (move : AttemptMove) (moved) (h : a.Effect flow journal move moved) :
      Later flow journal a moved.attempt

namespace Later
variable {b : Attempt}

theorem key (h : a.Later flow journal b) : b.control.key = a.control.key := by
  cases h with
  | same => rfl
  | cancelled => exact key_cancelled a journal
  | moved _ _ heffect => exact heffect.key

theorem alive (h : a.Later flow journal b) (halive : b.alive) : a.alive := by
  cases h with
  | same => exact halive
  | cancelled => exact halive
  | moved _ _ heffect => exact heffect.alive halive

theorem passed (h : a.Later flow journal b) (hpassed : b.passed) :
    a.passed ∨ a.worker = .running := by
  cases h with
  | same => exact .inl hpassed
  | cancelled => exact .inl hpassed
  | moved _ _ heffect =>
    rcases heffect.passed with heq | ⟨-, hworker, -⟩
    · exact .inl (heq ▸ hpassed)
    · exact .inr hworker

theorem passed_mono (h : a.Later flow journal b) (hpassed : a.passed) : b.passed := by
  cases h with
  | same => exact hpassed
  | cancelled => exact hpassed
  | moved _ _ heffect =>
    rcases heffect.passed with heq | ⟨htrue, -⟩
    · exact heq.trans hpassed
    · exact htrue

end Later

theorem phase_of_beginBroadcast {faults intent}
    (h : (call ⟨a.control, journal⟩ (beginBroadcast faults intent)).1.isOk) :
    a.control.phase = .working := by
  rw [beginBroadcast, call_get_bind] at h
  cases hphase : a.control.phase with
  | working => rfl
  | cancellationRequested | broadcasting | terminal =>
    simp only [hphase] at h
    cases h

end Parties
end Attempt

end Oxid.Midnight
