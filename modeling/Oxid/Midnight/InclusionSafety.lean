import Oxid.Midnight.AdapterSteps

/-!
# Recorded inclusions

Worker, waiter and reconciliations load the entry of the journal and later save what they
make of the copy, so a recorded inclusion can be overwritten by one with an older copy.
-/

namespace Oxid.Midnight
open Foundation Wallet PassportVault Transaction Transition Option

/-! ## Submissions that leave the journal alone -/

def Task.writes (started : Bool) : Task → Bool
  | .done | .requestCancellation => false
  | .update _ missing => missing.writes started
  | .ifBroadcastStarted yes no => started && yes.writes started || no.writes started
  | .markTerminal .. | .save .. | .saveLocked .. => true
  | .markTerminalIfBroadcasting _ _ no _ => started || no.writes started
  | .markOutcomeUnknown next => started || next.writes started

theorem Task.writes_mono {task : Task} {started started' : Bool}
    (h : task.writes started = false) (hle : started' → started) :
    task.writes started' = false := by
  induction task with
  | done | requestCancellation => rfl
  | update _ _ ih => exact ih h
  | ifBroadcastStarted _ _ ihyes ihno =>
    simp only [writes, Bool.or_eq_false_iff, Bool.and_eq_false_iff] at h ⊢
    refine ⟨?_, ihno h.2⟩
    cases started' with
    | false => exact .inl rfl
    | true =>
      refine .inr (ihyes ?_)
      rcases h.1 with hfalse | hyes
      · cases (hle rfl).symm.trans hfalse
      · exact hyes
  | markTerminal | save | saveLocked => cases h
  | markTerminalIfBroadcasting _ _ _ _ _ ihno =>
    simp only [writes, Bool.or_eq_false_iff] at h ⊢
    exact ⟨by cases started' <;> simp_all, ihno h.2⟩
  | markOutcomeUnknown _ ih =>
    simp only [writes, Bool.or_eq_false_iff] at h ⊢
    exact ⟨by cases started' <;> simp_all, ih h.2⟩

namespace Attempt

def started (a : Attempt) : Bool := a.control.phase = .broadcasting

/-- No work in hand writes the entry, and none will: a worker that is still to come back is one of
a registration that may not begin to broadcast any more. -/
structure Silent (flow : Flow) (a : Attempt) : Prop where
  working : a.worker = .spawning ∨ a.worker = .running →
    flow = .registration ∧ a.control.phase ≠ .working ∧ a.started = false
  tasks : ∀ party task, a.task party = some task → task.writes a.started = false
  waiting : a.waiter = .waiting → a.worker = .crashed ∨ flow = .registration ∧ a.awaited →
    a.started = false

def silent (flow : Flow) (a : Attempt) : Bool :=
  (!(a.worker = .spawning || a.worker = .running) ||
      flow = .registration && a.control.phase ≠ .working && !a.started) &&
    (a.task .worker).all (fun task => !task.writes a.started) &&
    (a.task .waiter).all (fun task => !task.writes a.started) &&
    (!(a.waiter = .waiting && (a.worker = .crashed || flow = .registration && a.awaited)) ||
      !a.started)

section Silent
variable {flow : Flow} {a b : Attempt} {journal : Journal} {move : AttemptMove} {moved : Moved}
  {party : Party} {task : Task}

theorem Silent.of_silent (h : a.silent flow) : a.Silent flow := by
  simp only [silent, Bool.and_eq_true, all_eq_true, Bool.not_eq_true'] at h
  obtain ⟨⟨⟨hworking, hworker⟩, hwaiter⟩, hwaiting⟩ := h
  refine ⟨fun hworks => ?_, ?_, ?_⟩
  · rcases hworks with hworks | hworks <;> simpa [hworks, and_assoc] using hworking
  · intro party task htask
    cases party with
    | worker => exact hworker task htask
    | waiter => exact hwaiter task htask
  · intro hwaits hlost
    rcases hlost with hcrashed | ⟨hflow, hawaited⟩
    · simpa [hwaits, hcrashed] using hwaiting
    · simpa [hwaits, hflow, hawaited] using hwaiting

theorem finish_writes (result : Except TransactionPortError SubmissionOutcome) :
    (Flow.registration.finish result).writes false = false := by
  cases result with
  | ok => rfl
  | error e => cases e <;> rfl

theorem lost_writes (flow : Flow) : flow.lost.writes false = false := by
  cases flow <;> rfl

theorem Advanced.writes (h : Advanced a journal party task moved)
    (hwrites : task.writes a.started = false) :
    ∃ next, moved.attempt.task party = some next ∧ next.writes a.started = false := by
  have hstarted : a.control.phase = .broadcasting → a.started := fun h => by
    rw [Attempt.started, h, decide_eq_true rfl]
  cases h with
  | updated | cancelled => exact ⟨.done, task_setTask_self .., rfl⟩
  | missing => exact ⟨_, task_setTask_self .., hwrites⟩
  | started yes _ hphase =>
    simp only [Task.writes, hstarted hphase, Bool.true_and, Bool.or_eq_false_iff] at hwrites
    exact ⟨yes, task_setTask_self .., hstarted hphase ▸ hwrites.1⟩
  | notStarted _ no =>
    simp only [Task.writes, Bool.or_eq_false_iff] at hwrites
    exact ⟨no, task_setTask_self .., hwrites.2⟩
  | loaded | notLoaded | saved | notSaved | savedLocked | notSavedLocked => cases hwrites
  | late | ended =>
    simp only [Task.writes, Bool.or_eq_false_iff] at hwrites
    exact ⟨_, task_setTask_self .., hwrites.2⟩
  | locked _ _ _ _ _ hphase | notLocked _ _ _ _ hphase | unknownLocked _ _ hphase
  | unknownNotLocked _ hphase =>
    rw [hstarted hphase] at hwrites
    cases hwrites

theorem Effect.worker_move (h : a.Effect flow journal move moved) :
    moved.attempt.worker = a.worker ∨ (a.worker = .spawning ∨ a.worker = .running) ∨
      ∃ task next, a.worker = .finishing task ∧ task ≠ .done ∧
        moved.attempt.worker = .finishing next := by
  cases h with
  | spawned hworker | spawnFailed hworker => exact .inr (.inl (.inl hworker))
  | begun _ _ hworker | completed _ hworker | crashed hworker => exact .inr (.inl (.inr hworker))
  | notBegun | delivered | lost | timedOut | dropped => exact .inl rfl
  | advanced party task _ htask hadvanced =>
    cases party with
    | waiter => exact .inl hadvanced.worker
    | worker =>
      rw [Attempt.task] at htask
      split at htask
      · rename_i hworker
        cases htask
        refine .inr (.inr ⟨task, ?_⟩)
        cases hadvanced <;> exact ⟨_, hworker, by simp, rfl⟩
      · cases htask

theorem Effect.waiting (h : a.Effect flow journal move moved)
    (hwaiting : moved.attempt.waiter = .waiting) : a.waiter = .waiting := by
  cases h with
  | spawnFailed | delivered | lost | timedOut | dropped => cases hwaiting
  | spawned | begun | notBegun | completed | crashed => exact hwaiting
  | advanced party _ _ _ hadvanced =>
    cases party with
    | worker => exact hadvanced.waiter ▸ hwaiting
    | waiter => cases hadvanced <;> cases hwaiting

section
variable (h : a.Silent flow)
include h

theorem Silent.cancelled (journal : Journal) : (a.cancelled journal).Silent flow := by
  rcases cancelled_cases a journal with heq | ⟨hphase, heq⟩
  · rw [heq]
    exact h
  · have hstarted : (a.cancelled journal).started = a.started := by
      rw [heq, started, started, hphase]
      rfl
    refine ⟨fun hworks => ?_, fun party task htask => hstarted ▸ h.tasks party task htask,
      fun hwaiting hlost => hstarted ▸ h.waiting hwaiting hlost⟩
    exact absurd hphase (h.working hworks).2.1

theorem Silent.not_begun (hworker : a.worker = .running) : a.control.phase ≠ .working :=
  (h.working (.inr hworker)).2.1

theorem Silent.started_move (heffect : a.Effect flow journal move moved)
    (hstarted : a.started = false) : moved.attempt.started = false := by
  rw [started, decide_eq_false_iff_not] at hstarted ⊢
  intro hphase
  rcases heffect.phase with hsame | ⟨-, hother⟩ | ⟨hbefore, -, hworker, -⟩ | hother
  · exact hstarted (hsame ▸ hphase)
  · cases hother.symm.trans hphase
  · exact h.not_begun hworker hbefore
  · cases hother.symm.trans hphase

theorem Silent.working_move (heffect : a.Effect flow journal move moved)
    (hworks : moved.attempt.worker = .spawning ∨ moved.attempt.worker = .running) :
    flow = .registration ∧ moved.attempt.control.phase ≠ .working ∧
      moved.attempt.started = false := by
  have hbefore : a.worker = .spawning ∨ a.worker = .running := by
    rcases heffect.worker_move with hsame | hbefore | ⟨_, _, -, -, hnext⟩
    · exact hsame ▸ hworks
    · exact hbefore
    · rw [hnext] at hworks
      simp at hworks
  obtain ⟨hflow, hphase, hstarted⟩ := h.working hbefore
  refine ⟨hflow, fun hworking => ?_, h.started_move heffect hstarted⟩
  rcases heffect.phase with hsame | ⟨hbefore, -⟩ | ⟨hbefore, -⟩ | hother
  · exact hphase (hsame ▸ hworking)
  · exact hphase hbefore
  · exact hphase hbefore
  · cases hother.symm.trans hworking

theorem Silent.tasks_move (heffect : a.Effect flow journal move moved)
    (htask : moved.attempt.task party = some task) : task.writes a.started = false := by
  cases heffect with
  | notBegun | begun => exact h.tasks party task htask
  | spawned | crashed =>
    cases party with
    | worker => cases htask
    | waiter => exact h.tasks .waiter task htask
  | spawnFailed =>
    cases party <;> cases htask
    rfl
  | completed result hworker =>
    cases party with
    | worker =>
      obtain ⟨rfl, -, hstarted⟩ := h.working (.inr hworker)
      cases htask
      rw [hstarted]
      exact finish_writes result
    | waiter => exact h.tasks .waiter task htask
  | delivered | dropped =>
    cases party with
    | worker => exact h.tasks .worker task htask
    | waiter =>
      cases htask
      rfl
  | lost hworker hwaiting =>
    cases party with
    | worker => exact h.tasks .worker task htask
    | waiter =>
      cases htask
      rw [h.waiting hwaiting (.inl hworker)]
      exact lost_writes flow
  | timedOut hflow hawaited hwaiting =>
    cases party with
    | worker => exact h.tasks .worker task htask
    | waiter =>
      cases htask
      rw [h.waiting hwaiting (.inr ⟨hflow, hawaited⟩)]
      exact lost_writes flow
  | advanced mover before _ hbefore hadvanced =>
    by_cases hparty : party = mover
    · subst hparty
      obtain ⟨next, hnext, hwrites⟩ := hadvanced.writes (h.tasks party before hbefore)
      rw [htask] at hnext
      cases hnext
      exact hwrites
    · exact h.tasks party task (hadvanced.task_of_ne hparty ▸ htask)

theorem Silent.of_move (heffect : a.Effect flow journal move moved) :
    moved.attempt.Silent flow := by
  refine ⟨h.working_move heffect, fun party task htask =>
    Task.writes_mono (h.tasks_move heffect htask) fun hstarted => ?_, fun hwaiting hlost => ?_⟩
  · by_contra hbefore
    rw [Bool.not_eq_true] at hbefore
    cases (h.started_move heffect hbefore).symm.trans hstarted
  · refine h.started_move heffect ?_
    rcases heffect.worker_move with hsame | hworks | ⟨task, next, htask, hdone, hworker⟩
    · refine h.waiting (heffect.waiting hwaiting) ?_
      rwa [awaited, hsame] at hlost
    · exact (h.working hworks).2.2
    · refine h.waiting (heffect.waiting hwaiting) ?_
      rcases hlost with hcrashed | ⟨hflow, -⟩
      · cases hworker.symm.trans hcrashed
      · exact .inr ⟨hflow, by simp [awaited, htask, hdone]⟩

theorem Silent.later (hlater : a.Later flow journal b) : b.Silent flow := by
  cases hlater with
  | same => exact h
  | cancelled => exact h.cancelled journal
  | moved _ _ heffect => exact h.of_move heffect

theorem Silent.journal_move (heffect : a.Effect flow journal move moved) :
    moved.journal = journal := by
  rcases heffect.journal_cases with hsame | ⟨_, hworker, hphase, -⟩ |
    ⟨party, task, entry, htask, hsaves, -⟩
  · exact hsame
  · exact absurd hphase (h.not_begun hworker)
  · have hwrites := h.tasks party task htask
    cases task with
    | save | saveLocked => cases hwrites
    | _ => cases hsaves

end

end Silent
end Attempt

namespace Adapter

structure Settled (flow : Flow) (key : SubmissionKey) (entry : JournalEntry) (s : Adapter) :
    Prop where
  recorded : s.journal.load key = some entry
  attempts : ∀ (i : ℕ) a, s.attempts[i]? = some a → a.control.key = key → a.Silent flow
  reconciliations : ∀ (n : ℕ) copy, s.reconciliations[n]? ≠ some (.loaded key copy)

section Settled
variable {flow : Flow} {s t : Adapter} {e : AdapterEvent} {es : List AdapterEvent}
  {key : SubmissionKey} {entry : JournalEntry}

theorem load_save_included {journal journal' : Journal} {key'} {other : JournalEntry}
    (hload : journal.load key = some entry) (hincluded : entry.state = .included)
    (hsave : journal.save key' other = .ok journal') (hne : key ≠ key') :
    journal'.load key = some entry := by
  rcases Journal.load_save_of_ne hsave hne with hsame | ⟨-, old, hold, hevictable⟩
  · exact hsame.trans hload
  · rw [hload] at hold
    cases hold
    rw [hincluded] at hevictable
    cases hevictable

theorem Settled.recorded_step (h : Settled flow key entry s) (howns : flow.owns key)
    (hincluded : entry.state = .included) (hstep : s.step flow e = some t) :
    t.journal.load key = some entry := by
  have hchange := (changes_of_step hstep).journal
  generalize t.journal = after at hchange
  cases hchange with
  | kept => exact h.recorded
  | moved i _ _ a _ ha heffect =>
    by_cases hkey : a.control.key = key
    · rw [(h.attempts i a ha hkey).journal_move heffect]
      exact h.recorded
    · rcases heffect.journal_cases with hsame | ⟨_, -, -, hsave⟩ | ⟨_, _, _, -, -, hsave⟩
      · rw [hsame]
        exact h.recorded
      · exact load_save_included h.recorded hincluded hsave (Ne.symm hkey)
      · exact load_save_included h.recorded hincluded hsave (Ne.symm hkey)
  | persisted n _ _ _ copy _ hn hsave =>
    refine load_save_included h.recorded hincluded hsave ?_
    rintro rfl
    exact h.reconciliations n copy hn
  | foreign _ _ _ hforeign hsave =>
    refine load_save_included h.recorded hincluded hsave ?_
    rintro rfl
    cases howns.symm.trans hforeign

theorem Settled.step (h : Settled flow key entry s) (howns : flow.owns key)
    (hincluded : entry.state = .included) (hsubmit : ∀ now, e ≠ .submit key now)
    (hstep : s.step flow e = some t) : Settled flow key entry t where
  recorded := h.recorded_step howns hincluded hstep
  attempts i a ha hkey := by
    rcases attempt_origin hstep ha with ⟨b, hb, hlater⟩ | ⟨-, now, _, he, -⟩
    · exact (h.attempts i b hb (hlater.key ▸ hkey)).later hlater
    · rw [hkey] at he
      exact absurd he (hsubmit now)
  reconciliations n copy hcopy := by
    have hchange := (changes_of_step hstep).reconcile n
    rw [hcopy] at hchange
    generalize hafter : some (ReconcileStage.loaded key copy) = after at hchange
    cases hchange with
    | kept => exact h.reconciliations n copy hafter.symm
    | loaded _ _ _ hload hstate =>
      cases hafter
      rw [h.recorded] at hload
      cases hload
      rw [hincluded] at hstate
      cases hstate
    | saved => cases hafter
    | returned => cases hafter

def quiet (flow : Flow) (key : SubmissionKey) (s : Adapter) : Bool :=
  (s.attempts.all fun a => a.control.key ≠ key || a.silent flow) &&
    s.reconciliations.all fun stage =>
      match stage with
      | .loaded key' _ => key' ≠ key
      | _ => true

theorem Settled.of_quiet (hload : s.journal.load key = some entry)
    (hquiet : s.quiet flow key) : Settled flow key entry s := by
  rw [quiet, Bool.and_eq_true, List.all_eq_true, List.all_eq_true] at hquiet
  refine ⟨hload, ?_, ?_⟩
  · intro i a ha hkey
    have hsilent := hquiet.1 a (List.mem_of_getElem? ha)
    exact .of_silent (by simpa [hkey] using hsilent)
  · intro n copy hn
    have hother := hquiet.2 _ (List.mem_of_getElem? hn)
    simp at hother

/-- **A recorded inclusion stays**, until the draft is submitted again, if no submission of it has
work in hand that writes the entry and no reconciliation has a copy of it. -/
theorem inclusion_stays (howns : flow.owns key) (hload : s.journal.load key = some entry)
    (hincluded : entry.state = .included) (hquiet : s.quiet flow key)
    (hsubmit : ∀ e ∈ es, ∀ now, e ≠ .submit key now) (hrun : run (step flow) s es = some t) :
    t.journal.load key = some entry := by
  have hC : EveryStep (Adapter.step flow) (fun _ e => ∀ now, e ≠ .submit key now) s es := by
    rintro before e after p rfl -
    exact hsubmit e (by simp)
  have hsettled : Settled flow key entry t :=
    run_invariant_of_everyStep (Settled flow key entry) (.of_quiet hload hquiet)
      (fun _ _ _ h hsubmit hstep => h.step howns hincluded hsubmit hstep) hC hrun
  exact hsettled.recorded

def entryAfter (flow : Flow) (es : List AdapterEvent) : Option JournalEntry :=
  (run (step flow) (start .empty) es).bind fun t => t.journal.load (sampleKey flow)

/-- The waiter has given up and a reconciliation has found the inclusion; the worker still runs. -/
def abandonedRun : List AdapterEvent :=
  submittingRun .registration ++ [beginning 0, .attempt 0 .timeout .none] ++
    advancing 0 .waiter 3 ++ [.reconcile (sampleKey .registration) none,
      .persist 0 (.included (hashOfByte 4) 7) none]

def aftermath : List AdapterEvent :=
  [.reconcile (sampleKey .registration) none, .get (sampleKey .registration) 5000,
    .attempt 0 (.complete (.error .submissionOutcomeUnknown)) .none] ++ advancing 0 .worker 2

theorem inclusion_stays_included :
    ∃ s t entry, run (step .registration) (start .empty) abandonedRun = some s ∧
      run (step .registration) s aftermath = some t ∧
      s.journal.load (sampleKey .registration) = some entry ∧ entry.state = .included ∧
      t.journal.load (sampleKey .registration) = some entry := by
  have hstart : (run (step .registration) (start .empty) abandonedRun).map
      (fun s => (s.quiet .registration (sampleKey .registration),
        (s.journal.load (sampleKey .registration)).map JournalEntry.state)) =
      some (true, some .included) := by
    decide +kernel
  obtain ⟨s, hrun, hpair⟩ := map_eq_some_iff.mp hstart
  rw [Prod.mk.injEq] at hpair
  obtain ⟨entry, hload, hincluded⟩ := map_eq_some_iff.mp hpair.2
  have hmore : (run (step .registration) (start .empty) (abandonedRun ++ aftermath)).isSome := by
    decide +kernel
  rw [run_append, hrun, bind_some] at hmore
  obtain ⟨t, ht⟩ := isSome_iff_exists.mp hmore
  refine ⟨s, t, entry, hrun, ht, hload, hincluded, ?_⟩
  have howns : Flow.registration.owns (sampleKey .registration) := by
    decide +kernel
  exact inclusion_stays howns hload hincluded hpair.1 (by simp [aftermath, advancing]) ht

def copiedRun (flow : Flow) : List AdapterEvent :=
  submittingRun flow ++ [beginning 0, .reconcile (sampleKey flow) none,
    .attempt 0 (.complete (.ok sampleOutcome)) .none] ++ advancing 0 .worker 3

def reconciledRun (flow : Flow) : List AdapterEvent :=
  submittingRun flow ++ [beginning 0, .reconcile (sampleKey flow) none,
    .persist 0 (.included (hashOfByte 4) 7) none]

def overwriting (flow : Flow) : List (Option (StoredSubmissionState × Option Bytes32)) :=
  [copiedRun flow, copiedRun flow ++ [.persist 0 .unresolved none], reconciledRun flow,
    reconciledRun flow ++ [.attempt 0 (.complete (.error .submissionOutcomeUnknown)) .none] ++
      advancing 0 .worker 2].map fun es =>
    (entryAfter flow es).map fun entry => (entry.state, entry.blockHash)

/-- In both flows a reconciliation overwrites the inclusion that the worker has recorded, and
a worker the one that a reconciliation has recorded. -/
theorem inclusion_overwritten : overwriting .transfer =
        [some (.included, some (hashOfByte 4)), some (.outcomeUnknown, none),
          some (.included, some (hashOfByte 4)), some (.outcomeUnknown, none)] ∧
      overwriting .registration =
        [some (.included, some (hashOfByte 4)), some (.outcomeUnknown, none),
          some (.included, some (hashOfByte 4)), some (.outcomeUnknown, none)] := by
  decide +kernel

end Settled
end Adapter
end Oxid.Midnight
