import Oxid.Midnight.AdapterSteps

/-!
# Records of unknown outcomes

A reconciliation needs the journal entry that `begin_broadcast` writes.  A crash, a waiter
that gives up and a completer that returns may leave the outcome unknown before it.
-/

namespace Oxid.Midnight
open Foundation Wallet PassportVault Transaction Transition Option

def SubmissionPhase.publicState : SubmissionPhase → SubmissionState
  | .working => .running
  | .cancellationRequested => .cancellationRequested
  | .broadcasting => .broadcasting
  | .terminal => .outcomeUnknown

def Adapter.reported (s : Adapter) (retained : RetainedDraft) : Option SubmissionState :=
  if retained.submissionState = .running then do
    let i ← retained.submissionControl
    let a ← s.attempts[i]?
    return a.control.phase.publicState
  else some retained.submissionState

namespace Attempt

def crossed (a : Attempt) : AttemptMove → Bool
  | .crash | .timeout | .complete (.ok _) | .complete (.error .submissionOutcomeUnknown) => a.passed
  | _ => true

def Innocent : Act → Prop
  | .update update => update.unsettles = false
  | .terminate => False

structure Unsent (a : Attempt) : Prop where
  worker : a.worker ≠ .crashed
  phase : a.control.phase = .working ∨ a.control.phase = .cancellationRequested
  tasks : ∀ party task, a.task party = some task → task.Every (· = false) Innocent

section Unsent
variable {flow : Flow} {a : Attempt} {journal : Journal} {move : AttemptMove} {moved : Moved}

theorem unsent_new (key : SubmissionKey) (attempt : SubmissionAttempt) :
    (new key attempt).Unsent where
  worker := nofun
  phase := .inl rfl
  tasks party _ h := by cases party <;> cases h

theorem Unsent.cancelled (h : a.Unsent) (journal : Journal) : (a.cancelled journal).Unsent := by
  refine ⟨h.worker, ?_, h.tasks⟩
  rcases cancelled_cases a journal with heq | ⟨-, heq⟩
  · rw [heq]
    exact h.phase
  · rw [heq]
    exact .inr rfl

theorem finish_innocent {result} (hpassed : a.passed = false) (h : a.crossed (.complete result)) :
    (flow.finish result).Every (· = false) Innocent := by
  cases result with
  | ok => cases hpassed.symm.trans h
  | error e =>
    have hunknown : e ≠ .submissionOutcomeUnknown := by
      rintro rfl
      cases hpassed.symm.trans h
    cases flow <;> cases e <;> first
      | exact absurd rfl hunknown
      | simp [Flow.finish, finishSubmission, finishRegistration, Task.Every, Innocent,
          DraftUpdate.unsettles]

theorem Unsent.of_move (h : a.Unsent) (hpassed : a.passed = false)
    (hpassed' : moved.attempt.passed = false) (hC : a.crossed move)
    (heffect : a.Effect flow journal move moved) : moved.attempt.Unsent where
  worker hworker := by
    cases heffect with
    | crashed => cases hpassed.symm.trans hC
    | spawned | spawnFailed | completed => cases hworker
    | begun | notBegun | delivered | lost | timedOut | dropped => exact h.worker hworker
    | advanced party _ _ _ hadvanced =>
      cases party with
      | waiter => exact h.worker (hadvanced.worker ▸ hworker)
      | worker => cases hadvanced <;> cases hworker
  phase := by
    rcases heffect.phase with hsame | ⟨-, hphase⟩ | ⟨-, -, -, htrue⟩ | hterminal
    · rw [hsame]
      exact h.phase
    · exact .inr hphase
    · cases hpassed'.symm.trans htrue
    · rcases heffect.terminal h.tasks hterminal with hwas | habsurd
      · rcases h.phase with hphase | hphase <;> cases hwas.symm.trans hphase
      · exact habsurd.elim
  tasks party := by
    refine heffect.every (h.tasks party) (fun task hbegins => ?_) fun _ _ _ _ => ?_
    · cases hbegins with
      | completed => exact finish_innocent hpassed hC
      | lost =>
        cases heffect with
        | lost hworker => exact absurd hworker h.worker
      | timedOut => cases hpassed.symm.trans hC
    · rw [decide_eq_false_iff_not]
      rcases h.phase with hphase | hphase <;> simp [hphase]

end Unsent
end Attempt

/-! ## What the journal has of a draft -/

def ReconcileStage.about : ReconcileStage → Option SubmissionKey
  | .loaded key _ | .saved key _ => some key
  | .returned => none

namespace Adapter

structure Records (key : SubmissionKey) (s : Adapter) : Prop where
  untouched : (∀ (i : ℕ) a, s.attempts[i]? = some a → a.control.key ≠ key) →
    s.journal.load key = none ∧
      ∀ (n : ℕ) stage, s.reconciliations[n]? = some stage → stage.about ≠ some key
  passed : ∀ (i : ℕ) a, s.attempts[i]? = some a → a.control.key = key → a.passed →
    (s.drafts.get key).isSome → (s.journal.load key).isSome
  copied : ∀ (n : ℕ) stage, s.reconciliations[n]? = some stage → stage.about = some key →
    (s.drafts.get key).isSome → (s.journal.load key).isSome
  unknown : ∀ retained, s.drafts.get key = some retained →
    retained.submissionState = .outcomeUnknown → (s.journal.load key).isSome
  control : ∀ retained i, s.drafts.get key = some retained →
    retained.submissionControl = some i → ∃ a, s.attempts[i]? = some a ∧ a.control.key = key

/-- The key of the record that the event may save. -/
def saves (s : Adapter) : AdapterEvent → Option SubmissionKey
  | .attempt i (.beginBroadcast _) _ | .attempt i (.advance _) _ =>
    s.attempts[i]?.map fun a => a.control.key
  | .persist n _ _ => s.reconciliations[n]?.bind ReconcileStage.about
  | .foreign key _ => some key
  | _ => none

/-- If the event saves a record under a new key, none that it may evict is of a retained draft. -/
def keepsRecords (s : Adapter) (e : AdapterEvent) : Bool :=
  (s.saves e).all fun key => (s.journal.load key).isSome || s.journal.entries.all fun stored =>
    !s.journal.mayEvict stored || (s.drafts.get stored.1).isNone

section Records
variable {flow : Flow} {s t : Adapter} {e : AdapterEvent} {es : List AdapterEvent}
  {key : SubmissionKey} {journal : Journal} {retained : RetainedDraft}

theorem isSome_save {key' : SubmissionKey} {entry : JournalEntry}
    (hkeeps : s.keepsRecords e) (hsaves : s.saves e = some key')
    (hsave : s.journal.save key' entry = .ok journal)
    (hdraft : (s.drafts.get key).isSome) (hload : (s.journal.load key).isSome) :
    (journal.load key).isSome := by
  refine Journal.isSome_load_save hsave hload fun hnew old hold => ?_
  rw [keepsRecords, hsaves, all_some, hnew, isSome_none, Bool.false_or, List.all_eq_true] at hkeeps
  have hspared := hkeeps (key, old) (Journal.mem_entries_iff.mpr hold)
  rw [isNone_eq_false_iff.mpr hdraft, Bool.or_false] at hspared
  simpa using hspared

theorem isSome_of_keepsRecords (hkeeps : s.keepsRecords e)
    (h : s.step flow e = some t) (hdraft : (t.drafts.get key).isSome)
    (hload : (s.journal.load key).isSome) : (t.journal.load key).isSome := by
  have hchange := (changes_of_step h).journal
  rcases draft_origin h hdraft with hold | ⟨n, terms, rfl, -⟩
  · generalize t.journal = after at hchange
    cases hchange with
    | kept => exact hload
    | moved i _ _ a _ ha heffect =>
      cases heffect with
      | begun _ _ _ _ hsave => exact isSome_save hkeeps (by simp [saves, ha]) hsave hold hload
      | advanced _ _ _ _ hadvanced =>
        rcases hadvanced.journal_cases with hsame | ⟨entry, -, hsave⟩
        · rw [hsame]
          exact hload
        · exact isSome_save hkeeps (by simp [saves, ha]) hsave hold hload
      | _ => exact hload
    | persisted _ _ _ _ _ _ hn hsave =>
      exact isSome_save hkeeps (by simp [saves, hn, ReconcileStage.about]) hsave hold hload
    | foreign _ _ _ _ hsave => exact isSome_save hkeeps rfl hsave hold hload
  · -- a step that retains a draft saves nothing
    generalize t.journal = after at hchange
    cases hchange
    exact hload

theorem blank_of_new (hfresh : Fresh es key s) (h : s.step flow e = some t)
    (hdraft : (t.drafts.get key).isSome) : (s.drafts.get key).isSome ∨ s.Blank key := by
  rcases draft_origin h hdraft with hold | ⟨n, terms, -, hn⟩
  · exact .inl hold
  · exact .inr (hfresh.planned n terms hn)

theorem Records.untouched_step (hrecords : Records key s) (howns : flow.owns key)
    (h : s.step flow e = some t)
    (hnone : ∀ (i : ℕ) a, t.attempts[i]? = some a → a.control.key ≠ key) :
    t.journal.load key = none ∧
      ∀ (n : ℕ) stage, t.reconciliations[n]? = some stage → stage.about ≠ some key := by
  have hbefore : ∀ (i : ℕ) a, s.attempts[i]? = some a → a.control.key ≠ key := by
    intro i a ha hkey
    obtain ⟨b, hb, hlater⟩ := attempt_persists h ha
    exact hnone i b hb (hlater.key.trans hkey)
  obtain ⟨hload, hstages⟩ := hrecords.untouched hbefore
  have hsaved : ∀ {journal' : Journal} {key' : SubmissionKey} {entry : JournalEntry},
      s.journal.save key' entry = .ok journal' → key ≠ key' → journal'.load key = none := by
    intro journal' key' entry hsave hne
    rcases Journal.load_save_of_ne hsave hne with hsame | ⟨hgone, -⟩
    · exact hsame.trans hload
    · exact hgone
  constructor
  · have hchange := (changes_of_step h).journal
    generalize t.journal = after at hchange
    cases hchange with
    | kept => exact hload
    | moved i _ _ a _ ha heffect =>
      have hne : key ≠ a.control.key := fun heq => hbefore i a ha heq.symm
      rcases heffect.journal_cases with hsame | ⟨_, -, -, hsave⟩ | ⟨_, _, _, -, -, hsave⟩
      · rw [hsame]
        exact hload
      · exact hsaved hsave hne
      · exact hsaved hsave hne
    | persisted n _ _ _ _ _ hn hsave =>
      refine hsaved hsave ?_
      rintro rfl
      exact hstages n _ hn rfl
    | foreign _ _ _ hforeign hsave =>
      refine hsaved hsave ?_
      rintro rfl
      cases howns.symm.trans hforeign
  · intro n stage hstage
    have hchange := (changes_of_step h).reconcile n
    rw [hstage] at hchange
    generalize hafter : some stage = after at hchange
    cases hchange with
    | kept => exact hstages n stage hafter.symm
    | loaded _ _ _ hload' =>
      cases hafter
      intro heq
      cases heq
      rw [hload] at hload'
      cases hload'
    | saved _ _ key' entry _ hn =>
      cases hafter
      exact hstages n (.loaded key' entry) hn
    | returned =>
      cases hafter
      nofun

theorem load_of_passed {a : Attempt} {move} {moved : Moved}
    (heffect : a.Effect flow journal move moved) (hpassed : a.passed = false)
    (hpassed' : moved.attempt.passed) : (moved.journal.load a.control.key).isSome := by
  cases heffect with
  | begun _ _ _ _ hsave =>
    rw [Journal.load_save_barrier hsave rfl]
    rfl
  | advanced _ _ _ _ hadvanced =>
    rw [hadvanced.passed, hpassed] at hpassed'
    cases hpassed'
  | _ => cases hpassed.symm.trans hpassed'

theorem Records.passed_step (hrecords : Records key s) (hfresh : Fresh es key s)
    (hkeeps : s.keepsRecords e) (h : s.step flow e = some t) {i : ℕ} {a : Attempt}
    (ha : t.attempts[i]? = some a) (hkey : a.control.key = key) (hpassed : a.passed)
    (hdraft : (t.drafts.get key).isSome) : (t.journal.load key).isSome := by
  have hold : ∀ b, s.attempts[i]? = some b → b.control.key = key → b.passed →
      (t.journal.load key).isSome := by
    intro b hb hkeyb hpassedb
    rcases blank_of_new hfresh h hdraft with hbefore | hblank
    · exact isSome_of_keepsRecords hkeeps h hdraft (hrecords.passed i b hb hkeyb hpassedb hbefore)
    · exact absurd hkeyb (hblank.2 i b hb)
  have hchange := (changes_of_step h).attempt i
  rw [ha] at hchange
  generalize hafter : some a = after at hchange
  cases hchange with
  | kept => exact hold a hafter.symm hkey hpassed
  | started =>
    cases hafter
    cases hpassed
  | cancelled _ b hb =>
    cases hafter
    exact hold b hb ((Attempt.key_cancelled b s.journal).symm.trans hkey) hpassed
  | moved _ _ b _ hb heffect hjournal =>
    cases hafter
    have hkeyb : b.control.key = key := heffect.key.symm.trans hkey
    cases hpassedb : b.passed with
    | true => exact hold b hb hkeyb hpassedb
    | false =>
      rw [hjournal, ← hkeyb]
      exact load_of_passed heffect hpassedb hpassed

theorem Records.copied_step (hrecords : Records key s) (hfresh : Fresh es key s)
    (hkeeps : s.keepsRecords e) (h : s.step flow e = some t) {n : ℕ}
    {stage : ReconcileStage} (hstage : t.reconciliations[n]? = some stage)
    (habout : stage.about = some key) (hdraft : (t.drafts.get key).isSome) :
    (t.journal.load key).isSome := by
  have hold : ∀ stage, s.reconciliations[n]? = some stage → stage.about = some key →
      (t.journal.load key).isSome := by
    intro stage hstage habout
    rcases blank_of_new hfresh h hdraft with hbefore | hblank
    · exact isSome_of_keepsRecords hkeeps h hdraft (hrecords.copied n stage hstage habout hbefore)
    · exact absurd habout ((hrecords.untouched hblank.2).2 n stage hstage)
  have hchange := (changes_of_step h).reconcile n
  rw [hstage] at hchange
  generalize hafter : some stage = after at hchange
  cases hchange with
  | kept => exact hold stage hafter.symm habout
  | loaded _ _ _ hload =>
    cases hafter
    cases habout
    exact isSome_of_keepsRecords hkeeps h hdraft (by rw [hload]; rfl)
  | saved _ _ key' entry _ hn =>
    cases hafter
    exact hold (.loaded key' entry) hn habout
  | returned =>
    cases hafter
    cases habout

theorem passed_of_unsettles {a : Attempt} {move moved} {update : DraftUpdate}
    (hunsent : a.passed = false → a.Unsent) (heffect : a.Effect flow journal move moved)
    (hupdate : moved.update = some update) (hunsettles : update.unsettles) : a.passed := by
  by_contra hpassed
  rw [Bool.not_eq_true] at hpassed
  rcases heffect.update hupdate with ⟨-, -, -, -, rfl⟩ | ⟨party, missing, -, htask, -⟩
  · cases hunsettles
  · have hinnocent := ((hunsent hpassed).tasks party _ htask).1
    rw [Attempt.Innocent, hunsettles] at hinnocent
    cases hinnocent

theorem Records.unknown_step (hrecords : Records key s)
    (hunsent : ∀ (i : ℕ) a, s.attempts[i]? = some a → a.passed = false → a.Unsent)
    (hkeeps : s.keepsRecords e) (h : s.step flow e = some t)
    (hretained : t.drafts.get key = some retained)
    (hunknown : retained.submissionState = .outcomeUnknown) : (t.journal.load key).isSome := by
  have hdraft : (t.drafts.get key).isSome := by
    rw [hretained]
    rfl
  refine isSome_of_keepsRecords hkeeps h hdraft ?_
  have hchange := (changes_of_step h).draft key
  rw [hretained] at hchange
  generalize hsome : some retained = after at hchange
  cases hchange with
  | kept => exact hrecords.unknown retained hsome.symm hunknown
  | retained =>
    cases hsome
    cases hunknown
  | authorized _ _ _ before hbefore =>
    cases hsome
    exact hrecords.unknown before hbefore (Flow.reports_authorize.1 hunknown)
  | submitted now before hbefore =>
    cases hsome
    rcases flow.submit_leaves now s.attempts.length before with
      ⟨-, heq⟩ | ⟨-, -, heq⟩ | ⟨-, -, heq⟩
    · rw [heq] at hunknown
      exact hrecords.unknown before hbefore hunknown
    · rw [heq] at hunknown
      exact hrecords.unknown before hbefore ((flow.reports_expire).1 hunknown)
    · rw [heq] at hunknown
      cases hunknown
  | got _ before hbefore =>
    cases hsome
    exact hrecords.unknown before hbefore (Flow.reports_get.1 hunknown)
  | cancelled =>
    cases hsome
    cases hunknown
  | updated i _ _ a _ update before ha hkey heffect hupdate hbefore =>
    cases hunsettles : update.unsettles with
    | false =>
      exact hrecords.unknown before hbefore ((Flow.reports_update hsome.symm hunsettles).1 hunknown)
    | true =>
      have hpassed := passed_of_unsettles (hunsent i a ha) heffect hupdate hunsettles
      exact hrecords.passed i a ha hkey hpassed (by rw [hbefore]; rfl)
  | settled n _ _ hn hbefore => exact hrecords.copied n _ hn rfl (by rw [hbefore]; rfl)

theorem Records.control_step (hrecords : Records key s) (h : s.step flow e = some t) {i}
    (hretained : t.drafts.get key = some retained)
    (hcontrol : retained.submissionControl = some i) :
    ∃ a, t.attempts[i]? = some a ∧ a.control.key = key := by
  have hold : ∀ before, s.drafts.get key = some before → before.submissionControl = some i →
      ∃ a, t.attempts[i]? = some a ∧ a.control.key = key := by
    intro before hbefore hi
    obtain ⟨a, ha, hkey⟩ := hrecords.control before i hbefore hi
    obtain ⟨b, hb, hlater⟩ := attempt_persists h ha
    exact ⟨b, hb, hlater.key.trans hkey⟩
  have hchange := (changes_of_step h).draft key
  rw [hretained] at hchange
  generalize hsome : some retained = after at hchange
  cases hchange with
  | kept => exact hold retained hsome.symm hcontrol
  | retained =>
    cases hsome
    cases hcontrol
  | authorized _ _ _ before hbefore =>
    cases hsome
    exact hold before hbefore (Flow.reports_authorize.2 i hcontrol)
  | submitted now before hbefore hstarted =>
    cases hsome
    rcases flow.submit_leaves now s.attempts.length before with
      ⟨-, heq⟩ | ⟨-, -, heq⟩ | ⟨hattempt, -, heq⟩
    · rw [heq] at hcontrol
      exact hold before hbefore hcontrol
    · rw [heq] at hcontrol
      exact hold before hbefore ((flow.reports_expire).2 i hcontrol)
    · rw [heq] at hcontrol
      cases hcontrol
      exact ⟨_, hstarted _ hattempt, rfl⟩
  | got _ before hbefore =>
    cases hsome
    exact hold before hbefore (Flow.reports_get.2 i hcontrol)
  | cancelled before hbefore =>
    cases hsome
    exact hold before hbefore hcontrol
  | updated j _ _ a _ _ before _ _ _ _ hbefore =>
    exact hold before hbefore (Flow.control_update hsome.symm hcontrol)
  | settled n _ before _ hbefore =>
    exact hold before hbefore (control_reconcileDraft hsome.symm hcontrol)

theorem Records.step (hrecords : Records key s) (hfresh : Fresh es key s) (howns : flow.owns key)
    (hunsent : ∀ (i : ℕ) a, s.attempts[i]? = some a → a.passed = false → a.Unsent)
    (hkeeps : s.keepsRecords e) (h : s.step flow e = some t) : Records key t where
  untouched := hrecords.untouched_step howns h
  passed _ _ := hrecords.passed_step hfresh hkeeps h
  copied _ _ := hrecords.copied_step hfresh hkeeps h
  unknown _ := hrecords.unknown_step hunsent hkeeps h
  control _ _ := hrecords.control_step h

theorem unsent_of_run (hcrossed : EveryStep (step flow) (fun s e => movesMeet Attempt.crossed s e)
      (start journal) es) (hrun : run (step flow) (start journal) es = some t) :
    ∀ (i : ℕ) a, t.attempts[i]? = some a → a.passed = false → a.Unsent := by
  refine attempts_invariant (I := fun a => a.passed = false → a.Unsent)
    (fun key attempt _ => Attempt.unsent_new key attempt)
    (fun _ journal h hpassed => (h hpassed).cancelled journal) ?_ (fun _ _ h => by cases h)
    hcrossed hrun
  intro a journal move moved h hC heffect hpassed
  rcases heffect.passed with heq | ⟨htrue, -⟩
  · have hbefore : a.passed = false := heq ▸ hpassed
    exact (h hbefore).of_move hbefore hpassed hC heffect
  · cases hpassed.symm.trans htrue

theorem owns_of_run (hrun : run (step flow) (start journal) es = some t) :
    (∀ key, (t.drafts.get key).isSome → flow.owns key) ∧
      ∀ (n : ℕ) key terms, t.planned[n]? = some (some (key, terms)) → flow.owns key := by
  refine run_induction (motive := fun _ t =>
    (∀ key, (t.drafts.get key).isSome → flow.owns key) ∧
      ∀ (n : ℕ) key terms, t.planned[n]? = some (some (key, terms)) → flow.owns key)
    ⟨fun _ h => (by cases h), fun _ _ _ h => (by cases h)⟩ ?_ es t hrun
  rintro - s e t - ⟨hdrafts, hplanned⟩ hstep
  constructor
  · intro key hdraft
    rcases draft_origin hstep hdraft with hold | ⟨n, terms, -, hn⟩
    · exact hdrafts key hold
    · exact hplanned n key terms hn
  · intro n key terms hn
    have hchange := (changes_of_step hstep).planned n
    rw [hn] at hchange
    generalize hafter : some (some (key, terms)) = after at hchange
    cases hchange with
    | kept => exact hplanned n key terms hafter.symm
    | planned _ _ _ _ howns =>
      cases hafter
      exact howns
    | retained => cases hafter

theorem records_start (hnew : journal.load key = none) : Records key (start journal) where
  untouched _ := ⟨hnew, fun _ _ h => by cases h⟩
  passed _ _ h := by cases h
  copied _ _ h := by cases h
  unknown _ h := by cases h
  control _ _ h := by cases h

theorem records_of_run (hdistinct : DistinctDrafts es) (hnew : journal.load key = none)
    (howns : flow.owns key)
    (hcrossed : EveryStep (step flow) (fun s e => movesMeet Attempt.crossed s e) (start journal) es)
    (hkeeps : EveryStep (step flow) (fun s e => s.keepsRecords e) (start journal) es)
    (hrun : run (step flow) (start journal) es = some t) : Records key t := by
  refine run_induction_while (H := fun es => DistinctDrafts es ∧
    EveryStep (Adapter.step flow) (fun s e => movesMeet Attempt.crossed s e)
      (start journal) es ∧
    EveryStep (Adapter.step flow) (fun s e => s.keepsRecords e) (start journal) es)
    (motive := fun _ t => Records key t)
    (fun _ _ h => ⟨h.1.of_concat, h.2.1.of_concat, h.2.2.of_concat⟩) (records_start hnew) ?_
    ⟨hdistinct, hcrossed, hkeeps⟩ hrun
  rintro es p e q ⟨hdistinct, hcrossed, hkeeps⟩ hp ih hstep
  exact ih.step (fresh_of_run hdistinct.of_concat hp key) howns
    (unsent_of_run hcrossed.of_concat hp) (hkeeps.last hp) hstep

/-- **Unknown outcomes are recorded.**  If crashes, waiters that give up and claimed outcomes come
after `begin_broadcast`, no record of a retained draft is evicted, and drafts have ids of their own,
then a retained draft with an unknown outcome has an entry in the journal. -/
theorem unknown_outcome_recorded (hdistinct : DistinctDrafts es)
    (hnew : ∀ key ∈ es.filterMap prepares, journal.load key = none)
    (hcrossed : EveryStep (step flow) (fun s e => movesMeet Attempt.crossed s e) (start journal) es)
    (hkeeps : EveryStep (step flow) (fun s e => s.keepsRecords e) (start journal) es)
    (hrun : run (step flow) (start journal) es = some t)
    (hretained : t.drafts.get key = some retained)
    (hreported : t.reported retained = some .outcomeUnknown) : (t.journal.load key).isSome := by
  have hdraft : (t.drafts.get key).isSome := by
    rw [hretained]
    rfl
  have hplanned : key ∈ es.filterMap prepares := by
    by_contra hkey
    have hblank := ((fresh_of_run hdistinct hrun key).unplanned hkey).1
    cases hblank.1.symm.trans hretained
  have hrecords := records_of_run hdistinct (hnew key hplanned) ((owns_of_run hrun).1 key hdraft)
    hcrossed hkeeps hrun
  rw [reported] at hreported
  split_ifs at hreported
  · -- The draft is running, and its control has ended: it was broadcast.
    simp only [bind_eq_bind, bind_eq_some_iff, pure_def, some.injEq] at hreported
    obtain ⟨i, hcontrol, a, ha, hphase⟩ := hreported
    obtain ⟨b, hb, hkey⟩ := hrecords.control retained i hretained hcontrol
    rw [ha] at hb
    cases hb
    refine hrecords.passed i a ha hkey ?_ hdraft
    by_contra hpassed
    rw [Bool.not_eq_true] at hpassed
    rcases (unsent_of_run hcrossed hrun i a ha hpassed).phase with h | h <;>
      · rw [h] at hphase
        cases hphase
  · exact hrecords.unknown retained hretained (some.inj hreported)

def unknownRun (flow : Flow) : List AdapterEvent :=
  submittingRun flow ++ [beginning 0,
    .attempt 0 (.complete (.error .submissionOutcomeUnknown)) .none] ++ advancing 0 .worker 3

theorem unknown_outcome_recorded_broadcast :
    ∃ t retained, run (step .transfer) (start .empty) (unknownRun .transfer) = some t ∧
      t.drafts.get (sampleKey .transfer) = some retained ∧
      t.reported retained = some .outcomeUnknown ∧
      (t.journal.load (sampleKey .transfer)).isSome := by
  have hreports : (run (step .transfer) (start .empty) (unknownRun .transfer)).bind (fun t =>
      (t.drafts.get (sampleKey .transfer)).map t.reported) = some (some .outcomeUnknown) := by
    decide +kernel
  obtain ⟨t, hrun, hdraft⟩ := bind_eq_some_iff.mp hreports
  obtain ⟨retained, hretained, hreported⟩ := map_eq_some_iff.mp hdraft
  refine ⟨t, retained, hrun, hretained, hreported, ?_⟩
  exact unknown_outcome_recorded (by decide +kernel) (fun _ _ => Journal.load_empty)
    (by decide +kernel) (by decide +kernel) hrun hretained hreported

def crashedRun : List AdapterEvent :=
  submittingRun .transfer ++ [.attempt 0 .crash .none, .attempt 0 .lose .none] ++
    advancing 0 .waiter 2

def provingRun : List AdapterEvent :=
  submittingRun .registration ++ [.attempt 0 .timeout .none] ++ advancing 0 .waiter 2

def reportAfter (flow : Flow) (es : List AdapterEvent) : Option (Option SubmissionState × Bool) :=
  (run (step flow) (start .empty) es).bind fun t =>
    (t.drafts.get (sampleKey flow)).map fun retained =>
      (t.reported retained, (t.journal.load (sampleKey flow)).isSome)

/-- In both flows the outcome of a submission that was never broadcast is reported as unknown,
and the journal has no entry for it. -/
theorem unknown_outcome_unrecorded :
    reportAfter .transfer crashedRun = some (some .outcomeUnknown, false) ∧
      reportAfter .registration provingRun = some (some .outcomeUnknown, false) := by
  decide +kernel

end Records
end Adapter
end Oxid.Midnight
