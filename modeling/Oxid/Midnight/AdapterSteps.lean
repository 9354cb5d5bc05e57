import Oxid.Midnight.SubmissionSteps
import Oxid.Slots

/-!
# The steps of the adapter

What the ports, the parties of the submissions and the reconciliations can do in one step, as
inventories.  The safety proofs split on these, and never unfold `Adapter.step`.
-/

namespace Oxid.Midnight
open Foundation Wallet PassportVault Slots Transaction Transition Option List

variable {key : SubmissionKey} {fault : Option SubmissionJournalStoreError} {n : ℕ}

namespace Adapter

section Steps
variable {flow : Flow} {s t : Adapter} {e : AdapterEvent}

theorem get_changeDraft (s : Adapter) (key key' : SubmissionKey)
    (f : RetainedDraft → RetainedDraft) : (s.changeDraft key f).drafts.get key' =
      if key' = key then (s.drafts.get key').map f else s.drafts.get key' := by
  simp [changeDraft]

section
variable (f : RetainedDraft → Option RetainedDraft)

theorem get_replaceDraft (s : Adapter) (key key' : SubmissionKey) :
    (s.replaceDraft key f).drafts.get key' =
      if key' = key then (s.drafts.get key').bind f else s.drafts.get key' := by
  rw [replaceDraft]
  split
  · rename_i retained h
    rw [get_changeDraft]
    split_ifs with hkey
    · rw [hkey, h]
      obtain ⟨before, hbefore, -⟩ := bind_eq_some_iff.mp h
      rw [hbefore, map_some]
    · rfl
  · rename_i h
    rw [Rows.get_erase]
    split_ifs with hkey
    · rw [hkey, h]
    · rfl

@[simp] theorem replaceDraft_attempts (s : Adapter) (key : SubmissionKey) :
    (s.replaceDraft key f).attempts = s.attempts := by
  rw [replaceDraft]
  split <;> rfl

@[simp] theorem replaceDraft_journal (s : Adapter) (key : SubmissionKey) :
    (s.replaceDraft key f).journal = s.journal := by
  rw [replaceDraft]
  split <;> rfl

@[simp] theorem replaceDraft_planned (s : Adapter) (key : SubmissionKey) :
    (s.replaceDraft key f).planned = s.planned := by
  rw [replaceDraft]
  split <;> rfl

@[simp] theorem replaceDraft_reconciliations (s : Adapter) (key : SubmissionKey) :
    (s.replaceDraft key f).reconciliations = s.reconciliations := by
  rw [replaceDraft]
  split <;> rfl

end

/-- What an event can make of the draft that is retained under `key`. -/
inductive DraftChange (flow : Flow) (s t : Adapter) (key : SubmissionKey) :
    AdapterEvent → Option RetainedDraft → Prop
  | kept (e : AdapterEvent) : DraftChange flow s t key e (s.drafts.get key)
  | retained (n : ℕ) (terms) (h : s.planned[n]? = some (some (key, terms))) :
      DraftChange flow s t key (.retain n) (some terms.retained)
  | authorized (challenge) (now : UInt64) (signed : Except TransactionPortError Transaction)
      (before : RetainedDraft) (h : s.drafts.get key = some before) :
      DraftChange flow s t key (.authorize key challenge now signed)
        (some (flow.authorize challenge now signed before))
  | submitted (now : UInt64) (before : RetainedDraft) (h : s.drafts.get key = some before)
      (hstarted : ∀ attempt, (flow.submit now s.attempts.length before).1 = some attempt →
        t.attempts[s.attempts.length]? = some (.new key attempt)) :
      DraftChange flow s t key (.submit key now)
        (some (flow.submit now s.attempts.length before).2)
  | got (now : UInt64) (before : RetainedDraft) (h : s.drafts.get key = some before) :
      DraftChange flow s t key (.get key now) (some (flow.get now before))
  | cancelled (before : RetainedDraft) (h : s.drafts.get key = some before) :
      DraftChange flow s t key (.cancel key)
        (some { before with submissionState := .cancellationRequested })
  | updated (i : ℕ) (move : AttemptMove) (faults : JournalFaults) (a : Attempt) (moved : Moved)
      (update : DraftUpdate) (before : RetainedDraft) (ha : s.attempts[i]? = some a)
      (hkey : a.control.key = key) (heffect : a.Effect flow s.journal move moved)
      (hupdate : moved.update = some update) (h : s.drafts.get key = some before)
      (hmoved : t.attempts[i]? = some moved.attempt) :
      DraftChange flow s t key (.attempt i move faults) (flow.update update before)
  | settled (n : ℕ) (entry : JournalEntry) (before : RetainedDraft)
      (hn : s.reconciliations[n]? = some (.saved key entry)) (h : s.drafts.get key = some before) :
      DraftChange flow s t key (.settle n) (reconcileDraft entry before)

/-- What an event can make of the attempt with number `i`. -/
inductive AttemptChange (flow : Flow) (s t : Adapter) (i : ℕ) : AdapterEvent → Option Attempt → Prop
  | kept (e : AdapterEvent) : AttemptChange flow s t i e s.attempts[i]?
  | started (key : SubmissionKey) (now retained) (attempt : SubmissionAttempt)
      (hi : i = s.attempts.length) (hdraft : s.drafts.get key = some retained)
      (h : (flow.submit now s.attempts.length retained).1 = some attempt)
      (hafter : t.drafts.get key = some (flow.submit now s.attempts.length retained).2) :
      AttemptChange flow s t i (.submit key now) (some (.new key attempt))
  | moved (move : AttemptMove) (faults : JournalFaults) (a : Attempt) (moved : Moved)
      (ha : s.attempts[i]? = some a) (heffect : a.Effect flow s.journal move moved)
      (hjournal : t.journal = moved.journal) :
      AttemptChange flow s t i (.attempt i move faults) (some moved.attempt)
  | cancelled (key : SubmissionKey) (a : Attempt) (ha : s.attempts[i]? = some a) :
      AttemptChange flow s t i (.cancel key) (some (a.cancelled s.journal))

inductive JournalChange (flow : Flow) (s : Adapter) : AdapterEvent → Journal → Prop
  | kept (e : AdapterEvent) : JournalChange flow s e s.journal
  | moved (i move faults) (a : Attempt) (moved : Moved) (ha : s.attempts[i]? = some a)
      (heffect : a.Effect flow s.journal move moved) :
      JournalChange flow s (.attempt i move faults) moved.journal
  | persisted (n : ℕ) (outcome : Reconciliation) (fault : Option SubmissionJournalStoreError)
      (key : SubmissionKey) (entry : JournalEntry) (journal : Journal)
      (hn : s.reconciliations[n]? = some (.loaded key entry))
      (h : s.journal.save key (outcome.apply entry) = .ok journal) :
      JournalChange flow s (.persist n outcome fault) journal
  | foreign (key : SubmissionKey) (entry : JournalEntry) (journal : Journal)
      (hforeign : flow.owns key = false) (h : s.journal.save key entry = .ok journal) :
      JournalChange flow s (.foreign key entry) journal

/-- What an event can make of the reconciliation with number `n`. -/
inductive ReconcileChange (flow : Flow) (s : Adapter) (n : ℕ) :
    AdapterEvent → Option ReconcileStage → Prop
  | kept (e : AdapterEvent) : ReconcileChange flow s n e s.reconciliations[n]?
  | loaded (key : SubmissionKey) (fault entry) (h : s.journal.load key = some entry)
      (hstate : entry.state.reconcilable) :
      ReconcileChange flow s n (.reconcile key fault) (some (.loaded key entry))
  | saved (outcome : Reconciliation) (fault : Option SubmissionJournalStoreError)
      (key : SubmissionKey) (entry : JournalEntry) (journal : Journal)
      (hn : s.reconciliations[n]? = some (.loaded key entry))
      (h : s.journal.save key (outcome.apply entry) = .ok journal) :
      ReconcileChange flow s n (.persist n outcome fault) (some (.saved key (outcome.apply entry)))
  | returned (e : AdapterEvent) : ReconcileChange flow s n e (some .returned)

inductive PlannedChange (flow : Flow) (s : Adapter) (n : ℕ) :
    AdapterEvent → Option (Option (SubmissionKey × DraftTerms)) → Prop
  | kept (e : AdapterEvent) : PlannedChange flow s n e s.planned[n]?
  | planned (key : SubmissionKey) (terms) (fault : Option SubmissionJournalStoreError)
      (hn : n = s.planned.length) (h : flow.owns key) :
      PlannedChange flow s n (.prepare key terms fault) (some (some (key, terms)))
  | retained : PlannedChange flow s n (.retain n) (some none)

/-- The inventories of one step together. -/
structure Changes (flow : Flow) (s : Adapter) (e : AdapterEvent) (t : Adapter) : Prop where
  draft : ∀ key, DraftChange flow s t key e (t.drafts.get key)
  attempt : ∀ i, AttemptChange flow s t i e t.attempts[i]?
  journal : JournalChange flow s e t.journal
  reconcile : ∀ n, ReconcileChange flow s n e t.reconciliations[n]?
  planned : ∀ n, PlannedChange flow s n e t.planned[n]?

theorem Changes.refl (flow : Flow) (s : Adapter) (e : AdapterEvent) : Changes flow s e s where
  draft _ := .kept e
  attempt _ := .kept e
  journal := .kept e
  reconcile _ := .kept e
  planned _ := .kept e

theorem Changes.of_drafts {drafts : Rows SubmissionKey RetainedDraft}
    (h : ∀ key, DraftChange flow s { s with drafts := drafts } key e (drafts.get key)) :
    Changes flow s e { s with drafts := drafts } where
  draft := h
  attempt _ := .kept e
  journal := .kept e
  reconcile _ := .kept e
  planned _ := .kept e

theorem changes_prepare {terms : DraftTerms} (h : s.step flow (.prepare key terms fault) = some t) :
    Changes flow s (.prepare key terms fault) t := by
  rw [step] at h
  split_ifs at h with hpasses
  · cases h
    refine ⟨fun _ => .kept _, fun _ => .kept _, .kept _, fun _ => .kept _, fun n => ?_⟩
    dsimp only
    rcases getElem?_concat_cases s.planned (some (key, terms)) n with heq | ⟨hn, heq⟩
    · rw [heq]
      exact .kept _
    · rw [heq]
      exact .planned key terms fault hn hpasses.1
  · cases h
    exact .refl flow s _

theorem changes_retain (h : s.step flow (.retain n) = some t) : Changes flow s (.retain n) t := by
  rw [step, bind_eq_bind, bind_eq_some_iff] at h
  obtain ⟨⟨key, terms⟩, hplanned, h⟩ := h
  rw [join_eq_some_iff] at hplanned
  have hset : ∀ k, PlannedChange flow s k (.retain n) (s.planned.set n none)[k]? := by
    intro k
    rcases getElem?_set_cases s.planned n none k with heq | ⟨rfl, heq⟩
    · rw [heq]
      exact .kept _
    · rw [heq]
      exact .retained
  dsimp only at h
  split_ifs at h
  · cases h
    refine ⟨fun key' => ?_, fun _ => .kept _, .kept _, fun _ => .kept _, hset⟩
    dsimp only
    rw [Rows.get_upsert]
    split_ifs with hkey
    · subst hkey
      have hnew : ((s.drafts.get key').elim terms.retained fun _ => terms.retained) =
          terms.retained := by
        cases s.drafts.get key' <;> rfl
      rw [hnew]
      exact .retained n terms hplanned
    · exact .kept _
  · cases h
    exact ⟨fun _ => .kept _, fun _ => .kept _, .kept _, fun _ => .kept _, hset⟩

theorem draftChange_changeDraft {f : RetainedDraft → RetainedDraft}
    (h : ∀ before, s.drafts.get key = some before →
      DraftChange flow s t key e (some (f before))) (key' : SubmissionKey) :
    DraftChange flow s t key' e ((s.changeDraft key f).drafts.get key') := by
  rw [get_changeDraft]
  split_ifs with hkey
  · subst hkey
    cases hget : s.drafts.get key' with
    | none =>
      have hkept : DraftChange flow s t key' e _ := .kept e
      rwa [hget] at hkept
    | some before => exact h before hget
  · exact .kept e

theorem draftChange_replaceDraft {f : RetainedDraft → Option RetainedDraft}
    (h : ∀ before, s.drafts.get key = some before → DraftChange flow s t key e (f before))
    {r : Adapter} (hr : r.drafts = s.drafts) (key' : SubmissionKey) :
    DraftChange flow s t key' e ((r.replaceDraft key f).drafts.get key') := by
  rw [get_replaceDraft, hr]
  split_ifs with hkey
  · subst hkey
    cases hget : s.drafts.get key' with
    | none =>
      have hkept : DraftChange flow s t key' e _ := .kept e
      rwa [hget] at hkept
    | some before => exact h before hget
  · exact .kept e

theorem changes_submit {now : UInt64} (h : s.step flow (.submit key now) = some t) :
    Changes flow s (.submit key now) t := by
  rw [step] at h
  split at h
  · cases h
    exact .refl flow s _
  · rename_i retained hget
    have hafter : (s.changeDraft key fun _ =>
        (flow.submit now s.attempts.length retained).2).drafts.get key =
          some (flow.submit now s.attempts.length retained).2 := by
      rw [get_changeDraft, if_pos rfl, hget, map_some]
    have hdraft : ∀ t, (∀ attempt, (flow.submit now s.attempts.length retained).1 = some attempt →
        t.attempts[s.attempts.length]? = some (.new key attempt)) → ∀ key',
        DraftChange flow s t key' (.submit key now) ((s.changeDraft key fun _ =>
          (flow.submit now s.attempts.length retained).2).drafts.get key') := by
      refine fun t ht => draftChange_changeDraft fun before hbefore => ?_
      rw [hget] at hbefore
      cases hbefore
      exact .submitted now retained hget ht
    dsimp only at h
    split at h
    · rename_i hnone
      cases h
      refine .of_drafts (hdraft _ fun attempt hattempt => ?_)
      rw [hnone] at hattempt
      cases hattempt
    · rename_i attempt hattempt
      cases h
      refine ⟨hdraft _ fun attempt' hattempt' => ?_, fun i => ?_, .kept _, fun _ => .kept _,
        fun _ => .kept _⟩
      · rw [hattempt] at hattempt'
        cases hattempt'
        exact getElem?_concat_length
      · rcases getElem?_concat_cases s.attempts (.new key attempt) i with heq | ⟨hi, heq⟩
        · exact heq ▸ .kept _
        · exact heq ▸ .started key now retained attempt hi hget hattempt hafter

theorem changes_cancel (h : s.step flow (.cancel key) = some t) :
    Changes flow s (.cancel key) t := by
  rw [step, cancel] at h
  split at h
  · cases h
    exact .refl flow s _
  · rename_i retained hget
    split at h
    · rename_i i hstate hcontrol
      rw [bind_eq_bind, bind_eq_some_iff] at h
      obtain ⟨a, ha, h⟩ := h
      split_ifs at h
      split at h
      · cases h
        refine ⟨draftChange_changeDraft fun before hbefore => .cancelled before hbefore,
          fun j => ?_, .kept _, fun _ => .kept _, fun _ => .kept _⟩
        rcases getElem?_set_cases s.attempts i (a.cancelled s.journal) j with heq | ⟨rfl, heq⟩
        · exact heq ▸ .kept _
        · exact heq ▸ .cancelled key a ha
      · cases h
        exact .refl flow s _
    · cases h
      exact .refl flow s _

theorem changes_attempt {i : ℕ} {move : AttemptMove} {faults : JournalFaults}
    (h : s.step flow (.attempt i move faults) = some t) :
    Changes flow s (.attempt i move faults) t := by
  rw [step, moveAttempt, bind_eq_bind, bind_eq_some_iff] at h
  obtain ⟨a, ha, h⟩ := h
  rw [bind_eq_bind, bind_eq_some_iff] at h
  obtain ⟨moved, hmove, h⟩ := h
  have heffect := Attempt.effect_of_move hmove
  have hattempt : ∀ t j, t.journal = moved.journal → AttemptChange flow s t j
      (.attempt i move faults) (s.attempts.set i moved.attempt)[j]? := by
    intro t j hjournal
    rcases getElem?_set_cases s.attempts i moved.attempt j with heq | ⟨rfl, heq⟩
    · exact heq ▸ .kept _
    · exact heq ▸ .moved move faults a moved ha heffect hjournal
  have hjournal : JournalChange flow s (.attempt i move faults) moved.journal :=
    .moved i move faults a moved ha heffect
  split at h
  · cases h
    exact ⟨fun _ => .kept _, fun j => hattempt _ j rfl, hjournal, fun _ => .kept _,
      fun _ => .kept _⟩
  · rename_i update hupdate
    cases h
    refine ⟨draftChange_replaceDraft (fun before hbefore => ?_) rfl, fun j => ?_, ?_, fun n => ?_,
      fun n => ?_⟩
    · refine .updated i move faults a moved update before ha rfl heffect hupdate hbefore ?_
      rw [replaceDraft_attempts]
      exact List.getElem?_set_self (List.getElem?_eq_some_iff.mp ha).1
    · rw [replaceDraft_attempts]
      exact hattempt _ j (replaceDraft_journal ..)
    · rw [replaceDraft_journal]
      exact hjournal
    · rw [replaceDraft_reconciliations]
      exact .kept _
    · rw [replaceDraft_planned]
      exact .kept _

theorem changes_reconcile (h : s.step flow (.reconcile key fault) = some t) :
    Changes flow s (.reconcile key fault) t := by
  rw [step] at h
  split at h
  · rename_i entry hload
    have hentry : s.journal.load key = some entry :=
      Except.ok.inj (Controlled.faulty_ok_iff.mp hload).2
    split_ifs at h with hstate
    · cases h
      refine ⟨fun _ => .kept _, fun _ => .kept _, .kept _, fun n => ?_, fun _ => .kept _⟩
      rcases getElem?_concat_cases s.reconciliations (.loaded key entry) n with heq | ⟨-, heq⟩
      · exact heq ▸ .kept _
      · exact heq ▸ .loaded key fault entry hentry hstate.2
    · cases h
      exact .refl flow s _
  · cases h
    exact .refl flow s _

theorem reconcileChange_returned (s : Adapter) (e : AdapterEvent) (n k : ℕ) :
    ReconcileChange flow s k e (s.reconciliations.set n .returned)[k]? := by
  rcases getElem?_set_cases s.reconciliations n .returned k with heq | ⟨rfl, heq⟩
  · exact heq ▸ .kept e
  · exact heq ▸ .returned e

theorem changes_persist {outcome : Reconciliation}
    (h : s.step flow (.persist n outcome fault) = some t) :
    Changes flow s (.persist n outcome fault) t := by
  rw [step] at h
  split at h
  · rename_i key entry hn
    split at h
    · rename_i journal hsave
      have hsaved := (Controlled.faulty_ok_iff.mp hsave).2
      cases h
      refine ⟨fun _ => .kept _, fun _ => .kept _,
        .persisted n outcome fault key entry journal hn hsaved, fun k => ?_, fun _ => .kept _⟩
      rcases getElem?_set_cases s.reconciliations n (.saved key (outcome.apply entry)) k with
        heq | ⟨rfl, heq⟩
      · exact heq ▸ .kept _
      · exact heq ▸ .saved outcome fault key entry journal hn hsaved
    · cases h
      exact ⟨fun _ => .kept _, fun _ => .kept _, .kept _, reconcileChange_returned s _ n,
        fun _ => .kept _⟩
  · cases h

theorem changes_abandon (h : s.step flow (.abandon n) = some t) :
    Changes flow s (.abandon n) t := by
  rw [step] at h
  split at h
  · cases h
    exact ⟨fun _ => .kept _, fun _ => .kept _, .kept _, reconcileChange_returned s _ n,
      fun _ => .kept _⟩
  · cases h

theorem changes_settle (h : s.step flow (.settle n) = some t) : Changes flow s (.settle n) t := by
  rw [step] at h
  split at h
  · rename_i key entry hn
    cases h
    refine ⟨draftChange_replaceDraft (fun before hbefore => .settled n entry before hn hbefore) rfl,
      fun i => ?_, ?_, reconcileChange_returned s _ n, fun k => ?_⟩
    · rw [replaceDraft_attempts]
      exact .kept _
    · rw [replaceDraft_journal]
      exact .kept _
    · rw [replaceDraft_planned]
      exact .kept _
  · cases h

theorem changes_foreign {entry : JournalEntry} (h : s.step flow (.foreign key entry) = some t) :
    Changes flow s (.foreign key entry) t := by
  rw [step] at h
  split_ifs at h with howns
  split at h
  · rename_i journal hsave
    cases h
    refine ⟨fun _ => .kept _, fun _ => .kept _, ?_, fun _ => .kept _, fun _ => .kept _⟩
    exact .foreign key entry journal (by simpa using howns) hsave
  · cases h
    exact .refl flow s _

theorem changes_of_step (h : s.step flow e = some t) : Changes flow s e t := by
  cases e with
  | prepare => exact changes_prepare h
  | retain => exact changes_retain h
  | authorize =>
    cases h
    exact .of_drafts
      (draftChange_changeDraft fun before hbefore => .authorized _ _ _ before hbefore)
  | submit => exact changes_submit h
  | get =>
    cases h
    exact .of_drafts (draftChange_changeDraft fun before hbefore => .got _ before hbefore)
  | cancel => exact changes_cancel h
  | attempt => exact changes_attempt h
  | reconcile => exact changes_reconcile h
  | persist => exact changes_persist h
  | abandon => exact changes_abandon h
  | settle => exact changes_settle h
  | foreign => exact changes_foreign h

end Steps
section Origins
variable {flow : Flow} {s t : Adapter} {e : AdapterEvent} {i : ℕ} {a : Attempt}
  {key : SubmissionKey}

section
variable (h : s.step flow e = some t)
include h

theorem attempt_origin (ha : t.attempts[i]? = some a) :
    (∃ b, s.attempts[i]? = some b ∧ b.Later flow s.journal a) ∨
      i = s.attempts.length ∧ ∃ now retained, e = .submit a.control.key now ∧
        s.drafts.get a.control.key = some retained ∧ retained.state = .authorized ∧
        t.drafts.get a.control.key = some (retained.submittedBy i) := by
  have hchange := (changes_of_step h).attempt i
  rw [ha] at hchange
  generalize hafter : some a = after at hchange
  cases hchange with
  | kept => exact .inl ⟨a, hafter.symm, .same⟩
  | started key now retained _ hi hdraft hsubmit hdraft' =>
    cases hafter
    refine .inr ⟨hi, now, retained, rfl, hdraft, ?_⟩
    change _ ∧ t.drafts.get key = _
    have hleaves := flow.submit_leaves now s.attempts.length retained
    rw [hsubmit] at hleaves
    rcases hleaves with ⟨hnone, -⟩ | ⟨hnone, -⟩ | ⟨-, hstate, hsubmitted⟩
    · cases hnone
    · cases hnone
    · rw [hdraft', hsubmitted, hi]
      exact ⟨hstate, rfl⟩
  | moved move _ b moved hb heffect =>
    cases hafter
    exact .inl ⟨b, hb, .moved move moved heffect⟩
  | cancelled _ b hb =>
    cases hafter
    exact .inl ⟨b, hb, .cancelled⟩

theorem attempt_persists (ha : s.attempts[i]? = some a) :
    ∃ b, t.attempts[i]? = some b ∧ a.Later flow s.journal b := by
  have hchange := (changes_of_step h).attempt i
  generalize t.attempts[i]? = after at hchange
  cases hchange with
  | kept => exact ⟨a, ha, .same⟩
  | started _ _ _ _ hi =>
    rw [hi, getElem?_eq_none le_rfl] at ha
    cases ha
  | moved move _ b moved hb heffect =>
    rw [ha] at hb
    cases hb
    exact ⟨moved.attempt, rfl, .moved move moved heffect⟩
  | cancelled _ b hb =>
    rw [ha] at hb
    cases hb
    exact ⟨a.cancelled s.journal, rfl, .cancelled⟩

theorem attempt_of_mem_broadcasts (hmem : (key, i) ∈ s.broadcasts e) :
    ∃ a b, s.attempts[i]? = some a ∧ a.control.key = key ∧ a.worker = .running ∧
      a.control.phase = .working ∧ t.attempts[i]? = some b ∧ b.control.key = key ∧ b.passed := by
  unfold broadcasts at hmem
  split at hmem
  · rename_i j intent faults
    split at hmem
    · rename_i a ha
      split_ifs at hmem with hbegins
      · rw [mem_singleton] at hmem
        cases hmem
        obtain ⟨hworker, hlocked, hok⟩ := hbegins
        obtain ⟨b, hb, hlater⟩ := attempt_persists h ha
        refine ⟨a, b, ha, rfl, hworker, Attempt.phase_of_beginBroadcast hok, hb, hlater.key, ?_⟩
        rw [step, moveAttempt, ha, bind_eq_bind, bind_some, Attempt.move,
          if_pos ⟨hworker, hlocked⟩] at h
        split at h
        · simp only [bind_eq_bind, bind_some, some.injEq] at h
          rw [← h] at hb
          rw [List.getElem?_set_self (List.getElem?_eq_some_iff.mp ha).1] at hb
          cases hb
          rfl
        · rename_i hcall
          rw [hcall] at hok
          cases hok
      · cases hmem
    · cases hmem
  · cases hmem

theorem draft_origin (hdraft : (t.drafts.get key).isSome) :
    (s.drafts.get key).isSome ∨ ∃ (n : ℕ) (terms : DraftTerms), e = .retain n ∧
        s.planned[n]? = some (some (key, terms)) := by
  have hchange := (changes_of_step h).draft key
  generalize t.drafts.get key = after at hchange hdraft
  cases hchange with
  | kept => exact .inl hdraft
  | retained n terms hn => exact .inr ⟨n, terms, rfl, hn⟩
  | authorized _ _ _ before hbefore | submitted _ before hbefore | got _ before hbefore
  | cancelled before hbefore | updated _ _ _ _ _ _ before _ _ _ _ hbefore
  | settled _ _ _ _ hbefore => exact .inl (by rw [hbefore]; rfl)

end

/-- Nothing has been retained or submitted under the key. -/
def Blank (s : Adapter) (key : SubmissionKey) : Prop :=
  s.drafts.get key = none ∧ ∀ (i : ℕ) a, s.attempts[i]? = some a → a.control.key ≠ key

theorem Blank.step (hblank : s.Blank key) (h : s.step flow e = some t)
    (hretain : ∀ (n : ℕ) terms, e = .retain n → s.planned[n]? ≠ some (some (key, terms))) :
    t.Blank key := by
  obtain ⟨hnone, hattempts⟩ := hblank
  constructor
  · by_contra hsome
    rcases draft_origin h (isSome_iff_ne_none.mpr hsome) with hold | ⟨n, terms, he, hn⟩
    · rw [hnone] at hold
      cases hold
    · exact hretain n terms he hn
  · intro i a ha hkey
    rcases attempt_origin h ha with ⟨b, hb, hlater⟩ | ⟨-, now, retained, -, hdraft, -⟩
    · exact hattempts i b hb (hlater.key ▸ hkey)
    · rw [hkey, hnone] at hdraft
      cases hdraft

end Origins

section Runs
variable {flow : Flow} {s t : Adapter} {e : AdapterEvent} {es : List AdapterEvent}
  {key : SubmissionKey}

def movesMeet (C : Attempt → AttemptMove → Bool) (s : Adapter) : AdapterEvent → Bool
  | .attempt i move _ => s.attempts[i]?.all fun a => C a move
  | _ => true

/-- **Invariants of submissions.**  What holds of a new submission, and is kept by a
cancellation and by every move, holds of all submissions wherever a run ends. -/
theorem attempts_invariant {C : Attempt → AttemptMove → Bool} {I : Attempt → Prop}
    (hnew : ∀ key attempt, I (.new key attempt))
    (hcancelled : ∀ a journal, I a → I (a.cancelled journal))
    (hmove : ∀ a journal move moved, I a → C a move → a.Effect flow journal move moved →
      I moved.attempt) (hstart : ∀ (i : ℕ) a, s.attempts[i]? = some a → I a)
    (hC : EveryStep (step flow) (fun s e => movesMeet C s e) s es)
    (hrun : run (step flow) s es = some t) : ∀ (i : ℕ) a, t.attempts[i]? = some a → I a := by
  refine run_invariant_of_everyStep (fun t => ∀ (i : ℕ) a, t.attempts[i]? = some a → I a) hstart
    ?_ hC hrun
  intro p e q hp hmeets hstep i a ha
  have hchange := (changes_of_step hstep).attempt i
  rw [ha] at hchange
  generalize hafter : some a = after at hchange
  cases hchange with
  | kept => exact hp i a hafter.symm
  | started =>
    cases hafter
    exact hnew _ _
  | moved move _ b moved hb heffect =>
    cases hafter
    rw [movesMeet, hb, all_some] at hmeets
    exact hmove b p.journal move moved (hp i b hb) hmeets heffect
  | cancelled _ b hb =>
    cases hafter
    exact hcancelled b p.journal (hp i b hb)

def prepares : AdapterEvent → Option SubmissionKey
  | .prepare key _ _ => some key
  | _ => none

def DistinctDrafts (es : List AdapterEvent) : Prop := (es.filterMap prepares).Nodup

instance decidableDistinctDrafts (es : List AdapterEvent) : Decidable (DistinctDrafts es) :=
  inferInstanceAs (Decidable (es.filterMap prepares).Nodup)

theorem DistinctDrafts.of_concat (h : DistinctDrafts (es ++ [e])) : DistinctDrafts es := by
  rw [DistinctDrafts, filterMap_append, nodup_append] at h
  exact h.1

/-- With distinct drafts, a key that is still planned has not been used. -/
structure Fresh (es : List AdapterEvent) (key : SubmissionKey) (s : Adapter) : Prop where
  unplanned : key ∉ es.filterMap prepares →
    s.Blank key ∧ ∀ (n : ℕ) terms, s.planned[n]? ≠ some (some (key, terms))
  planned : ∀ (n : ℕ) terms, s.planned[n]? = some (some (key, terms)) → s.Blank key
  once : ∀ (n m : ℕ) terms terms', s.planned[n]? = some (some (key, terms)) →
    s.planned[m]? = some (some (key, terms')) → m = n

theorem fresh_start (journal : Journal) (key : SubmissionKey) : Fresh [] key (start journal) where
  unplanned _ := ⟨⟨rfl, fun _ _ h => by cases h⟩, fun _ _ h => by cases h⟩
  planned _ _ h := by cases h
  once _ _ _ _ h := by cases h

theorem planned_origin {terms : DraftTerms} (h : s.step flow e = some t)
    (hn : t.planned[n]? = some (some (key, terms))) :
    s.planned[n]? = some (some (key, terms)) ∨ n = s.planned.length ∧ prepares e = some key := by
  have hchange := (changes_of_step h).planned n
  rw [hn] at hchange
  generalize hafter : some (some (key, terms)) = after at hchange
  cases hchange with
  | kept => exact .inl rfl
  | planned _ _ _ hlength =>
    cases hafter
    exact .inr ⟨hlength, rfl⟩
  | retained => cases hafter

theorem planned_retain {planned} (h : s.step flow (.retain n) = some t) :
    t.planned[n]? ≠ some (some planned) := by
  rw [step, bind_eq_bind, bind_eq_some_iff] at h
  obtain ⟨⟨key, terms⟩, hplanned, h⟩ := h
  rw [join_eq_some_iff] at hplanned
  have hset : (s.planned.set n none)[n]? = some none :=
    List.getElem?_set_self (List.getElem?_eq_some_iff.mp hplanned).1
  dsimp only at h
  split_ifs at h <;> cases h <;> simp [hset]

theorem Fresh.step (hfresh : Fresh es key s) (h : s.step flow e = some t)
    (hdistinct : DistinctDrafts (es ++ [e])) : Fresh (es ++ [e]) key t := by
  rw [DistinctDrafts, filterMap_append, nodup_append] at hdistinct
  by_cases hprepares : prepares e = some key
  · -- The key was not planned before, so it is blank and stays so.
    have hnew : key ∉ es.filterMap prepares := fun hmem =>
      hdistinct.2.2 key hmem key (by simp [hprepares]) rfl
    obtain ⟨hblank, hnone⟩ := hfresh.unplanned hnew
    have hlast : ∀ (n : ℕ) terms, t.planned[n]? = some (some (key, terms)) →
        n = s.planned.length := by
      intro n terms hn
      rcases planned_origin h hn with hold | ⟨hlength, -⟩
      · exact absurd hold (hnone n terms)
      · exact hlength
    have hblank' : t.Blank key := hblank.step h fun n terms _ => hnone n terms
    refine ⟨fun hkey => ?_, fun _ _ _ => hblank', fun n m terms terms' hn hm => ?_⟩
    · simp [hprepares] at hkey
    · rw [hlast n terms hn, hlast m terms' hm]
  · have hold : ∀ (n : ℕ) terms, t.planned[n]? = some (some (key, terms)) →
        s.planned[n]? = some (some (key, terms)) := by
      intro n terms hn
      rcases planned_origin h hn with hold | ⟨-, hprepared⟩
      · exact hold
      · exact absurd hprepared hprepares
    refine ⟨fun hkey => ?_, fun n terms hn => ?_, fun n m terms terms' hn hm => ?_⟩
    · have hkey' : key ∉ es.filterMap prepares := fun hmem => hkey (by simp [hmem])
      obtain ⟨hblank, hnone⟩ := hfresh.unplanned hkey'
      exact ⟨hblank.step h fun n terms _ => hnone n terms,
        fun n terms hn => hnone n terms (hold n terms hn)⟩
    · refine (hfresh.planned n terms (hold n terms hn)).step h ?_
      rintro m terms' rfl hm
      have hsame := hfresh.once n m terms terms' (hold n terms hn) hm
      exact planned_retain h (hsame ▸ hn)
    · exact hfresh.once n m terms terms' (hold n terms hn) (hold m terms' hm)

theorem fresh_of_run {journal} (hdistinct : DistinctDrafts es)
    (hrun : run (step flow) (start journal) es = some t) (key : SubmissionKey) :
    Fresh es key t := by
  refine run_induction_while (motive := fun es t => Fresh es key t)
    (fun _ _ h => h.of_concat) (fresh_start journal key) ?_ hdistinct hrun
  intro es p e q hdistinct _ ih hstep
  exact ih.step hstep hdistinct

end Runs
end Adapter
end Oxid.Midnight
