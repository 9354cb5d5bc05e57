import Oxid.Midnight.Custody

/-!
# Broadcasting once

A draft whose submission has passed `begin_broadcast` must not be offered again.  But a
transfer can be authorized again after it has expired, with an earlier time, and a
registration whose waiter gave up is taken for one not broadcast.
-/

namespace Oxid.Midnight
open Foundation Wallet PassportVault Transaction Transition Option List Bool

namespace Flow

def disclaims (flow : Flow) : Except TransactionPortError SubmissionOutcome → Bool
  | .error .submissionCancelled | .error .draftExpired => true
  | .error .insufficientDust => flow = .registration
  | _ => false

end Flow

namespace Attempt

def honest (flow : Flow) (a : Attempt) : AttemptMove → Bool
  | .complete result => !(flow.disclaims result && a.passed)
  | _ => true

/-- A worker that asks whether the broadcast was started is not told otherwise, because
its waiter has ended the submission in the meantime. -/
def prompt (a : Attempt) : AttemptMove → Bool
  | .advance .worker =>
    match a.worker with
    | .finishing (.ifBroadcastStarted _ _) => !a.passed || a.control.phase = .broadcasting
    | _ => true
  | _ => true

def Keeps : Act → Prop
  | .update update => update.returns = false
  | .terminate => True

structure Settling (flow : Flow) (a : Attempt) : Prop where
  spawning : a.worker = .spawning → a.passed = false
  phase : a.passed →
    a.control.phase = .broadcasting ∨ flow = .registration ∧ a.control.phase = .terminal
  endless : flow = .transfer → a.control.phase ≠ .terminal
  waiter : a.WaiterMarks
  worker : a.passed → ∀ task, a.task .worker = some task → task.Every (·) Keeps
  transfer : flow = .transfer → ∀ party task, a.task party = some task →
    task.Every (fun _ => True) (· ≠ .terminate)

section Settling
variable {flow : Flow} {a : Attempt} {journal : Journal} {move : AttemptMove} {moved : Moved}

theorem finish_keeps {result} (h : flow.disclaims result = false) :
    (flow.finish result).Every (·) Keeps := by
  cases flow with
  | transfer =>
    cases result with
    | ok => simp [Flow.finish, finishSubmission, Task.Every, Keeps, DraftUpdate.returns]
    | error e =>
      revert h
      cases e <;> simp [Flow.disclaims, Flow.finish, finishSubmission, Task.Every, Keeps,
        DraftUpdate.returns]
  | registration =>
    cases result with
    | ok => simp [Flow.finish, finishRegistration, Task.Every, Keeps, DraftUpdate.returns]
    | error e =>
      revert h
      cases e <;> simp [Flow.disclaims, Flow.finish, finishRegistration, Task.Every, Keeps,
        DraftUpdate.returns]

theorem begins_transfer {party task} (h : Begins .transfer move party task) :
    task.Every (fun _ => True) (· ≠ .terminate) := by
  cases h with
  | completed result =>
    cases result with
    | ok => simp [Flow.finish, finishSubmission, Task.Every]
    | error e => cases e <;> simp [Flow.finish, finishSubmission, Task.Every]
  | lost | timedOut => simp [Flow.lost, Task.Every]

theorem settling_new (key : SubmissionKey) (attempt : SubmissionAttempt) :
    (new key attempt).Settling flow where
  spawning _ := rfl
  phase h := by cases h
  endless _ h := by cases h
  waiter := waiterMarks_new key attempt
  worker h := by cases h
  transfer _ party _ h := by cases party <;> cases h

theorem Settling.cancelled (h : a.Settling flow) (journal : Journal) :
    (a.cancelled journal).Settling flow := by
  rcases cancelled_cases a journal with heq | ⟨hphase, heq⟩
  · rwa [heq]
  · have hpassed : a.passed → False := by
      intro hpassed
      rcases h.phase hpassed with h | ⟨-, h⟩
      · cases hphase.symm.trans h
      · cases hphase.symm.trans h
    rw [heq]
    exact ⟨h.spawning, fun hp => (hpassed hp).elim, fun _ => nofun, h.waiter, h.worker, h.transfer⟩

theorem Settling.spawning_move (h : a.Settling flow) (heffect : a.Effect flow journal move moved)
    (hworker : moved.attempt.worker = .spawning) : moved.attempt.passed = false := by
  have halive : moved.attempt.worker = .spawning → a.worker = .spawning := by
    intro hworker
    cases heffect with
    | spawned | spawnFailed | completed | crashed => cases hworker
    | begun | notBegun | delivered | lost | timedOut | dropped => exact hworker
    | advanced party _ _ _ hadvanced =>
      cases party with
      | waiter => rwa [hadvanced.worker] at hworker
      | worker => cases hadvanced <;> cases hworker
  rcases heffect.passed with heq | ⟨-, -, hrunning, -⟩
  · exact heq.trans (h.spawning (halive hworker))
  · cases hrunning.symm.trans hworker

theorem Settling.phase_move (h : a.Settling flow) (heffect : a.Effect flow journal move moved)
    (hpassed : moved.attempt.passed) : moved.attempt.control.phase = .broadcasting ∨
      flow = .registration ∧ moved.attempt.control.phase = .terminal := by
  rcases heffect.passed with heq | ⟨-, -, -, -, hphase⟩
  · have hbefore := h.phase (heq ▸ hpassed)
    have hworking : a.control.phase ≠ .working := by
      rcases hbefore with h | ⟨-, h⟩ <;> simp [h]
    rcases heffect.phase with hsame | ⟨hwas, -⟩ | ⟨hwas, -⟩ | hterminal
    · rwa [hsame]
    · exact absurd hwas hworking
    · exact absurd hwas hworking
    · cases flow with
      | registration => exact .inr ⟨rfl, hterminal⟩
      | transfer =>
        rcases heffect.terminal (P := (· ≠ .terminate)) (fun party => h.transfer rfl party)
          hterminal with hwas | habsurd
        · exact absurd hwas (h.endless rfl)
        · exact absurd rfl habsurd
  · exact .inl hphase

theorem Settling.worker_move (h : a.Settling flow)
    (hC : (a.honest flow move && (flow = .transfer || a.prompt move)))
    (heffect : a.Effect flow journal move moved) (hpassed : moved.attempt.passed) :
    ∀ task, moved.attempt.task .worker = some task → task.Every (·) Keeps := by
  rw [and_eq_true] at hC
  obtain ⟨hhonest, hprompt⟩ := hC
  rcases heffect.passed with heq | ⟨-, -, hrunning, -⟩
  · rw [heq] at hpassed
    refine heffect.every (h.worker hpassed) (fun task hbegins => ?_) fun yes no hmove htask => ?_
    · cases hbegins with
      | completed =>
        rw [honest, hpassed, Bool.and_true, Bool.not_eq_true'] at hhonest
        exact finish_keeps hhonest
    · -- The worker asks: the phase is still `Broadcasting`.
      rw [decide_eq_true_eq]
      rcases h.phase hpassed with hphase | ⟨rfl, -⟩
      · exact hphase
      · rw [Attempt.task] at htask
        split at htask
        · rename_i hworker
          cases htask
          simpa [hmove, prompt, hworker, hpassed] using hprompt
        · cases htask
  · intro task htask
    rw [Attempt.task, hrunning] at htask
    cases htask

theorem Settling.of_move (h : a.Settling flow)
    (hC : (a.honest flow move && (flow = .transfer || a.prompt move)))
    (heffect : a.Effect flow journal move moved) : moved.attempt.Settling flow where
  spawning := h.spawning_move heffect
  phase := h.phase_move heffect
  endless hflow hphase := by
    rcases heffect.terminal (P := (· ≠ .terminate)) (fun party => h.transfer hflow party)
      hphase with hterminal | habsurd
    · exact h.endless hflow hterminal
    · exact habsurd rfl
  waiter := h.waiter.of_move heffect
  worker := h.worker_move hC heffect
  transfer hflow party := by
    subst hflow
    exact heffect.every (h.transfer rfl party) (fun _ hbegins => begins_transfer hbegins)
      fun _ _ _ _ => trivial

end Settling
end Attempt

open Attempt

namespace Adapter

section Runs
variable {flow : Flow} {s t : Adapter} {e : AdapterEvent} {es : List AdapterEvent}
  {key : SubmissionKey} {journal : Journal}

theorem passed_of_mem_outputs (hrun : run (step flow) s es = some t) :
    ∀ key i, (key, i) ∈ outputs (step flow) broadcasts s es →
      ∃ a, t.attempts[i]? = some a ∧ a.control.key = key ∧ a.passed := by
  refine run_induction (motive := fun es t => ∀ key i,
    (key, i) ∈ outputs (step flow) broadcasts s es →
      ∃ a, t.attempts[i]? = some a ∧ a.control.key = key ∧ a.passed)
    (fun _ _ h => by cases h) ?_ es t hrun
  intro es p e q hp ih hstep key i hmem
  rw [outputs_concat hp, mem_append] at hmem
  rcases hmem with hold | hnew
  · obtain ⟨a, ha, hkey, hpassed⟩ := ih key i hold
    obtain ⟨b, hb, hlater⟩ := attempt_persists hstep ha
    exact ⟨b, hb, hlater.key.trans hkey, hlater.passed_mono hpassed⟩
  · obtain ⟨_, b, -, -, -, -, hb⟩ := attempt_of_mem_broadcasts hstep hnew
    exact ⟨b, hb⟩

def authorizedAt (key : SubmissionKey) : AdapterEvent → Option UInt64
  | .authorize key' _ now _ => if key' = key then some now else none
  | _ => none

def CalledPast (es : List AdapterEvent) (key : SubmissionKey) (expiresAt : UInt64) : Prop :=
  ∃ now ∈ es.filterMap (authorizedAt key), expiresAt ≤ now

/-- A call of `authorize` for a draft that was called for at or past its expiry has no time
before it. -/
def forward (journal : Journal) (past : List AdapterEvent) : AdapterEvent → Bool
  | .authorize key _ now _ =>
    ((run (step .transfer) (start journal) past).bind (·.drafts.get key)).all fun retained =>
      retained.expiresAt ≤ now ||
        (past.filterMap (authorizedAt key)).all (· < retained.expiresAt)
  | _ => true

def ClockForward (journal : Journal) (es : List AdapterEvent) : Prop :=
  ∀ n < es.length, es[n]?.all (forward journal (es.take n))

instance decidableClockForward (journal : Journal) (es : List AdapterEvent) :
    Decidable (ClockForward journal es) :=
  inferInstanceAs (Decidable (∀ n < es.length, _))

def Engaged (a : Attempt) : Prop := a.alive ∨ a.passed

theorem Engaged.of_later {a b} (h : a.Later flow journal b) (hengaged : Engaged b) : Engaged a := by
  rcases hengaged with halive | hpassed
  · exact .inl (h.alive halive)
  · rcases h.passed hpassed with hpassed | hworker
    · exact .inr hpassed
    · exact .inl (by rw [alive, hworker])

theorem guarded_engaged (hsettling : ∀ (i : ℕ) a, s.attempts[i]? = some a → a.Settling flow)
    (hclock : flow = .transfer → ClockForward journal (es ++ [e]))
    (hrun : run (step flow) (start journal) es = some s) :
    Guarded flow Engaged (CalledPast es key) (CalledPast (es ++ [e]) key) key s e where
  expired expiresAt := by
    rintro ⟨now, hmem, hle⟩
    exact ⟨now, by simp [hmem], hle⟩
  later _ _ := Engaged.of_later
  authorize := by
    rintro challenge now signed retained rfl hdraft hsecured
    refine ⟨fun hlapses => ⟨now, by simp [authorizedAt], ?_⟩, fun hflow hstate => ?_⟩
    · rw [Flow.lapses, Bool.and_eq_true, decide_eq_true_eq] at hlapses
      exact hlapses.1
    rcases hsecured with h | h | ⟨-, earlier, hmem, hle⟩
    · cases h.symm.trans hstate
    · cases h.symm.trans hstate
    · subst hflow
      have hforward := hclock rfl es.length (by simp)
      simp only [List.getElem?_concat_length, List.take_left, Option.all_some, forward, hrun,
        Option.bind_some, hdraft, Bool.or_eq_true, decide_eq_true_eq, List.all_eq_true] at hforward
      exact hforward.resolve_right fun hall => UInt64.not_lt.mpr hle (hall earlier hmem)
  returns i a move moved update ha heffect hupdate hreturns := by
    have hset := hsettling i a ha
    rcases heffect.update_origin hset.waiter hupdate with rfl | ⟨halive, hdead, hpassed, hlast⟩
    · cases hreturns
    refine ⟨.inl halive, ?_⟩
    rintro (h | h)
    · cases hdead.symm.trans h
    · rw [hpassed] at h
      rcases hlast with ⟨-, hworker, -⟩ | ⟨missing, -, htask⟩
      · cases (hset.spawning hworker).symm.trans h
      · have hkeeps := (hset.worker h _ htask).1
        rw [Attempt.Keeps, hreturns] at hkeeps
        cases hkeeps

def orderly (flow : Flow) (a : Attempt) (move : AttemptMove) : Bool :=
  a.honest flow move && (flow = .transfer || a.prompt move)

theorem ClockForward.of_concat (h : ClockForward journal (es ++ [e])) :
    ClockForward journal es := by
  intro n hn
  have hforward := h n (by simp; omega)
  rwa [getElem?_append_left hn, take_append_of_le_length hn.le] at hforward

structure Orderly (flow : Flow) (journal : Journal) (es : List AdapterEvent) : Prop where
  distinct : DistinctDrafts es
  parties : EveryStep (step flow) (fun s e => movesMeet (orderly flow) s e)
    (start journal) es
  clock : flow = .transfer → ClockForward journal es

theorem Orderly.of_concat (h : Orderly flow journal (es ++ [e])) : Orderly flow journal es :=
  ⟨h.distinct.of_concat, h.parties.of_concat, fun hflow => (h.clock hflow).of_concat⟩

section
variable (h : Orderly flow journal es)
include h

theorem settling_of_run (hrun : run (step flow) (start journal) es = some t) :
    ∀ (i : ℕ) a, t.attempts[i]? = some a → a.Settling flow :=
  attempts_invariant settling_new (fun _ journal h => h.cancelled journal)
    (fun _ _ _ _ h hC heffect => h.of_move hC heffect) (fun _ _ h => by cases h) h.parties hrun

theorem custody_of_run (hrun : run (step flow) (start journal) es = some t) (key : SubmissionKey) :
    Custody Engaged (CalledPast es key) key t := by
  refine run_induction_while (motive := fun es t => Custody Engaged (CalledPast es key) key t)
    (fun _ _ h => h.of_concat) (custody_start journal key) ?_ h hrun
  intro es p e q h hp ih hstep
  exact ih.step (fresh_of_run h.of_concat.distinct hp key)
    (guarded_engaged (settling_of_run h.of_concat hp) h.clock hp) hstep

theorem not_mem_broadcasts (hrun : run (step flow) (start journal) es = some s)
    (hstep : s.step flow e = some t) {i j}
    (hi : (key, i) ∈ outputs (step flow) broadcasts (start journal) es) :
    (key, j) ∉ s.broadcasts e := by
  intro hj
  obtain ⟨a, ha, hkey, hpassed⟩ := passed_of_mem_outputs hrun key i hi
  obtain ⟨b, -, hb, hkey', hworker, hphase, -⟩ := attempt_of_mem_broadcasts hstep hj
  have hcustody := custody_of_run h hrun key
  have halive : b.alive := by rw [alive, hworker]
  have hle := hcustody.latest i j a b ha hkey (.inr hpassed) hb hkey'
  have hge := hcustody.latest j i b a hb hkey' (.inl halive) ha hkey
  rw [le_antisymm hle hge, ha] at hb
  cases hb
  -- It has left the phase in which `begin_broadcast` succeeds.
  rcases (settling_of_run h hrun i a ha).phase hpassed with hbroadcasting | ⟨-, hterminal⟩
  · cases hbroadcasting.symm.trans hphase
  · cases hterminal.symm.trans hphase

theorem outputs_nodup (hrun : run (step flow) (start journal) es = some t) :
    ((outputs (step flow) broadcasts (start journal) es).map Prod.fst).Nodup := by
  refine run_induction_while (motive := fun es _ =>
    ((outputs (step flow) broadcasts (start journal) es).map Prod.fst).Nodup)
    (fun _ _ h => h.of_concat) nodup_nil ?_ h hrun
  intro es p e q h hp ih hstep
  rw [outputs_concat hp, map_append, nodup_append]
  refine ⟨ih, ?_, ?_⟩
  · unfold broadcasts
    split
    · split
      · split_ifs <;> simp
      · simp
    · simp
  · intro key hold key' hnew heq
    subst heq
    rw [List.mem_map] at hold hnew
    obtain ⟨⟨key, i⟩, hi, rfl⟩ := hold
    obtain ⟨⟨key', j⟩, hj, hsame⟩ := hnew
    cases hsame
    exact not_mem_broadcasts h.of_concat hp hstep hi hj

theorem secured_of_mem_outputs (hrun : run (step flow) (start journal) es = some t)
    (hkey : key ∈ (outputs (step flow) broadcasts (start journal) es).map Prod.fst) {retained}
    (hdraft : t.drafts.get key = some retained) : Secured (CalledPast es key) retained := by
  rw [List.mem_map] at hkey
  obtain ⟨⟨key, i⟩, hi, rfl⟩ := hkey
  obtain ⟨a, ha, hkey, hpassed⟩ := passed_of_mem_outputs hrun key i hi
  exact (custody_of_run h hrun key).secured i a retained ha hkey (.inr hpassed) hdraft

end

def sent (flow : Flow) (journal : Journal) (es : List AdapterEvent) : List SubmissionKey :=
  (outputs (step flow) broadcasts (start journal) es).map Prod.fst

/-- **Transfers.**  If the completers are honest, plans have distinct drafts and the times of
`authorize` do not go back past an expiry, every draft is broadcast at most once, and afterwards
is neither prepared nor authorized. -/
theorem transfer_broadcast_once (hdistinct : DistinctDrafts es)
    (hhonest : EveryStep (step .transfer)
      (fun s e => movesMeet (honest .transfer) s e) (start journal) es)
    (hclock : ClockForward journal es) (hrun : run (step .transfer) (start journal) es = some t) :
    (sent .transfer journal es).Nodup ∧ ∀ key ∈ sent .transfer journal es, ∀ retained,
      t.drafts.get key = some retained →
        retained.state ≠ .authorized ∧ retained.state ≠ .prepared := by
  have horderly : orderly .transfer = honest .transfer := by
    funext a move
    simp [orderly]
  rw [← horderly] at hhonest
  have h : Orderly .transfer journal es := ⟨hdistinct, hhonest, fun _ => hclock⟩
  refine ⟨outputs_nodup h hrun, ?_⟩
  intro key hkey retained hdraft
  have hsecured := secured_of_mem_outputs h hrun hkey hdraft
  exact ⟨hsecured.not_authorized, hsecured.not_prepared⟩

/-- The times of the two calls of `authorize` go back, both before the expiry. -/
def signedTwiceRun : List AdapterEvent :=
  Flow.transfer.preparing ++ [Flow.transfer.signing 20, Flow.transfer.signing 10] ++
    Flow.transfer.submitting 0 ++ [beginning 0]

theorem transfer_broadcast_once_signed_twice :
    ∃ t, run (step .transfer) (start .empty) signedTwiceRun = some t ∧
      sent .transfer .empty signedTwiceRun = [sampleKey .transfer] ∧
      ∀ retained, t.drafts.get (sampleKey .transfer) = some retained →
        retained.state ≠ .authorized ∧ retained.state ≠ .prepared := by
  obtain ⟨t, hrun⟩ := isSome_iff_exists.mp
    (by decide +kernel : (run (step .transfer) (start .empty) signedTwiceRun).isSome)
  have hsent : sent .transfer .empty signedTwiceRun = [sampleKey .transfer] := by
    decide +kernel
  have hdistinct : DistinctDrafts signedTwiceRun := by decide +kernel
  have honce := transfer_broadcast_once hdistinct (by decide +kernel) (by decide +kernel) hrun
  exact ⟨t, hrun, hsent, honce.2 _ (by rw [hsent]; exact mem_singleton_self _)⟩

/-- The transfer is broadcast.  Then `authorize` is called once after its expiry, and again
with an earlier time: the draft is signed and submitted anew. -/
def resignedRun : List AdapterEvent :=
  submittingRun .transfer ++ [beginning 0, Flow.transfer.signing 1000, Flow.transfer.signing 10] ++
    Flow.transfer.submitting 1 ++ [beginning 1]

theorem transfer_broadcast_twice : DistinctDrafts resignedRun ∧
      EveryStep (step .transfer) (fun s e => movesMeet (honest .transfer) s e)
        (start .empty) resignedRun ∧ (run (step .transfer) (start .empty) resignedRun).isSome ∧
      outputs (step .transfer) broadcasts (start .empty) resignedRun =
        [(sampleKey .transfer, 0), (sampleKey .transfer, 1)] := by
  decide +kernel

/-- **DUST registrations.**  If the completers are honest, plans have distinct drafts and no worker
asks for the phase after its waiter has ended it, a draft that was broadcast is never authorized
again, nor broadcast again. -/
theorem registration_broadcast_once (hdistinct : DistinctDrafts es)
    (hhonest : EveryStep (step .registration)
      (fun s e => movesMeet (honest .registration) s e) (start journal) es)
    (hprompt : EveryStep (step .registration) (fun s e => movesMeet prompt s e) (start journal) es)
    (hrun : run (step .registration) (start journal) es = some t) :
    (∀ key ∈ sent .registration journal es, ∀ retained, t.drafts.get key = some retained →
      retained.state ≠ .authorized) ∧ (sent .registration journal es).Nodup := by
  have horderly : EveryStep (step .registration)
      (fun s e => movesMeet (orderly .registration) s e) (start journal) es := by
    intro before e after p heq hp
    have hh := hhonest before e after p heq hp
    have hpr := hprompt before e after p heq hp
    cases e with
    | attempt =>
      rw [movesMeet, Option.all_eq_true] at hh hpr ⊢
      intro a ha
      simp [orderly, hh a ha, hpr a ha]
    | _ => rfl
  have h : Orderly .registration journal es := by
    refine ⟨hdistinct, horderly, fun hflow => ?_⟩
    cases hflow
  refine ⟨?_, outputs_nodup h hrun⟩
  intro key hkey retained hdraft
  exact (secured_of_mem_outputs h hrun hkey hdraft).not_authorized

theorem registration_broadcast_once_included :
    ∃ t, run (step .registration) (start .empty) (includedRun .registration) = some t ∧
      sent .registration .empty (includedRun .registration) = [sampleKey .registration] ∧
      ∀ retained, t.drafts.get (sampleKey .registration) = some retained →
        retained.state ≠ .authorized := by
  obtain ⟨t, hrun⟩ := isSome_iff_exists.mp (by decide +kernel :
    (run (step .registration) (start .empty) (includedRun .registration)).isSome)
  have hsent : sent .registration .empty (includedRun .registration) =
      [sampleKey .registration] := by
    decide +kernel
  have hdistinct : DistinctDrafts (includedRun .registration) := by decide +kernel
  have honce := registration_broadcast_once hdistinct (by decide +kernel) (by decide +kernel) hrun
  exact ⟨t, hrun, hsent, honce.1 _ (by rw [hsent]; exact mem_singleton_self _)⟩

/-- The registration is broadcast, and its waiter gives up and ends the submission.  Then
the completer returns an error: the worker is told that no broadcast was started, gives
the draft back, and it is submitted again. -/
def timedOutRun : List AdapterEvent :=
  submittingRun .registration ++ [beginning 0, .attempt 0 .timeout .none] ++
    advancing 0 .waiter 3 ++ [.attempt 0 (.complete (.error .unavailable)) .none] ++
    advancing 0 .worker 2 ++ Flow.registration.submitting 1 ++ [beginning 1]

theorem registration_broadcast_twice : DistinctDrafts timedOutRun ∧ EveryStep (step .registration)
        (fun s e => movesMeet (honest .registration) s e) (start .empty) timedOutRun ∧
      (run (step .registration) (start .empty) timedOutRun).isSome ∧
      outputs (step .registration) broadcasts (start .empty) timedOutRun =
        [(sampleKey .registration, 0), (sampleKey .registration, 1)] := by
  decide +kernel

end Runs
end Adapter
end Oxid.Midnight
