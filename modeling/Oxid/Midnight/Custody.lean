import Oxid.Midnight.AdapterSteps

/-!
# Who has the draft

Of the submissions of a draft only the last one may have it in custody, and while it does
nobody else gives it back.  What counts as having it, and when an expired draft is at its
end, are parameters.
-/

namespace Oxid.Midnight
open Foundation Wallet PassportVault Transaction Transition

namespace Attempt

def OnlyMarks : Act → Prop
  | .update update => update = .markOutcomeUnknown
  | .terminate => True

def WaiterMarks (a : Attempt) : Prop :=
  ∀ task, a.task .waiter = some task → task.Every (fun _ => True) OnlyMarks

section Waiters
variable {flow : Flow} {a : Attempt} {journal : Journal} {move : AttemptMove} {moved : Moved}

theorem waiterMarks_new (key : SubmissionKey) (attempt : SubmissionAttempt) :
    (new key attempt).WaiterMarks := by
  intro task h
  cases h

theorem WaiterMarks.of_move (h : a.WaiterMarks) (heffect : a.Effect flow journal move moved) :
    moved.attempt.WaiterMarks := by
  refine heffect.every h (fun task hbegins => ?_) fun _ _ _ _ => trivial
  have hlost : flow.lost.Every (fun _ => True) OnlyMarks := by
    cases flow <;> simp [Flow.lost, Task.Every, OnlyMarks]
  cases hbegins <;> exact hlost

theorem Effect.update_origin {update} (heffect : a.Effect flow journal move moved)
    (hwaiter : a.WaiterMarks) (hupdate : moved.update = some update) :
    update = .markOutcomeUnknown ∨
      a.alive ∧ moved.attempt.alive = false ∧ moved.attempt.passed = a.passed ∧
        (move = .spawnFailed ∧ a.worker = .spawning ∧ update = .restoreAuthorized .notStarted ∨
          ∃ missing, move = .advance .worker ∧ a.task .worker = some (.update update missing)) := by
  rcases heffect.update hupdate with
    ⟨hmove, hworker, hafter, hpassed, hrestore⟩ | ⟨party, missing, hmove, htask, hmoved⟩
  · refine .inr ⟨?_, ?_, hpassed, .inl ⟨hmove, hworker, hrestore⟩⟩
    · rw [Attempt.alive, hworker]
    · rw [Attempt.alive, hafter]
  · cases party with
    | waiter => exact .inl (hwaiter _ htask).1
    | worker =>
      have hworker := htask
      rw [Attempt.task] at hworker
      split at hworker
      · rename_i hfinishing
        cases hworker
        refine .inr ⟨?_, ?_, ?_, .inr ⟨missing, hmove, htask⟩⟩
        · rw [Attempt.alive, hfinishing]
          rfl
        · rw [hmoved]
          rfl
        · rw [hmoved, passed_setTask]
      · cases hworker

end Waiters
end Attempt

namespace Adapter

def Secured (stuck : UInt64 → Prop) (retained : RetainedDraft) : Prop :=
  retained.state = .submitting ∨ retained.state = .submitted ∨
    retained.state = .expired ∧ stuck retained.expiresAt

/-- Of the submissions of a draft only the last has it, and while it does, the draft is secured. -/
structure Custody (held : Attempt → Prop) (stuck : UInt64 → Prop) (key : SubmissionKey)
    (s : Adapter) : Prop where
  latest : ∀ (i j : ℕ) a b, s.attempts[i]? = some a → a.control.key = key → held a →
    s.attempts[j]? = some b → b.control.key = key → j ≤ i
  secured : ∀ (i : ℕ) a retained, s.attempts[i]? = some a → a.control.key = key → held a →
    s.drafts.get key = some retained → Secured stuck retained

section Custody
variable {flow : Flow} {s t : Adapter} {e : AdapterEvent} {es : List AdapterEvent}
  {key : SubmissionKey} {held : Attempt → Prop} {stuck stuck' : UInt64 → Prop}
  {retained after : RetainedDraft}

theorem Secured.not_prepared (h : Secured stuck retained) : retained.state ≠ .prepared := by
  rcases h with h | h | ⟨h, -⟩ <;> simp [h]

theorem Secured.not_authorized (h : Secured stuck retained) : retained.state ≠ .authorized := by
  rcases h with h | h | ⟨h, -⟩ <;> simp [h]

section
variable (h : Secured stuck retained) (hstuck : ∀ expiresAt, stuck expiresAt → stuck' expiresAt)
include h hstuck

theorem Secured.of_leaves (hexpires : after.expiresAt = retained.expiresAt)
    (hstate : after.state = retained.state ∨ after.state = .submitted) : Secured stuck' after := by
  rcases hstate with hsame | hsubmitted
  · rw [Secured, hsame, hexpires]
    rcases h with h | h | ⟨h, hexpired⟩
    · exact .inl h
    · exact .inr (.inl h)
    · exact .inr (.inr ⟨h, hstuck _ hexpired⟩)
  · exact .inr (.inl hsubmitted)

theorem Secured.authorize {challenge now signed}
    (hexpires : flow.lapses challenge now retained → stuck' retained.expiresAt)
    (hsigns : flow = .transfer → retained.state = .expired → retained.expiresAt ≤ now) :
    Secured stuck' (flow.authorize challenge now signed retained) := by
  rcases flow.authorize_leaves challenge now signed retained with
    hsame | ⟨hlate, hexpired⟩ | ⟨hearly, hsignable, -⟩
  · rw [hsame]
    exact h.of_leaves hstuck rfl (.inl rfl)
  · rw [hexpired]
    exact .inr (.inr ⟨Flow.state_expire, by simpa using hexpires hlate⟩)
  · rcases hsignable with hprepared | ⟨hflow, hstate⟩
    · exact absurd hprepared h.not_prepared
    · exact absurd (hsigns hflow hstate) hearly

theorem Secured.submit {now control} : Secured stuck' (flow.submit now control retained).2 := by
  rcases flow.submit_leaves now control retained with
    ⟨-, hsame⟩ | ⟨-, hstate | hstate, -⟩ | ⟨-, hstate, -⟩
  · rw [hsame]
    exact h.of_leaves hstuck rfl (.inl rfl)
  · exact absurd hstate h.not_prepared
  · exact absurd hstate h.not_authorized
  · exact absurd hstate h.not_authorized

theorem Secured.get {now} : Secured stuck' (flow.get now retained) := by
  rcases flow.get_leaves now retained with
    hsame | ⟨hstate | hstate, -⟩
  · rw [hsame]
    exact h.of_leaves hstuck rfl (.inl rfl)
  · exact absurd hstate h.not_prepared
  · exact absurd hstate h.not_authorized

end

theorem custody_start (journal : Journal) (key : SubmissionKey) :
    Custody held stuck key (start journal) where
  latest _ _ _ _ h := by cases h
  secured _ _ _ h := by cases h

structure Guarded (flow : Flow) (held : Attempt → Prop) (stuck stuck' : UInt64 → Prop)
    (key : SubmissionKey) (s : Adapter) (e : AdapterEvent) : Prop where
  expired : ∀ expiresAt, stuck expiresAt → stuck' expiresAt
  later : ∀ a b, a.Later flow s.journal b → held b → held a
  authorize : ∀ challenge now signed retained, e = .authorize key challenge now signed →
    s.drafts.get key = some retained → Secured stuck retained →
    (flow.lapses challenge now retained → stuck' retained.expiresAt) ∧
      (flow = .transfer → retained.state = .expired → retained.expiresAt ≤ now)
  returns : ∀ (i : ℕ) a move moved update, s.attempts[i]? = some a →
    a.Effect flow s.journal move moved → moved.update = some update → update.returns →
    held a ∧ ¬ held moved.attempt

theorem Custody.latest_step (hcustody : Custody held stuck key s)
    (hguarded : Guarded flow held stuck stuck' key s e) (h : s.step flow e = some t)
    {i j : ℕ} {a b : Attempt} (ha : t.attempts[i]? = some a) (hkey : a.control.key = key)
    (hheld : held a) (hb : t.attempts[j]? = some b) (hkey' : b.control.key = key) : j ≤ i := by
  rcases attempt_origin h ha with ⟨a', ha', hlater⟩ | ⟨rfl, -⟩
  · have hheld' := hguarded.later a' a hlater hheld
    rcases attempt_origin h hb with ⟨b', hb', hlater'⟩ | ⟨-, now, retained, -, hdraft, hstate, -⟩
    · exact hcustody.latest i j a' b' ha' (hlater.key ▸ hkey) hheld' hb' (hlater'.key ▸ hkey')
    · rw [hkey'] at hdraft
      exact absurd hstate
        (hcustody.secured i a' retained ha' (hlater.key ▸ hkey) hheld' hdraft).not_authorized
  · rcases attempt_origin h hb with ⟨b', hb', -⟩ | ⟨rfl, -⟩
    · exact (List.getElem?_eq_some_iff.mp hb').1.le
    · exact le_rfl

theorem Custody.secured_step (hcustody : Custody held stuck key s) (hfresh : Fresh es key s)
    (hguarded : Guarded flow held stuck stuck' key s e) (h : s.step flow e = some t)
    {i : ℕ} {a : Attempt} (ha : t.attempts[i]? = some a) (hkey : a.control.key = key)
    (hheld : held a) (hafter : t.drafts.get key = some after) : Secured stuck' after := by
  rcases attempt_origin h ha with ⟨a', ha', hlater⟩ | ⟨-, now, retained, -, -, -, hdraft⟩
  · have hheld' := hguarded.later a' a hlater hheld
    have hkey' : a'.control.key = key := hlater.key ▸ hkey
    have hsecured := fun retained => hcustody.secured i a' retained ha' hkey' hheld'
    have hchange := (changes_of_step h).draft key
    rw [hafter] at hchange
    generalize hsome : some after = result at hchange
    cases hchange with
    | kept => exact (hsecured after hsome.symm).of_leaves hguarded.expired rfl (.inl rfl)
    | retained n terms hn => exact absurd hkey' ((hfresh.planned n terms hn).2 i a' ha')
    | authorized challenge now signed before hbefore =>
      cases hsome
      obtain ⟨hexpires, hsigns⟩ := hguarded.authorize challenge now signed before rfl hbefore
        (hsecured before hbefore)
      exact (hsecured before hbefore).authorize hguarded.expired hexpires hsigns
    | submitted _ before hbefore =>
      cases hsome
      exact (hsecured before hbefore).submit hguarded.expired
    | got _ before hbefore =>
      cases hsome
      exact (hsecured before hbefore).get hguarded.expired
    | cancelled before hbefore =>
      cases hsome
      exact (hsecured before hbefore).of_leaves hguarded.expired rfl (.inl rfl)
    | updated j move _ b moved update before hb hkey'' heffect hupdate hbefore hmoved =>
      cases hreturns : update.returns with
      | false =>
        obtain ⟨hexpires, hstate⟩ := Flow.update_leaves hsome.symm hreturns
        exact (hsecured before hbefore).of_leaves hguarded.expired hexpires hstate
      | true =>
        -- Who gives the draft back had it, so it is the last one, and has it no more.
        obtain ⟨hheldb, hnot⟩ :=
          hguarded.returns j b move moved update hb heffect hupdate hreturns
        have hle := hcustody.latest j i b a' hb hkey'' hheldb ha' hkey'
        have hge := hcustody.latest i j a' b ha' hkey' hheld' hb hkey''
        have hij : i = j := le_antisymm hle hge
        rw [← hij, ha] at hmoved
        cases hmoved
        exact absurd hheld hnot
    | settled n _ before _ hbefore =>
      obtain ⟨hexpires, hstate⟩ := reconcileDraft_leaves hsome.symm
      exact (hsecured before hbefore).of_leaves hguarded.expired hexpires hstate
  · rw [hkey, hafter] at hdraft
    cases hdraft
    exact .inl rfl

/-- **Custody.**  A step that meets the conditions keeps the draft in custody. -/
theorem Custody.step (hcustody : Custody held stuck key s) (hfresh : Fresh es key s)
    (hguarded : Guarded flow held stuck stuck' key s e) (h : s.step flow e = some t) :
    Custody held stuck' key t where
  latest _ _ _ _ := hcustody.latest_step hguarded h
  secured _ _ _ := hcustody.secured_step hfresh hguarded h

end Custody

end Adapter
end Oxid.Midnight
