import Oxid.Midnight.Custody

/-!
# Submitting and submitted drafts

A submitted draft stays so, and a draft that is being submitted is left to its worker and to
reconciliations, provided that no `authorize` is called at or past the expiry: it looks at the
clock before it looks at the state.
-/

namespace Oxid.Midnight
open Foundation Wallet PassportVault Transaction Transition Option

namespace Adapter

section Submitted
variable {flow : Flow} {s t : Adapter} {e : AdapterEvent} {es : List AdapterEvent}
  {key : SubmissionKey} {journal : Journal} {before after : RetainedDraft}

/-- No call of `authorize` that would expire the draft finds it submitting or submitted, and no
worker of a registration finds it submitted when it is to expire it. -/
def timely (flow : Flow) (key : SubmissionKey) (s : Adapter) : AdapterEvent → Bool
  | .authorize key' challenge now _ =>
    key' ≠ key || (s.drafts.get key).all fun retained => !flow.lapses challenge now retained ||
      retained.state ≠ .submitting && retained.state ≠ .submitted
  | .attempt i (.advance .worker) _ =>
    s.attempts[i]?.all fun a =>
      match flow, a.task .worker with
      | .registration, some (.update .expire _) => a.control.key ≠ key ||
        (s.drafts.get key).all fun retained => retained.state ≠ .submitted
      | _, _ => true
  | _ => true

theorem waiterMarks_of_run (hrun : run (step flow) (start journal) es = some t) :
    ∀ (i : ℕ) a, t.attempts[i]? = some a → a.WaiterMarks := by
  refine attempts_invariant (C := fun _ _ => true) Attempt.waiterMarks_new (fun _ _ h => h)
    (fun _ _ _ _ h _ heffect => h.of_move heffect) (fun _ _ h => by cases h) ?_ hrun
  intro _ e _ p _ _
  cases e <;> simp [movesMeet]

theorem guarded_alive (hwaiter : ∀ (i : ℕ) a, s.attempts[i]? = some a → a.WaiterMarks)
    (htimely : s.timely flow key e) :
    Guarded flow (fun a => a.alive) (fun _ => False) (fun _ => False) key s e where
  expired _ h := h
  later _ _ h := h.alive
  authorize := by
    rintro challenge now signed retained rfl hdraft hsecured
    rw [timely, hdraft, all_some] at htimely
    rcases hsecured with hstate | hstate | ⟨-, habsurd⟩
    · simpa [hstate] using htimely
    · simpa [hstate] using htimely
    · exact habsurd.elim
  returns i a move moved update ha heffect hupdate hreturns := by
    rcases heffect.update_origin (hwaiter i a ha) hupdate with rfl | ⟨halive, hdead, -⟩
    · cases hreturns
    · exact ⟨halive, by simp [hdead]⟩

theorem custody_alive (hdistinct : DistinctDrafts es)
    (htimely : EveryStep (step flow) (fun s e => s.timely flow key e) (start journal) es)
    (hrun : run (step flow) (start journal) es = some t) :
    Custody (fun a => a.alive) (fun _ => False) key t := by
  refine run_induction_while (H := fun es => DistinctDrafts es ∧
    EveryStep (step flow) (fun s e => s.timely flow key e) (start journal) es)
    (motive := fun _ t => Custody (fun a => a.alive) (fun _ => False) key t)
    (fun _ _ h => ⟨h.1.of_concat, h.2.of_concat⟩) (custody_start journal key) ?_
    ⟨hdistinct, htimely⟩ hrun
  rintro es p e q ⟨hdistinct, htimely⟩ hp ih hstep
  exact ih.step (fresh_of_run hdistinct.of_concat hp key)
    (guarded_alive (waiterMarks_of_run hp) (htimely.last hp)) hstep

def OwnWorker (s : Adapter) (key : SubmissionKey) (e : AdapterEvent) : Prop :=
  ∃ (i : ℕ) (a : Attempt) (faults : JournalFaults), s.attempts[i]? = some a ∧ a.control.key = key ∧
    a.alive ∧ (∀ (j : ℕ) b, s.attempts[j]? = some b → b.control.key = key → j ≤ i) ∧
    (e = .attempt i (.advance .worker) faults ∨ e = .attempt i .spawnFailed faults)

def Reconciled (s : Adapter) (key : SubmissionKey) (e : AdapterEvent) : Prop :=
  ∃ (n : ℕ) (entry : JournalEntry), e = .settle n ∧ s.reconciliations[n]? = some (.saved key entry)

theorem authorize_eq_self {challenge now signed} (hdraft : s.drafts.get key = some before)
    (hstate : before.state = .submitting ∨ before.state = .submitted)
    (htimely : s.timely flow key (.authorize key challenge now signed)) :
    flow.authorize challenge now signed before = before := by
  rw [timely, hdraft, all_some] at htimely
  rcases flow.authorize_leaves challenge now signed before with
    hsame | ⟨hlate, -⟩ | ⟨-, hsignable, -⟩
  · exact hsame
  · rcases hstate with hstate | hstate <;> simp [hstate, hlate] at htimely
  · rcases hsignable with h | ⟨-, h⟩ <;> rcases hstate with hstate | hstate <;>
      cases h.symm.trans hstate

theorem submit_eq_self {now control}
    (hstate : before.state = .submitting ∨ before.state = .submitted) :
    (flow.submit now control before).2 = before := by
  rcases flow.submit_leaves now control before with
    ⟨-, hsame⟩ | ⟨-, h | h, -⟩ | ⟨-, h, -⟩
  · exact hsame
  all_goals rcases hstate with hstate | hstate <;> cases h.symm.trans hstate

theorem get_eq_self {now} (hstate : before.state = .submitting ∨ before.state = .submitted) :
    flow.get now before = before := by
  rcases flow.get_leaves now before with
    hsame | ⟨h | h, -⟩
  · exact hsame
  all_goals rcases hstate with hstate | hstate <;> cases h.symm.trans hstate

inductive HeldChange (flow : Flow) (s : Adapter) (key : SubmissionKey) (before : RetainedDraft)
    (e : AdapterEvent) : Option RetainedDraft → Prop
  | same (after : RetainedDraft) (h : after.state = before.state) :
      HeldChange flow s key before e (some after)
  | worked (update) (h : OwnWorker s key e)
      (hexpire : before.state = .submitted → ¬ (flow = .registration ∧ update = .expire)) :
      HeldChange flow s key before e (flow.update update before)
  | reconciled (entry) (h : Reconciled s key e) :
      HeldChange flow s key before e (reconcileDraft entry before)

theorem heldChange_of_update {i : ℕ} {a} {move : AttemptMove} {moved} {faults : JournalFaults}
    {update : DraftUpdate} (hwaiter : a.WaiterMarks)
    (hcustody : Custody (fun a => a.alive) (fun _ => False) key s)
    (htimely : s.timely flow key (.attempt i move faults)) (ha : s.attempts[i]? = some a)
    (hkey : a.control.key = key) (heffect : a.Effect flow s.journal move moved)
    (hupdate : moved.update = some update) (hbefore : s.drafts.get key = some before) :
    HeldChange flow s key before (.attempt i move faults) (flow.update update before) := by
  rcases heffect.update_origin hwaiter hupdate with rfl | ⟨halive, -, -, hlast⟩
  · cases flow with
    | transfer =>
      refine .same _ ?_
      rw [Transfer.markSubmissionOutcomeUnknown]
      split_ifs <;> rfl
    | registration => exact .same _ rfl
  · have hown : ∀ (j : ℕ) b, s.attempts[j]? = some b → b.control.key = key → j ≤ i :=
      fun j b hb hkeyb => hcustody.latest i j a b ha hkey halive hb hkeyb
    rcases hlast with ⟨rfl, -, rfl⟩ | ⟨missing, rfl, htask⟩
    · refine .worked _ ⟨i, a, faults, ha, hkey, halive, hown, .inr rfl⟩ ?_
      rintro - ⟨-, hexpire⟩
      cases hexpire
    · refine .worked _ ⟨i, a, faults, ha, hkey, halive, hown, .inl rfl⟩ ?_
      rintro hsubmitted ⟨rfl, rfl⟩
      rw [timely, ha, all_some, htask] at htimely
      simp [hkey, hbefore, hsubmitted] at htimely

theorem heldChange_of_step (hwaiter : ∀ (i : ℕ) a, s.attempts[i]? = some a → a.WaiterMarks)
    (hcustody : Custody (fun a => a.alive) (fun _ => False) key s)
    (hfresh : Fresh es key s) (htimely : s.timely flow key e) (h : s.step flow e = some t)
    (hbefore : s.drafts.get key = some before)
    (hstate : before.state = .submitting ∨ before.state = .submitted) :
    HeldChange flow s key before e (t.drafts.get key) := by
  have hchange := (changes_of_step h).draft key
  generalize t.drafts.get key = result at hchange
  cases hchange with
  | kept =>
    rw [hbefore]
    exact .same before rfl
  | retained n terms hn =>
    rw [(hfresh.planned n terms hn).1] at hbefore
    cases hbefore
  | authorized _ _ _ _ hdraft =>
    rw [hbefore] at hdraft
    cases hdraft
    exact .same _ (by rw [authorize_eq_self hbefore hstate htimely])
  | submitted _ _ hdraft =>
    rw [hbefore] at hdraft
    cases hdraft
    exact .same _ (by rw [submit_eq_self hstate])
  | got _ _ hdraft =>
    rw [hbefore] at hdraft
    cases hdraft
    exact .same _ (by rw [get_eq_self hstate])
  | cancelled _ hdraft =>
    rw [hbefore] at hdraft
    cases hdraft
    exact .same _ rfl
  | updated i _ _ a _ _ _ ha hkey heffect hupdate hdraft =>
    rw [hbefore] at hdraft
    cases hdraft
    exact heldChange_of_update (hwaiter i a ha) hcustody htimely ha hkey heffect hupdate hbefore
  | settled n entry _ hn hdraft =>
    rw [hbefore] at hdraft
    cases hdraft
    exact .reconciled entry ⟨n, entry, rfl, hn⟩

/-- **A submitted draft stays submitted**, if every step is timely and plans have distinct drafts,
until it is removed; and one that is being submitted stays so until its own worker or a
reconciliation ends it. -/
theorem submitted_stays_submitted (hdistinct : DistinctDrafts es)
    (htimely : EveryStep (step flow) (fun s e => s.timely flow key e) (start journal) (es ++ [e]))
    (hrun : run (step flow) (start journal) es = some s) (hstep : s.step flow e = some t)
    (hbefore : s.drafts.get key = some before) :
    (before.state = .submitted → ∀ after, t.drafts.get key = some after →
      after.state = .submitted) ∧ (before.state = .submitting →
      (∃ after, t.drafts.get key = some after ∧ after.state = .submitting) ∨
        OwnWorker s key e ∨ Reconciled s key e) := by
  have hheld := heldChange_of_step (waiterMarks_of_run hrun)
    (custody_alive hdistinct htimely.of_concat hrun) (fresh_of_run hdistinct hrun key)
    (htimely.last hrun) hstep hbefore
  constructor
  · intro hstate after hafter
    have hchange := hheld (.inr hstate)
    rw [hafter] at hchange
    generalize hsome : some after = result at hchange
    cases hchange with
    | same _ hsame =>
      cases hsome
      exact hsame.trans hstate
    | worked _ _ hexpire => exact Flow.update_submitted hsome.symm hstate (hexpire hstate)
    | reconciled =>
      rcases (reconcileDraft_leaves hsome.symm).2 with hsame | hsubmitted
      · exact hsame.trans hstate
      · exact hsubmitted
  · intro hstate
    have hchange := hheld (.inl hstate)
    generalize t.drafts.get key = result at hchange
    cases hchange with
    | same after hsame => exact .inl ⟨after, rfl, hsame.trans hstate⟩
    | worked _ hown => exact .inr (.inl hown)
    | reconciled _ hreconciled => exact .inr (.inr hreconciled)

theorem submitted_stays_submitted_get :
    ∃ s t before, run (step .transfer) (start .empty) (includedRun .transfer) = some s ∧
      s.step .transfer (.get (sampleKey .transfer) 5000) = some t ∧
      s.drafts.get (sampleKey .transfer) = some before ∧ before.state = .submitted ∧
      ∀ after, t.drafts.get (sampleKey .transfer) = some after → after.state = .submitted := by
  have hstate : stateAfter .transfer (includedRun .transfer) = some .submitted := by
    decide +kernel
  obtain ⟨s, hrun, hdraft⟩ := bind_eq_some_iff.mp hstate
  obtain ⟨before, hbefore, hsubmitted⟩ := map_eq_some_iff.mp hdraft
  have hstays := submitted_stays_submitted (e := .get (sampleKey .transfer) 5000)
    (by decide +kernel) (by decide +kernel) hrun rfl hbefore
  exact ⟨s, _, before, hrun, rfl, hbefore, hsubmitted, hstays.1 hsubmitted⟩

def expiring (flow : Flow) : List (Option DraftState) :=
  [submittingRun flow, submittingRun flow ++ [flow.signing 1000], includedRun flow,
    includedRun flow ++ [flow.signing 1000]].map (stateAfter flow)

/-- In both flows the call takes the draft from its worker, and turns an included one into an
expired one. -/
theorem authorize_expires_submitted :
    expiring .transfer = [some .submitting, some .expired, some .submitted, some .expired] ∧
      expiring .registration =
        [some .submitting, some .expired, some .submitted, some .expired] := by
  decide +kernel

/-! ## Signed material -/

/-- A draft holds a signed transaction only while it is authorized or being submitted, and a
payload to sign only while it is prepared. -/
def Sparing (retained : RetainedDraft) : Prop :=
  (retained.signedTransaction.isSome → retained.state = .authorized ∨
    retained.state = .submitting) ∧
  (retained.signingPayload ≠ [] → retained.state = .prepared)

/-- A reconciliation that found the transaction included settles no draft that still holds
signed material: it does not clear it. -/
def retires (s : Adapter) : AdapterEvent → Bool
  | .settle n =>
    match s.reconciliations[n]? with
    | some (.saved key entry) =>
      entry.state ≠ .included || entry.blockHash.isNone ||
        (s.drafts.get key).all fun retained =>
          retained.signedTransaction.isNone && retained.signingPayload.isEmpty
    | _ => true
  | _ => true

theorem sparing_of_cleared (hsigned : after.signedTransaction = none)
    (hpayload : after.signingPayload = []) : Sparing after :=
  ⟨fun h => by simp [hsigned] at h, fun h => absurd hpayload h⟩

theorem sparing_expire (flow : Flow) : Sparing (flow.expire before) := by
  cases flow with
  | transfer => exact sparing_of_cleared rfl rfl
  | registration => exact sparing_of_cleared rfl rfl

theorem Sparing.payload (h : Sparing before) (hstate : before.state ≠ .prepared) :
    before.signingPayload = [] := by
  by_contra hne
  exact hstate (h.2 hne)

theorem Sparing.authorize (h : Sparing before) (challenge : OpaqueId) (now : UInt64)
    (signed : Except TransactionPortError Transaction) :
    Sparing (flow.authorize challenge now signed before) := by
  rcases flow.authorize_leaves challenge now signed before with
    hsame | ⟨-, hexpired⟩ | ⟨-, -, transaction, hauthorized⟩
  · rwa [hsame]
  · rw [hexpired]
    exact sparing_expire flow
  · rw [hauthorized]
    exact ⟨fun _ => .inl rfl, fun hne => absurd rfl hne⟩

theorem Sparing.submit (h : Sparing before) (now : UInt64) (control : ℕ) :
    Sparing (flow.submit now control before).2 := by
  rcases flow.submit_leaves now control before with
    ⟨-, hsame⟩ | ⟨-, -, hexpired⟩ | ⟨-, hstate, hsubmitted⟩
  · rwa [hsame]
  · rw [hexpired]
    exact sparing_expire flow
  · rw [hsubmitted]
    exact ⟨fun _ => .inr rfl, fun hne => absurd (h.payload (by simp [hstate])) hne⟩

theorem Sparing.get (h : Sparing before) (now : UInt64) : Sparing (flow.get now before) := by
  rcases flow.get_leaves now before with hsame | ⟨-, hexpired⟩
  · rwa [hsame]
  · rw [hexpired]
    exact sparing_expire flow

theorem Sparing.update {update} (h : Sparing before)
    (hupdate : flow.update update before = some after) : Sparing after := by
  cases Flow.updated_of_update hupdate with
  | kept => exact h
  | restored _ hstate =>
    exact ⟨fun _ => .inl rfl, fun hne => absurd (h.payload (by simp [hstate])) hne⟩
  | unsettled => exact h
  | expired => exact ⟨(sparing_expire flow).1, (sparing_expire flow).2⟩
  | completed _ hstate => exact sparing_of_cleared rfl (h.payload (by simp [hstate]))

theorem sparing_reconcileDraft_iff {entry} (h : Sparing before)
    (hafter : reconcileDraft entry before = some after) :
    Sparing after ↔ entry.state = .included → entry.blockHash.isSome →
      before.signedTransaction = none ∧ before.signingPayload = [] := by
  rw [reconcileDraft] at hafter
  split at hafter <;> cases hafter
  · rename_i hstate hhash
    rw [hstate, hhash]
    constructor
    · rintro ⟨hsigned, hpayload⟩ - -
      constructor
      · cases hheld : before.signedTransaction with
        | none => rfl
        | some => simp [hheld] at hsigned
      · by_contra hne
        cases hpayload hne
    · intro hcleared
      exact sparing_of_cleared (hcleared rfl rfl).1 (hcleared rfl rfl).2
  · rename_i hhash
    simp [h, hhash]
  all_goals
    rename_i hstate
    simp only [hstate, reduceCtorEq, false_imp_iff, iff_true]
    exact h

theorem retires_settle_iff {n entry} (hn : s.reconciliations[n]? = some (.saved key entry))
    (hbefore : s.drafts.get key = some before) :
    s.retires (.settle n) ↔ (entry.state = .included → entry.blockHash.isSome →
      before.signedTransaction = none ∧ before.signingPayload = []) := by
  simp only [retires, hn, hbefore, all_some]
  cases entry.blockHash <;> simp [Classical.or_iff_not_imp_left]

def AllSparing (s : Adapter) : Prop := ∀ key retained, s.drafts.get key = some retained →
  Sparing retained

theorem AllSparing.step (hs : s.AllSparing) (hretires : s.retires e)
    (h : s.step flow e = some t) : t.AllSparing := by
  intro key after hafter
  have hchange := (changes_of_step h).draft key
  rw [hafter] at hchange
  generalize hsome : some after = result at hchange
  cases hchange with
  | kept => exact hs key after hsome.symm
  | retained =>
    cases hsome
    exact ⟨nofun, fun _ => rfl⟩
  | authorized challenge now signed before hbefore =>
    cases hsome
    exact (hs key before hbefore).authorize challenge now signed
  | submitted now before hbefore =>
    cases hsome
    exact (hs key before hbefore).submit now s.attempts.length
  | got now before hbefore =>
    cases hsome
    exact (hs key before hbefore).get now
  | cancelled before hbefore =>
    cases hsome
    exact hs key before hbefore
  | updated i _ _ a _ _ before _ _ _ _ hbefore => exact (hs key before hbefore).update hsome.symm
  | settled n _ before hn hbefore =>
    exact (sparing_reconcileDraft_iff (hs key before hbefore) hsome.symm).mpr
      ((retires_settle_iff hn hbefore).mp hretires)

theorem AllSparing.retires (flow : Flow) (hs : s.AllSparing)
    (h : ∀ t, s.step flow e = some t → t.AllSparing) : s.retires e := by
  cases e with
  | settle n =>
    cases hn : s.reconciliations[n]? with
    | none => rw [Adapter.retires, hn]
    | some stage =>
      cases stage with
      | loaded | returned => rw [Adapter.retires, hn]
      | saved key entry =>
        cases hbefore : s.drafts.get key with
        | none => simp [Adapter.retires, hn, hbefore]
        | some before =>
          rw [retires_settle_iff hn hbefore]
          cases hafter : reconcileDraft entry before with
          | none =>
            intro hstate hhash
            obtain ⟨blockHash, hhash⟩ := isSome_iff_exists.mp hhash
            simp [reconcileDraft, hstate, hhash] at hafter
          | some after =>
            rw [← sparing_reconcileDraft_iff (hs key before hbefore) hafter]
            refine h _ (by rw [Adapter.step, hn]) key after ?_
            simp [get_replaceDraft, hbefore, hafter]
  | _ => rfl

/-- **Signed material is kept only while it is needed**, in every state of a run, exactly if no
reconciliation of the run settles, as included, a draft that still holds signed material. -/
theorem signed_material_needed_iff (flow : Flow) (journal : Journal) (es : List AdapterEvent) :
    (∀ before after t, es = before ++ after →
        run (step flow) (start journal) before = some t → t.AllSparing) ↔
      EveryStep (step flow) (fun s e => s.retires e) (start journal) es := by
  constructor
  · intro hall before e after s heq hrun
    refine (hall before (e :: after) s heq hrun).retires flow fun t hstep => ?_
    refine hall (before ++ [e]) after t (by simp [heq]) ?_
    exact run_concat_eq_some.mpr ⟨s, hrun, hstep⟩
  · intro hretires before after t heq hrun
    subst heq
    refine run_invariant_of_everyStep AllSparing ?_ (fun p e q hp hC hstep => hp.step hC hstep)
      hretires.of_append hrun
    intro key retained hget
    cases hget

theorem signed_material_needed_included :
    EveryStep (step .transfer) (fun s e => s.retires e) (start .empty) (includedRun .transfer) ∧
      ∀ before after t, includedRun .transfer = before ++ after →
        run (step .transfer) (start .empty) before = some t → t.AllSparing :=
  ⟨by decide +kernel, (signed_material_needed_iff _ _ _).mpr (by decide +kernel)⟩

def settledRun (flow : Flow) : List AdapterEvent :=
  submittingRun flow ++ [beginning 0,
    .attempt 0 (.complete (.error .submissionOutcomeUnknown)) .none] ++ advancing 0 .worker 3 ++
    [.reconcile (sampleKey flow) none, .persist 0 (.included (hashOfByte 4) 7) none, .settle 0]

def heldAfter (flow : Flow) : Option (DraftState × Option Transaction) :=
  (run (step flow) (start .empty) (settledRun flow)).bind fun t =>
    (t.drafts.get (sampleKey flow)).map fun retained =>
      (retained.state, retained.signedTransaction)

/-- In both flows a draft whose unknown outcome turns out to be an inclusion is submitted and
keeps its signed transaction. -/
theorem submitted_draft_holds_signature : heldAfter .transfer = some (.submitted, some [2]) ∧
      heldAfter .registration = some (.submitted, some [2]) := by
  decide +kernel

end Submitted
end Adapter
end Oxid.Midnight
