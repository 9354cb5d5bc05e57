import Oxid.Composition.DurableBroadcast

/-!
# Who releases a hold

The worker places a hold whether anybody waits for it or not; a call that fails before its
wait ends, or whose wait is dropped, does not release it, and nothing is saved any more.
`Claimed` is what a step has to respect for this not to happen.
-/

namespace Oxid.Composition
open Slots Transition Wallet Wallet.DustRegistration List

def Worker.leaves (held : UInt64) : Worker → Bool
  | .receiving | .checkingHold => true
  | .announcing job | .checkingRelease job => job.generation = held
  | _ => false

/-- The call may still release a hold of this generation: it has not begun to wait, waits for no
more than that, or has a guard of no less. -/
def SubmitStage.owns (held : UInt64) : SubmitStage → Bool
  | .validating | .targeting => true
  | .waiting target _ => target ≤ held
  | .guarded generation _ => held ≤ generation
  | .releasing (.raising generation) _ => held ≤ generation
  | .releasing (.reading released) _ => held ≤ released
  | .releasing (.exchanging released _) _ => held ≤ released
  | _ => false

theorem Worker.step_held {s s'} {w w' : Worker} (hstep : w.step s = some (s', w')) :
    s'.heldSubmissionGeneration = s.heldSubmissionGeneration ∨ s'.heldSubmissionGeneration = 0 ∨
      ∃ job, w = .holding job ∧ s'.heldSubmissionGeneration = job.generation := by
  cases w with
  | holding job =>
    cases hstep
    exact .inr (.inr ⟨job, rfl, rfl⟩)
  | clearingHold =>
    cases hstep
    exact .inr (.inl rfl)
  | receiving =>
    simp only [Worker.step] at hstep
    split at hstep <;> cases hstep
    exact .inl rfl
  | taking =>
    simp only [Worker.step] at hstep
    split at hstep
    · cases hstep
    · split at hstep <;> cases hstep <;> exact .inl rfl
  | saving => cases hstep
  | stopped => cases hstep
  | _ =>
    cases hstep
    exact .inl (by simp [RecoveryPersistenceState.notifyWaiters])

variable {state : RecoveryPersistenceState} {c : SubmitCall} {stage : SubmitStage}

namespace DustSettlement
variable {s s' : DustSettlement} {e : DustSettlementEvent}

def HoldIsOwned (s : DustSettlement) : Prop :=
  s.isIdle → ∃ es s', (∀ e ∈ es, e.isSubmit = false) ∧ run step s es = some s' ∧
    s'.state.heldSubmissionGeneration = 0

/-! ## A hold that is left behind -/

/-- Something is held, above the bar, and there is no call that could release it. -/
structure Stranded (s : DustSettlement) : Prop where
  idle : ∀ c ∈ s.calls, c.stage.isFinished
  held : s.state.heldSubmissionGeneration ≠ 0
  above : s.state.releasedSubmissionGeneration < s.state.heldSubmissionGeneration
  worker : s.worker.leaves s.state.heldSubmissionGeneration

theorem Stranded.work (h : Stranded s) {state worker}
    (hstep : s.worker.step s.state = some (state, worker)) :
    Stranded { s with state := state, worker := worker } := by
  obtain ⟨hidle, hheld, habove, hworker⟩ := h
  cases hw : s.worker with
  | receiving =>
    simp only [hw, Worker.step] at hstep
    split at hstep
    · cases hstep
      exact ⟨hidle, hheld, habove, rfl⟩
    · cases hstep
  | checkingHold =>
    simp only [hw, Worker.step, if_pos hheld] at hstep
    cases hstep
    exact ⟨hidle, hheld, habove, rfl⟩
  | announcing =>
    rw [hw] at hstep hworker
    cases hstep
    exact ⟨hidle, hheld, habove, hworker⟩
  | checkingRelease job =>
    rw [hw] at hstep hworker
    have hjob : job.generation = s.state.heldSubmissionGeneration := of_decide_eq_true hworker
    simp only [Worker.step, hjob, if_neg (UInt64.not_le.mpr habove)] at hstep
    cases hstep
    exact ⟨hidle, hheld, habove, rfl⟩
  | _ =>
    rw [hw] at hworker
    cases hworker

theorem stranded_of_step (h : Stranded s) (he : e.isSubmit = false)
    (hstep : s.step e = some s') : Stranded s' := by
  cases stepped_of_step hstep with
  | aside _ _ haside =>
    obtain ⟨hworker, -, hcalls, -, -, hheld, hreleased⟩ := haside
    refine ⟨hcalls ▸ h.idle, hheld ▸ h.held, ?_, ?_⟩
    · rw [hheld, hreleased]
      exact h.above
    · rw [hworker, hheld]
      exact h.worker
  | work hwork => exact h.work hwork
  | save hjob =>
    have hworker := h.worker
    rw [hjob] at hworker
    cases hworker
  | submit => cases he
  | @call i _ c _ _ _ hc hcall =>
    have hfinished := h.idle c (mem_of_getElem? hc)
    cases hstage : c.stage with
    | finished => simp [SubmitCall.step, hstage] at hcall
    | _ =>
      rw [hstage] at hfinished
      cases hfinished
  | @cancel i c _ hc hcancel =>
    have hfinished := h.idle c (mem_of_getElem? hc)
    cases hstage : c.stage with
    | finished => simp [SubmitStage.cancel, hstage] at hcancel
    | _ =>
      rw [hstage] at hfinished
      cases hfinished

theorem stranded_of_run {es} (h : Stranded s) (hes : ∀ e ∈ es, e.isSubmit = false)
    (hrun : run step s es = some s') : Stranded s' := by
  induction es generalizing s with
  | nil =>
    cases hrun
    exact h
  | cons e _ ih =>
    rw [run_cons, Option.bind_eq_some_iff] at hrun
    obtain ⟨p, hp, hrun⟩ := hrun
    exact ih (stranded_of_step h (hes e mem_cons_self) hp)
      (fun f hf => hes f (mem_cons_of_mem e hf)) hrun

theorem Stranded.not_owned (h : Stranded s) : ¬ HoldIsOwned s := by
  intro howned
  obtain ⟨es, s', hes, hrun, hnone⟩ := howned (by simpa [isIdle] using h.idle)
  exact (stranded_of_run h hes hrun).held hnone

/-! ## Holds with an owner -/

def placesHold (s : DustSettlement) : DustSettlementEvent → Option UInt64
  | .work =>
    match s.worker with
    | .holding job => some job.generation
    | _ => none
  | _ => none

/-- The call that ends without a guard of what is held, or begins to wait for more than that. -/
def forgoes (s : DustSettlement) : DustSettlementEvent → Option ℕ
  | .call i answer =>
    match s.calls[i]?, answer with
    | some ⟨identity, _, .validating⟩, .selected current =>
      if (validateBound s.retained identity current).isOk then none else some i
    | some ⟨_, _, .targeting⟩, .proceed =>
      if s.state.requiredSubmissionGeneration ≠ 0 ∧
        s.state.requiredSubmissionGeneration ≤ s.state.heldSubmissionGeneration
      then none else some i
    | some ⟨_, _, .waiting target wait⟩, .proceed =>
      match wait.step s.state target with
      | some (.inr guard) =>
        if guard.any (s.state.heldSubmissionGeneration ≤ ·) then none else some i
      | _ => none
    | _, _ => none
  | .cancel i =>
    match s.calls[i]? with
    | some ⟨_, _, .waiting _ _⟩ => some i
    | _ => none
  | _ => none

/-- A hold is placed only while a call is in progress that may release it; and a call that ends
without a guard of what is held is not the only one. -/
def Claimed (s : DustSettlement) (e : DustSettlementEvent) : Prop :=
  (s.placesHold e).all (fun generation => s.calls.any (·.stage.owns generation)) ∧
    (s.state.heldSubmissionGeneration ≠ 0 → (s.forgoes e).all fun i =>
      (s.calls.eraseIdx i).any (·.stage.owns s.state.heldSubmissionGeneration))

instance decidableClaimed (s : DustSettlement) (e : DustSettlementEvent) :
    Decidable (Claimed s e) :=
  inferInstanceAs (Decidable (_ ∧ (_ → _)))

def Owned (s : DustSettlement) : Prop :=
  s.state.heldSubmissionGeneration ≠ 0 →
    ∃ c ∈ s.calls, c.stage.owns s.state.heldSubmissionGeneration

theorem Claimed.other_owns (h : Claimed s e) {i} (hforgoes : s.forgoes e = some i)
    (hne : s.state.heldSubmissionGeneration ≠ 0) (x : SubmitCall) :
    ∃ c ∈ s.calls.set i x, c.stage.owns s.state.heldSubmissionGeneration := by
  have hother := h.2 hne
  rw [hforgoes, Option.all_some, any_eq_true] at hother
  obtain ⟨c, hc, howns⟩ := hother
  obtain ⟨j, hj, hc⟩ := mem_eraseIdx_iff_getElem?.mp hc
  rw [← getElem?_set_ne hj.symm (a := x)] at hc
  exact ⟨c, mem_of_getElem? hc, howns⟩

theorem owns_of_release {release result}
    (howns : (SubmitStage.releasing release result).owns state.heldSubmissionGeneration)
    (hne : state.heldSubmissionGeneration ≠ 0) :
    (release.step state).1.heldSubmissionGeneration = 0 ∨
      (SubmitStage.released result (release.step state).2).owns
        (release.step state).1.heldSubmissionGeneration := by
  cases release with
  | raising generation =>
    have hle : state.heldSubmissionGeneration ≤ generation := of_decide_eq_true howns
    exact .inr (decide_eq_true (UInt64.le_trans hle Std.right_le_max))
  | reading released =>
    have hle : state.heldSubmissionGeneration ≤ released := of_decide_eq_true howns
    have hgo : ¬ (state.heldSubmissionGeneration = 0 ||
        released < state.heldSubmissionGeneration) := by
      simp [hne, hle]
    simp only [Release.step, if_neg hgo]
    exact .inr howns
  | exchanging _ held =>
    by_cases hheld : state.heldSubmissionGeneration = held
    · exact .inl (by simp [Release.step, hheld])
    · simp only [Release.step, if_neg hheld]
      exact .inr howns
  | waking => cases howns

/-- A call that may release the hold has released it after its step, still may, or forgoes it. -/
theorem owns_of_call {i answer retained} (hc : s.calls[i]? = some c)
    (hstep : c.step s answer = some (state, retained, stage))
    (howns : c.stage.owns s.state.heldSubmissionGeneration)
    (hne : s.state.heldSubmissionGeneration ≠ 0) :
    state.heldSubmissionGeneration = 0 ∨ stage.owns state.heldSubmissionGeneration ∨
      s.forgoes (.call i answer) = some i := by
  obtain ⟨identity, draftId, before⟩ := c
  cases before with
  | validating =>
    cases answer with
    | selected current =>
      cases hstep
      simp only [forgoes, hc]
      cases validateBound s.retained identity current with
      | ok => exact .inr (.inl rfl)
      | error => exact .inr (.inr rfl)
    | _ => cases hstep
  | targeting =>
    cases answer with
    | proceed =>
      cases hstep
      simp only [forgoes, hc]
      split_ifs with hzero hrequired hrequired
      · exact absurd hzero hrequired.1
      · exact .inr (.inr rfl)
      · exact .inr (.inl (decide_eq_true hrequired.2))
      · exact .inr (.inr rfl)
    | _ => cases hstep
  | waiting target =>
    cases answer with
    | proceed =>
      obtain ⟨next, hnext, hstep⟩ := Option.map_eq_some_iff.mp hstep
      cases hstep
      cases next with
      | inl => exact .inr (.inl howns)
      | inr guard =>
        simp only [forgoes, hc, hnext]
        split_ifs with hguard
        · cases guard with
          | none => cases hguard
          | some => exact .inr (.inl hguard)
        · exact .inr (.inr rfl)
    | _ => cases hstep
  | guarded =>
    obtain ⟨⟨retained', flow⟩, hnext, hstep⟩ := Option.map_eq_some_iff.mp hstep
    cases hstep
    cases flow <;> exact .inr (.inl howns)
  | releasing =>
    cases answer with
    | proceed =>
      cases hstep
      exact (owns_of_release howns hne).imp_right .inl
    | _ => cases hstep
  | finished => cases howns

theorem owns_of_cancel {i} (hc : s.calls[i]? = some c) (hcancel : c.stage.cancel = some stage)
    (howns : c.stage.owns s.state.heldSubmissionGeneration) :
    stage.owns s.state.heldSubmissionGeneration ∨ s.forgoes (.cancel i) = some i := by
  obtain ⟨identity, draftId, before⟩ := c
  cases before with
  | waiting => exact .inr (by simp [forgoes, hc])
  | guarded =>
    simp only [SubmitStage.cancel] at hcancel
    split at hcancel <;> cases hcancel
    exact .inl howns
  | _ => cases hcancel

theorem call_held {answer retained} (hstep : c.step s answer = some (state, retained, stage)) :
    state.heldSubmissionGeneration = s.state.heldSubmissionGeneration ∨
      state.heldSubmissionGeneration = 0 := by
  unfold SubmitCall.step at hstep
  split at hstep
  · cases hstep
    exact .inl rfl
  · cases hstep
    exact .inl rfl
  · obtain ⟨next, -, hstep⟩ := Option.map_eq_some_iff.mp hstep
    cases hstep
    exact .inl rfl
  · obtain ⟨next, -, hstep⟩ := Option.map_eq_some_iff.mp hstep
    cases hstep
    exact .inl rfl
  · rename_i release result _
    cases hstep
    cases release with
    | exchanging =>
      simp only [Release.step]
      split
      · exact .inr rfl
      · exact .inl rfl
    | _ => exact .inl rfl
  · cases hstep

theorem owned_of_step (h : Owned s) (hclaimed : Claimed s e) (hstep : s.step e = some s') :
    Owned s' := by
  intro hne
  cases stepped_of_step hstep with
  | aside _ _ haside =>
    rw [haside.held] at hne ⊢
    rw [haside.calls]
    exact h hne
  | work hwork =>
    rcases Worker.step_held hwork with hkept | hnone | ⟨job, hjob, hplaced⟩
    · rw [hkept] at hne ⊢
      exact h hne
    · exact absurd hnone hne
    · have hplaces := hclaimed.1
      simp only [placesHold, hjob, Option.all_some, any_eq_true] at hplaces
      rw [hplaced]
      exact hplaces
  | save => exact h hne
  | submit =>
    obtain ⟨c, hc, howns⟩ := h hne
    exact ⟨c, mem_append_left _ hc, howns⟩
  | @call i _ c _ _ stage hc hcall =>
    rcases call_held hcall with hkept | hnone
    · have hbefore : s.state.heldSubmissionGeneration ≠ 0 := hkept ▸ hne
      obtain ⟨d, hd, howns⟩ := h hbefore
      rcases mem_set_or_eq hc hd { c with stage := stage } with hmem | rfl
      · exact ⟨d, hmem, hkept ▸ howns⟩
      · rcases owns_of_call hc hcall howns hbefore with hnone | howns' | hforgoes
        · exact absurd hnone hne
        · exact ⟨_, mem_set_self hc _, howns'⟩
        · rw [hkept]
          exact hclaimed.other_owns hforgoes hbefore _
    · exact absurd hnone hne
  | @cancel i c stage hc hcancel =>
    obtain ⟨d, hd, howns⟩ := h hne
    rcases mem_set_or_eq hc hd { c with stage := stage } with hmem | rfl
    · exact ⟨d, hmem, howns⟩
    · rcases owns_of_cancel hc hcancel howns with howns' | hforgoes
      · exact ⟨_, mem_set_self hc _, howns'⟩
      · exact hclaimed.other_owns hforgoes hne _

theorem Owned.none_of_idle (h : Owned s) (hidle : s.isIdle) :
    s.state.heldSubmissionGeneration = 0 := by
  by_contra hne
  obtain ⟨c, hc, howns⟩ := h hne
  have hfinished : c.stage.isFinished := by
    have hall : ∀ c ∈ s.calls, c.stage.isFinished := by simpa [isIdle] using hidle
    exact hall c hc
  cases hstage : c.stage with
  | finished =>
    rw [hstage] at howns
    cases howns
  | _ =>
    rw [hstage] at hfinished
    cases hfinished

/-- In a run whose steps are all claimed, a hold is owned in every state. -/
theorem hold_is_owned_when_claimed (authority : DustSettlementAuthority)
    (store : Option RecoveryRecord) (durable : Bool) (retained : Option RetainedSettlement)
    (es : List DustSettlementEvent) (s : DustSettlement)
    (hclaimed : EveryStep step Claimed (start authority store durable retained) es)
    (hrun : run step (start authority store durable retained) es = some s) : HoldIsOwned s := by
  have howned : Owned s := by
    refine run_invariant_of_everyStep Owned ?_ ?_ hclaimed hrun
    · intro hne
      exact absurd rfl hne
    · intro p e q h hclaimed hstep
      exact owned_of_step h hclaimed hstep
  intro hidle
  exact ⟨[], s, by simp, rfl, howned.none_of_idle hidle⟩

namespace Sample

def settled : List DustSettlementEvent :=
  [.call 0 (.submitted (.ok ⟨preview, DustRegistration.Sample.transaction.id.asStr⟩)),
    .call 0 .proceed, .call 0 .proceed, .call 0 .proceed, .call 0 .proceed, .call 0 .proceed]

/-- The hold is placed while the call still validates. -/
def early : List DustSettlementEvent :=
  waiting.take 8 ++ taken ++ saved ++ [.call 0 (.selected (some realm))] ++ admitted ++ settled

def stranding : List DustSettlementEvent := waiting ++ taken ++ [.cancel 0] ++ saved

end Sample

open Sample

theorem settled_hold_is_owned :
    ∃ s, run step initial early = some s ∧ s.isIdle ∧ HoldIsOwned s := by
  have hidle : (run step initial early).map (·.isIdle) = some true := by decide +kernel
  obtain ⟨s, hs, hidle⟩ := Option.map_eq_some_iff.mp hidle
  exact ⟨s, hs, hidle, hold_is_owned_when_claimed .explicit none true
    (some ⟨some realm, some preview, false, false⟩) _ s (by decide +kernel) hs⟩

/-- A call whose wait the deadline drops leaves behind the hold that is placed after it. -/
theorem dropped_wait_strands_hold : ∃ es s, run step initial es = some s ∧ ¬ HoldIsOwned s := by
  have hstate : (run step initial stranding).map (fun s =>
      (s.isIdle, s.state.heldSubmissionGeneration, s.state.releasedSubmissionGeneration,
        s.worker)) = some (true, 1, 0, .receiving) := by decide +kernel
  obtain ⟨s, hs, hstate⟩ := Option.map_eq_some_iff.mp hstate
  simp only [Prod.mk.injEq] at hstate
  obtain ⟨hidle, hheld, hreleased, hworker⟩ := hstate
  have hstranded : Stranded s := by
    refine ⟨by simpa [isIdle] using hidle, ?_, ?_, ?_⟩
    · rw [hheld]
      decide
    · rw [hheld, hreleased]
      decide
    · rw [hworker]
      rfl
  exact ⟨stranding, s, hs, hstranded.not_owned⟩

end DustSettlement

end Oxid.Composition
