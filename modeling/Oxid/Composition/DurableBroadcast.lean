import Oxid.Composition.ExecuteSubmit
import Oxid.Slots

/-!
# Broadcasting behind a durable record

The worker is the only writer of the store, and writes nothing while a generation is held.
Held generations increase, so a release that comes late lowers a bar the next hold is above.
-/

namespace Oxid.Composition
open Slots Transition Wallet Wallet.DustRegistration Option List

def HoldsSubmission (store : Option RecoveryRecord) (identity : Identity)
    (draftId : WalletTransactionDraftId) : Prop :=
  ∃ record registration, store = some record ∧ record.state = .submitting ∧
    record.profileId = identity.profile.id.asStr ∧ record.realmId = identity.realm.id.asStr ∧
    record.generation = identity.generation ∧ record.registration = some registration ∧
    registration.draftId = draftId.id.asStr

section Worker
variable {top : UInt64} {s s' : RecoveryPersistenceState} {w w' : Worker}

def Worker.Sound (top : UInt64) (s : RecoveryPersistenceState) : Worker → Prop
  | .receiving | .checkingHold => top ≤ s.persistedGeneration
  | .taking | .comparing _ | .skipping _ | .recordingFailed _ | .settling _ false | .notifying
  | .stopped => top ≤ s.persistedGeneration ∧ s.heldSubmissionGeneration = 0
  | .saving job | .recordingGeneration job =>
    top ≤ s.persistedGeneration ∧ s.heldSubmissionGeneration = 0 ∧
      s.persistedGeneration < job.generation
  | .recordingPersisted job | .settling job true | .holding job =>
    top < job.generation ∧ s.heldSubmissionGeneration = 0 ∧
      s.persistedGeneration = job.generation
  | .announcing job | .checkingRelease job =>
    top ≤ s.persistedGeneration ∧
      (s.heldSubmissionGeneration = 0 ∨ s.heldSubmissionGeneration = job.generation)
  | .clearingHold job =>
    top ≤ s.persistedGeneration ∧
      (s.heldSubmissionGeneration = 0 ∨ s.heldSubmissionGeneration = job.generation) ∧
      job.generation ≤ s.releasedSubmissionGeneration

structure Releases (s s' : RecoveryPersistenceState) : Prop where
  persisted : s'.persistedGeneration = s.persistedGeneration
  released : s.releasedSubmissionGeneration ≤ s'.releasedSubmissionGeneration
  held : s'.heldSubmissionGeneration = s.heldSubmissionGeneration ∨
    s'.heldSubmissionGeneration = 0

theorem Worker.Sound.of_releases (h : w.Sound top s) (hr : Releases s s') : w.Sound top s' := by
  obtain ⟨hpersisted, hreleased, hheld⟩ := hr
  cases w with
  | settling _ persisted =>
    cases persisted <;>
      · simp only [Worker.Sound] at h ⊢
        grind
  | _ =>
    simp only [Worker.Sound] at h ⊢
    grind

/-- How a step of the worker changes the hold: not at all, or it places one above everything
held before, or it takes back one that was released. -/
inductive HoldMove (top : UInt64) (s s' : RecoveryPersistenceState) : Prop
  | kept (h : s'.heldSubmissionGeneration = s.heldSubmissionGeneration)
  | placed (hbefore : s.heldSubmissionGeneration = 0) (h : top < s'.heldSubmissionGeneration)
  | cleared (hbefore : s.heldSubmissionGeneration ≤ s.releasedSubmissionGeneration)
      (h : s'.heldSubmissionGeneration = 0)

theorem Worker.Sound.step (h : w.Sound top s) (hheld : s.heldSubmissionGeneration ≤ top)
    (hstep : w.step s = some (s', w')) :
    s'.releasedSubmissionGeneration = s.releasedSubmissionGeneration ∧ HoldMove top s s' ∧
      ∃ top', top ≤ top' ∧ s'.heldSubmissionGeneration ≤ top' ∧ w'.Sound top' s' := by
  -- Outside of the three stages around the hold, nothing moves and the bound stays.
  have hkept : ∀ {t v}, t.heldSubmissionGeneration = s.heldSubmissionGeneration →
      t.releasedSubmissionGeneration = s.releasedSubmissionGeneration → v.Sound top t →
      t.releasedSubmissionGeneration = s.releasedSubmissionGeneration ∧ HoldMove top s t ∧
        ∃ top', top ≤ top' ∧ t.heldSubmissionGeneration ≤ top' ∧ Worker.Sound top' t v :=
    fun ht hreleased hv =>
      ⟨hreleased, .kept ht, top, UInt64.le_refl top, ht ▸ hheld, hv⟩
  cases w with
  | receiving =>
    simp only [Worker.step] at hstep
    split at hstep
    · cases hstep
      exact hkept rfl rfl h
    · cases hstep
  | checkingHold =>
    cases hstep
    refine hkept rfl rfl ?_
    split
    · exact h
    · exact ⟨h, Decidable.not_not.mp ‹_›⟩
  | taking =>
    simp only [Worker.step] at hstep
    split at hstep
    · cases hstep
    · split at hstep <;> cases hstep
      · exact hkept rfl rfl h
      · exact hkept rfl rfl h
      · exact hkept rfl rfl h.1
  | comparing =>
    cases hstep
    refine hkept rfl rfl ?_
    split
    · exact h
    · exact ⟨h.1, h.2, UInt64.not_le.mp ‹_›⟩
  | skipping =>
    cases hstep
    refine hkept (by simp) (by simp) ?_
    simpa [Worker.Sound] using h
  | saving => cases hstep
  | recordingGeneration =>
    cases hstep
    refine hkept rfl rfl ?_
    exact ⟨UInt64.lt_of_le_of_lt h.1 h.2.2, h.2.1, rfl⟩
  | recordingPersisted =>
    cases hstep
    refine hkept (by simp) (by simp) ?_
    split
    · simpa [Worker.Sound] using h
    · simpa [Worker.Sound, h.2.1, h.2.2] using UInt64.le_of_lt h.1
  | recordingFailed =>
    cases hstep
    refine hkept (by simp) (by simp) ?_
    split <;> simpa [Worker.Sound] using h
  | settling _ persisted =>
    cases hstep
    refine hkept rfl rfl ?_
    cases persisted <;> exact h
  | holding job =>
    cases hstep
    obtain ⟨htop, hnone, hsaved⟩ := h
    refine ⟨rfl, .placed hnone htop, job.generation, UInt64.le_of_lt htop,
      UInt64.le_refl _, ?_, .inr rfl⟩
    exact hsaved ▸ UInt64.le_refl _
  | announcing =>
    cases hstep
    exact hkept rfl rfl h
  | checkingRelease =>
    cases hstep
    refine hkept rfl rfl ?_
    split
    · exact ⟨h.1, h.2, ‹_›⟩
    · exact h.1
  | clearingHold =>
    cases hstep
    obtain ⟨htop, hjob, hreleased⟩ := h
    refine ⟨rfl, .cleared ?_ rfl, top, UInt64.le_refl _, ?_, htop⟩
    · grind
    · grind
  | notifying =>
    cases hstep
    exact hkept rfl rfl h.1
  | stopped => cases hstep

end Worker

variable {retained : Option RetainedSettlement}

namespace SubmitBody
variable {authority : DustSettlementAuthority} {identity : Identity}
  {draftId : WalletTransactionDraftId} {store : Option RecoveryRecord}

def Verified (store : Option RecoveryRecord) (identity : Identity)
    (draftId : WalletTransactionDraftId) : SubmitBody → Prop
  | .committing _ | .dispatching _ => HoldsSubmission store identity draftId
  | .submitting command => HoldsSubmission store identity draftId ∧
      command.profileId = identity.profile.id.asStr ∧ command.draftId = draftId.id.asStr
  | _ => True

def Flow.Verified (store : Option RecoveryRecord) (identity : Identity)
    (draftId : WalletTransactionDraftId) : Flow → Prop
  | .inl body => body.Verified store identity draftId
  | .inr _ => True

theorem holdsSubmission_of_checks {loaded record}
    (hrecord : recoveryRecord identity loaded = .ok record)
    (hdurable : durableSubmission draftId record) :
    loaded = some record ∧ HoldsSubmission record identity draftId := by
  simp only [recoveryRecord, Result.bind_ok_iff, Result.okOr_ok_iff,
    Result.rejectIf_ok_iff] at hrecord
  obtain ⟨record', hloaded, -, hidentity, hpure⟩ := hrecord
  cases hpure
  refine ⟨hloaded, ?_⟩
  cases record with
  | none => cases hdurable
  | some record =>
    simp only [any_some, Bool.or_eq_false_iff, decide_eq_false_iff_not, not_not] at hidentity
    simp only [durableSubmission, any_some, Bool.and_eq_true, decide_eq_true_eq] at hdurable
    obtain ⟨⟨hprofile, hrealm⟩, hgeneration⟩ := hidentity
    obtain ⟨hstate, hdraft⟩ := hdurable
    cases hregistration : record.registration with
    | none =>
      rw [hregistration] at hdraft
      cases hdraft
    | some registration =>
      rw [hregistration] at hdraft
      exact ⟨record, registration, rfl, hstate, hprofile, hrealm, hgeneration,
        hregistration, of_decide_eq_true hdraft⟩

theorem verified_verify (preview : RegistrationPreview) (works : Bool) :
    (verify identity draftId preview (if works then some store else none)).Verified store
      identity draftId := by
  unfold verify
  split
  · trivial
  · split
    · obtain ⟨hloaded, hholds⟩ := holdsSubmission_of_checks ‹_› ‹_›
      cases works <;> cases hloaded
      exact hholds
    · trivial

theorem verified_recovered (site : RecoverySite) (status : SubmissionStatus) :
    (recovered identity draftId site status).Verified store identity draftId := by
  unfold recovered
  split <;> trivial

theorem verified_conclude (answer : Except DustRegistrationError SubmittedRegistration) :
    (conclude draftId answer).Verified store identity draftId := by
  unfold conclude
  split
  · trivial
  · trivial
  · trivial
  · trivial
  · split
    · trivial
    · split <;> trivial

theorem verified_dispatch (preview : RegistrationPreview)
    (h : HoldsSubmission store identity draftId) :
    (dispatch authority identity draftId preview).Verified store identity draftId := by
  unfold dispatch
  split
  · exact ⟨h, rfl, rfl⟩
  · split
    · trivial
    · exact ⟨h, rfl, rfl⟩

theorem verified_withRetained {f} (h : ∀ r, (f r).2.Verified store identity draftId) :
    (withRetained retained f).2.Verified store identity draftId := by
  cases retained with
  | none => trivial
  | some r => exact h r

theorem verified_of_step {body : SubmitBody} {answer} {next : Option RetainedSettlement × Flow}
    (h : body.Verified store identity draftId)
    (hstep : body.step authority identity draftId store retained answer = some next) :
    next.2.Verified store identity draftId := by
  unfold SubmitBody.step at hstep
  split at hstep <;> cases hstep
  · refine verified_withRetained fun r => ?_
    split <;> trivial
  · refine verified_withRetained fun r => ?_
    split
    · trivial
    · split <;> trivial
  · refine verified_withRetained fun r => ?_
    split <;> trivial
  · rename_i answer
    cases answer with
    | none => trivial
    | some status => exact verified_recovered _ status
  · split
    · exact verified_recovered _ _
    · trivial
  · exact verified_withRetained fun r => trivial
  · exact verified_verify _ _
  · exact verified_withRetained fun r => h
  · exact verified_dispatch _ h
  · exact verified_conclude _
  · exact verified_withRetained fun r => trivial
  · exact verified_withRetained fun r => trivial
  · exact verified_withRetained fun r => trivial

end SubmitBody

/-! ## The invariant -/

/-- What a call knows where it is: what it read of the hold is what is held, unless it read
that nothing is; and a bar it lowers is not below what was released. -/
def SubmitStage.Sound (top : UInt64) (s : RecoveryPersistenceState)
    (store : Option RecoveryRecord) (identity : Identity) (draftId : WalletTransactionDraftId) :
    SubmitStage → Prop
  | .waiting target (.sampling _ held) =>
    target ≠ 0 ∧ (held = 0 ∨ s.heldSubmissionGeneration = held)
  | .waiting target _ => target ≠ 0
  | .guarded generation body =>
    generation ≠ 0 ∧ s.heldSubmissionGeneration = generation ∧
      body.Verified store identity draftId
  | .releasing (.raising generation) _ => generation ≤ top
  | .releasing (.reading released) _ => s.releasedSubmissionGeneration ≤ released
  | .releasing (.exchanging released _) _ => s.releasedSubmissionGeneration ≤ released
  | _ => True

def SubmitStage.isLetting : SubmitStage → Bool
  | .releasing (.reading _) _ | .releasing (.exchanging _ _) _ => true
  | _ => false

def SubmitStage.claims : SubmitStage → Bool
  | .waiting _ (.sampling _ held) => held ≠ 0
  | .guarded _ _ => true
  | _ => false

def SubmitCall.IsRunning (c : SubmitCall) : Prop := c.stage.isFinished = false

namespace SubmitStage
variable {top top' : UInt64} {s s' : RecoveryPersistenceState}
  {store store' : Option RecoveryRecord} {identity : Identity}
  {draftId : WalletTransactionDraftId} {stage : SubmitStage}

theorem sound_of_isFinished (h : stage.isFinished) : stage.Sound top s store identity draftId := by
  cases stage with
  | finished => trivial
  | _ => cases h

theorem isLetting_of_isFinished (h : stage.isFinished) : stage.isLetting = false := by
  cases stage with
  | finished => rfl
  | _ => cases h

theorem isFinished_of_claims (h : stage.claims) : stage.isFinished = false := by
  cases stage with
  | finished => cases h
  | _ => rfl

theorem isLetting_of_claims (h : stage.claims) : stage.isLetting = false := by
  cases stage with
  | releasing => cases h
  | _ => rfl

theorem Sound.mono (h : stage.Sound top s store identity draftId) (htop : top ≤ top')
    (hreleased : s'.releasedSubmissionGeneration = s.releasedSubmissionGeneration)
    (hheld : stage.claims → s'.heldSubmissionGeneration = s.heldSubmissionGeneration)
    (hstore : stage.claims → store' = store) : stage.Sound top' s' store' identity draftId := by
  cases stage with
  | waiting _ wait =>
    cases wait with
    | sampling _ held =>
      refine ⟨h.1, ?_⟩
      by_cases hnone : held = 0
      · exact .inl hnone
      · rw [hheld (by simpa [claims] using hnone)]
        exact h.2
    | _ => exact h
  | guarded =>
    rw [hstore rfl]
    exact ⟨h.1, (hheld rfl).trans h.2.1, h.2.2⟩
  | releasing release =>
    cases release with
    | raising => exact UInt64.le_trans h htop
    | reading => exact UInt64.le_trans (hreleased ▸ UInt64.le_refl _) h
    | exchanging => exact UInt64.le_trans (hreleased ▸ UInt64.le_refl _) h
    | waking => trivial
  | _ => trivial

end SubmitStage

open SubmitStage

namespace DustSettlement
variable {top : UInt64} {s s' : DustSettlement}

structure Guarding (top : UInt64) (s : DustSettlement) : Prop where
  released : s.state.releasedSubmissionGeneration ≤ top
  held : s.state.heldSubmissionGeneration ≤ top
  worker : s.worker.Sound top s.state
  single : AtMostOne SubmitCall.IsRunning s.calls
  calls : ∀ c ∈ s.calls, c.stage.Sound top s.state s.store c.identity c.draftId
  fresh : (∀ c ∈ s.calls, c.stage.isLetting = false) → s.state.heldSubmissionGeneration = 0 ∨
    s.state.releasedSubmissionGeneration < s.state.heldSubmissionGeneration

namespace Guarding
variable {i : ℕ} {c : SubmitCall}

variable {state : RecoveryPersistenceState}

section
variable (h : Guarding top s)
include h

theorem above (hc : s.calls[i]? = some c) (hrunning : c.IsRunning)
    (hnot : c.stage.isLetting = false) : s.state.heldSubmissionGeneration = 0 ∨
      s.state.releasedSubmissionGeneration < s.state.heldSubmissionGeneration := by
  refine h.fresh fun d hd => ?_
  obtain ⟨j, hj⟩ := mem_iff_getElem?.mp hd
  by_cases hij : j = i
  · rw [hij, hc, some.injEq] at hj
    exact hj ▸ hnot
  · have hd := h.single.not_of_ne hc hrunning hj hij
    exact isLetting_of_isFinished (by simpa [SubmitCall.IsRunning] using hd)

theorem held_of_claims (hc : c ∈ s.calls) (hclaims : c.stage.claims) :
    s.state.heldSubmissionGeneration ≠ 0 ∧
      s.state.releasedSubmissionGeneration < s.state.heldSubmissionGeneration := by
  have hheld : s.state.heldSubmissionGeneration ≠ 0 := by
    have hsound := h.calls c hc
    cases hstage : c.stage with
    | waiting _ wait =>
      rw [hstage] at hclaims hsound
      cases wait with
      | sampling _ held =>
        have hne : held ≠ 0 := by simpa [claims] using hclaims
        exact (hsound.2.resolve_left hne) ▸ hne
      | _ => cases hclaims
    | guarded =>
      rw [hstage] at hsound
      exact hsound.2.1 ▸ hsound.1
    | _ =>
      rw [hstage] at hclaims
      cases hclaims
  obtain ⟨i, hi⟩ := mem_iff_getElem?.mp hc
  have habove := h.above hi (isFinished_of_claims hclaims) (isLetting_of_claims hclaims)
  exact ⟨hheld, habove.resolve_left hheld⟩

theorem aside (ha : Aside s s') : Guarding top s' := by
  obtain ⟨hworker, hstore, hcalls, hpersisted, -, hheld, hreleased⟩ := ha
  refine ⟨hreleased ▸ h.released, hheld ▸ h.held, ?_, hcalls ▸ h.single, ?_, ?_⟩
  · rw [hworker]
    exact h.worker.of_releases ⟨hpersisted, hreleased ▸ UInt64.le_refl _, .inl hheld⟩
  · rw [hcalls, hstore]
    intro c hc
    exact (h.calls c hc).mono (UInt64.le_refl top) hreleased (fun _ => hheld) fun _ => rfl
  · rw [hcalls, hheld, hreleased]
    exact h.fresh

theorem work {worker} (hstep : s.worker.step s.state = some (state, worker)) :
    ∃ top', Guarding top' { s with state := state, worker := worker } := by
  obtain ⟨hreleased, hmove, top', htop, hheld, hworker⟩ := h.worker.step h.held hstep
  refine ⟨top', hreleased ▸ UInt64.le_trans h.released htop, hheld, hworker, h.single, ?_, ?_⟩
  · intro c hc
    refine (h.calls c hc).mono htop hreleased (fun hclaims => ?_) fun _ => rfl
    obtain ⟨hne, habove⟩ := h.held_of_claims hc hclaims
    cases hmove with
    | kept hkept => exact hkept
    | placed hbefore => exact absurd hbefore hne
    | cleared hbefore => exact absurd habove (UInt64.not_lt.mpr hbefore)
  · intro hletting
    rw [hreleased]
    cases hmove with
    | kept hkept =>
      rw [hkept]
      exact h.fresh hletting
    | placed _ hplaced => exact .inr (UInt64.lt_of_le_of_lt h.released hplaced)
    | cleared _ hcleared => exact .inl hcleared

theorem save {job} (hjob : s.worker = .saving job) (outcome : SaveOutcome) : Guarding top
      { s with store := outcome.store job.record s.store, worker := outcome.worker job } := by
  have hworker := h.worker
  rw [hjob] at hworker
  refine ⟨h.released, h.held, ?_, h.single, ?_, h.fresh⟩
  · cases outcome with
    | saved => exact hworker
    | failed => exact ⟨hworker.1, hworker.2.1⟩
    | panicked => exact ⟨hworker.1, hworker.2.1⟩
  · intro c hc
    refine (h.calls c hc).mono (UInt64.le_refl top) rfl (fun _ => rfl) fun hclaims => ?_
    exact absurd hworker.2.1 (h.held_of_claims hc hclaims).1

theorem submit (hidle : s.isIdle) (identity : Identity) (draftId : WalletTransactionDraftId) :
    Guarding top { s with calls := s.calls ++ [⟨identity, draftId, .validating⟩] } := by
  have hfinished : ∀ c ∈ s.calls, c.stage.isFinished := by simpa [isIdle] using hidle
  refine ⟨h.released, h.held, h.worker, atMostOne_concat (fun c hc => ?_) _, ?_, ?_⟩
  · simp [SubmitCall.IsRunning, hfinished c hc]
  · intro c hc
    rcases mem_append.mp hc with hold | hnew
    · exact h.calls c hold
    · cases mem_singleton.mp hnew
      trivial
  · intro hletting
    exact h.fresh fun c hc => hletting c (mem_append_left _ hc)

theorem move (hc : s.calls[i]? = some c) (hrunning : c.IsRunning) {state}
    (retained : Option RetainedSettlement) {stage} (hreleases : Releases s.state state)
    (hreleased : state.releasedSubmissionGeneration ≤ top)
    (hstage : stage.Sound top state s.store c.identity c.draftId)
    (hfresh : stage.isLetting = false → state.heldSubmissionGeneration = 0 ∨
      state.releasedSubmissionGeneration < state.heldSubmissionGeneration) : Guarding top { s with
      state := state
      retained := retained
      calls := s.calls.set i { c with stage := stage } } := by
  refine ⟨hreleased, ?_, h.worker.of_releases hreleases, h.single.set hc hrunning _, ?_, ?_⟩
  · rcases hreleases.held with hkept | hnone
    · exact hkept ▸ h.held
    · exact hnone ▸ UInt64.zero_le
  · intro d hd
    rcases mem_set_cases hd with rfl | ⟨j, hij, hj⟩
    · exact hstage
    · have hd := h.single.not_of_ne hc hrunning hj hij
      exact sound_of_isFinished (by simpa [SubmitCall.IsRunning] using hd)
  · intro hletting
    exact hfresh (hletting _ (mem_set_self hc _))

theorem go (hc : s.calls[i]? = some c) (hrunning : c.IsRunning) (hnot : c.stage.isLetting = false)
    (retained : Option RetainedSettlement) {stage}
    (hstage : stage.Sound top s.state s.store c.identity c.draftId) : Guarding top { s with
      state := s.state
      retained := retained
      calls := s.calls.set i { c with stage := stage } } :=
  h.move hc hrunning retained ⟨rfl, UInt64.le_refl _, .inl rfl⟩ h.released hstage
    fun _ => h.above hc hrunning hnot

end

theorem sound_awaited {target wait next store identity draftId}
    (h : (waiting target wait).Sound top state store identity draftId)
    (hstep : wait.step state target = some next) :
    (awaited target next).Sound top state store identity draftId := by
  cases wait with
  | registering =>
    cases hstep
    exact h
  | polling =>
    cases hstep
    exact ⟨h, .inr rfl⟩
  | sampling _ held =>
    cases hstep
    by_cases hready : (state.durable && target ≤ held)
    · rw [if_pos hready]
      have hle : target ≤ held := by simpa using (Bool.and_eq_true_iff.mp hready).2
      have hne : held ≠ 0 := by
        intro hzero
        exact h.1 (UInt64.le_zero_iff.mp (hzero ▸ hle))
      exact ⟨hne, h.2.resolve_left hne, trivial⟩
    · rw [if_neg hready]
      exact h.1
  | failing =>
    cases hstep
    by_cases hfailed : target ≤ state.failedSubmissionGeneration
    · rw [if_pos hfailed]
      trivial
    · rw [if_neg hfailed]
      exact h
  | parked =>
    simp only [SubmissionWait.step] at hstep
    split at hstep
    · cases hstep
    · cases hstep
      exact h

theorem release (h : Guarding top s) (hc : s.calls[i]? = some c) {release result}
    (hstage : c.stage = .releasing release result) (retained : Option RetainedSettlement) :
    Guarding top { s with
      state := (release.step s.state).1
      retained := retained
      calls := s.calls.set i { c with stage := .released result (release.step s.state).2 } } := by
  have hrunning : c.IsRunning := by simp [SubmitCall.IsRunning, hstage, isFinished]
  have hsound := h.calls c (mem_of_getElem? hc)
  rw [hstage] at hsound
  cases release with
  | raising =>
    refine h.move hc hrunning retained ⟨rfl, ?_, .inl rfl⟩ ?_ ?_ ?_
    · exact Std.left_le_max
    · exact Std.max_le_iff.mpr ⟨h.released, hsound⟩
    · exact UInt64.le_refl _
    · intro hletting
      cases hletting
  | reading =>
    simp only [Release.step]
    split
    · rename_i hend
      refine h.move hc hrunning retained ⟨rfl, UInt64.le_refl _, .inl rfl⟩ h.released trivial ?_
      intro _
      rw [Bool.or_eq_true, decide_eq_true_eq, decide_eq_true_eq] at hend
      exact hend.imp_right (UInt64.lt_of_le_of_lt hsound)
    · refine h.move hc hrunning retained ⟨rfl, UInt64.le_refl _, .inl rfl⟩ h.released hsound ?_
      intro hletting
      cases hletting
  | exchanging =>
    simp only [Release.step]
    split
    · exact h.move hc hrunning retained ⟨rfl, UInt64.le_refl _, .inr rfl⟩ h.released trivial
        fun _ => .inl rfl
    · refine h.move hc hrunning retained ⟨rfl, UInt64.le_refl _, .inl rfl⟩ h.released hsound ?_
      intro hletting
      cases hletting
  | waking =>
    refine h.move hc hrunning retained ⟨rfl, UInt64.le_refl _, .inl rfl⟩ h.released trivial ?_
    intro _
    exact h.above hc hrunning (by rw [hstage]; rfl)

theorem call (h : Guarding top s) (hc : s.calls[i]? = some c) {answer : Answer}
    {stage : SubmitStage} (hstep : c.step s answer = some (state, retained, stage)) :
    Guarding top { s with
      state := state
      retained := retained
      calls := s.calls.set i { c with stage := stage } } := by
  have hsound := h.calls c (mem_of_getElem? hc)
  have hrunning : c.IsRunning := by
    unfold SubmitCall.IsRunning
    cases hstage : c.stage with
    | finished => simp [SubmitCall.step, hstage] at hstep
    | _ => rfl
  unfold SubmitCall.step at hstep
  split at hstep
  · rename_i current hstage
    cases hstep
    refine h.go hc hrunning (by rw [hstage]; rfl) _ ?_
    split <;> trivial
  · rename_i hstage
    cases hstep
    refine h.go hc hrunning (by rw [hstage]; rfl) _ ?_
    split
    · trivial
    · assumption
  · rename_i target wait hstage
    obtain ⟨next, hnext, hstep⟩ := map_eq_some_iff.mp hstep
    cases hstep
    rw [hstage] at hsound
    exact h.go hc hrunning (by rw [hstage]; rfl) _ (sound_awaited hsound hnext)
  · rename_i generation body answer hstage
    obtain ⟨next, hnext, hstep⟩ := map_eq_some_iff.mp hstep
    cases hstep
    rw [hstage] at hsound
    refine h.go hc hrunning (by rw [hstage]; rfl) _ ?_
    obtain ⟨retained, flow⟩ := next
    have hverified : flow.Verified s.store c.identity c.draftId :=
      SubmitBody.verified_of_step hsound.2.2 hnext
    cases flow with
    | inl => exact ⟨hsound.1, hsound.2.1, hverified⟩
    | inr => exact hsound.2.1 ▸ h.held
  · rename_i release result hstage
    cases hstep
    exact h.release hc hstage s.retained
  · cases hstep

theorem cancel (h : Guarding top s) (hc : s.calls[i]? = some c) {stage}
    (hcancel : c.stage.cancel = some stage) :
    Guarding top { s with calls := s.calls.set i { c with stage := stage } } := by
  have hsound := h.calls c (mem_of_getElem? hc)
  cases hstage : c.stage with
  | waiting =>
    simp only [hstage, SubmitStage.cancel] at hcancel
    split at hcancel
    · cases hcancel
      exact h.go hc (by simp [SubmitCall.IsRunning, hstage, SubmitStage.isFinished])
        (by rw [hstage]; rfl) s.retained trivial
    · cases hcancel
  | guarded =>
    simp only [hstage, SubmitStage.cancel] at hcancel
    rw [hstage] at hsound
    split at hcancel
    · cases hcancel
      exact h.go hc (by simp [SubmitCall.IsRunning, hstage, SubmitStage.isFinished])
        (by rw [hstage]; rfl) s.retained (hsound.2.1 ▸ h.held)
    · cases hcancel
  | _ => simp [hstage, SubmitStage.cancel] at hcancel

end Guarding

theorem guarding_start (authority : DustSettlementAuthority) (store : Option RecoveryRecord)
    (durable : Bool) (retained : Option RetainedSettlement) :
    Guarding 0 (start authority store durable retained) := by
  refine ⟨UInt64.le_refl 0, UInt64.le_refl 0, UInt64.le_refl 0, atMostOne_nil, ?_, ?_⟩
  · intro c hc
    cases hc
  · intro _
    exact .inl rfl

def OneAtATime (s : DustSettlement) (e : DustSettlementEvent) : Prop :=
  e.isSubmit → s.isIdle

instance decidableOneAtATime (s : DustSettlement) (e : DustSettlementEvent) :
    Decidable (OneAtATime s e) :=
  inferInstanceAs (Decidable (e.isSubmit → s.isIdle))

theorem guarding_of_step {e} (h : Guarding top s) (hone : OneAtATime s e)
    (hstep : s.step e = some s') : ∃ top', Guarding top' s' := by
  cases stepped_of_step hstep with
  | aside _ _ haside => exact ⟨top, h.aside haside⟩
  | work hwork => exact h.work hwork
  | save hjob => exact ⟨top, h.save hjob _⟩
  | submit => exact ⟨top, h.submit (hone rfl) _ _⟩
  | call hc hcall => exact ⟨top, h.call hc hcall⟩
  | cancel hc hcancel => exact ⟨top, h.cancel hc hcancel⟩

theorem guarding_of_run {authority store durable es}
    (hone : EveryStep step OneAtATime (start authority store durable retained) es)
    (hrun : run step (start authority store durable retained) es = some s) :
    ∃ top, Guarding top s :=
  run_invariant_of_everyStep (fun s => ∃ top, Guarding top s)
    ⟨0, guarding_start authority store durable retained⟩
    (fun _ _ _ ⟨_, h⟩ hone hstep => guarding_of_step h hone hstep) hone hrun

namespace Sample
open Wallet.DustRegistration.Sample

def submitting : Projection :=
  after [.eligibility identity 1 true, .authorizationRequested identity draft 1,
    .authorizationSucceeded identity draft]

def realm : SelectedRealm where
  identity := ⟨identity.profile, identity.realm⟩
  generation := identity.generation
  revision := 1

def preview : RegistrationPreview where
  draftId := draft.id.asStr
  networkId := identity.realm.id.asStr
  submissionReady := true

def initial : DustSettlement :=
  start .explicit none true
    (some ⟨some realm, some preview, false, false⟩)

def waiting : List DustSettlementEvent :=
  [.observe submitting, .produce 0, .produce 0, .produce 0, .produce 0, .produce 0, .produce 0,
    .submit identity draft, .call 0 (.selected (some realm)), .call 0 .proceed,
    .call 0 .proceed, .call 0 .proceed, .call 0 .proceed, .call 0 .proceed]

def taken : List DustSettlementEvent := [.work, .work, .work, .work]

def saved : List DustSettlementEvent :=
  [.save .saved, .work, .work, .work, .work, .work, .work]

def admitted : List DustSettlementEvent :=
  [.call 0 .proceed, .call 0 .proceed, .call 0 .proceed, .call 0 .proceed, .call 0 .proceed,
    .call 0 .proceed, .call 0 .proceed, .call 0 (.loaded true), .call 0 .proceed,
    .call 0 .proceed]

def broadcasting : List DustSettlementEvent := waiting ++ taken ++ saved ++ admitted

def call : SubmitCall where
  identity := identity
  draftId := draft
  stage := .guarded 1 (.submitting ⟨identity.profile.id.asStr, draft.id.asStr,
    some (continuationConfirmation preview)⟩)

end Sample

open Sample

/-- While the submit use case is running for a draft, the store has the record of the
submission of this draft, and nothing is written to it. -/
theorem broadcast_behind_durable_record (authority : DustSettlementAuthority)
    (store : Option RecoveryRecord) (durable : Bool) (retained : Option RetainedSettlement)
    (es : List DustSettlementEvent) (s : DustSettlement)
    (hone : EveryStep step OneAtATime (start authority store durable retained) es)
    (hrun : run step (start authority store durable retained) es = some s)
    (c : SubmitCall) (generation : UInt64) (command : SubmitCommand) (hc : c ∈ s.calls)
    (hstage : c.stage = .guarded generation (.submitting command)) :
    (command.profileId = c.identity.profile.id.asStr ∧ command.draftId = c.draftId.id.asStr) ∧
      HoldsSubmission s.store c.identity c.draftId ∧
      ∀ e s', s.step e = some s' → e.isSave = false ∧ s'.store = s.store := by
  obtain ⟨top, h⟩ := guarding_of_run hone hrun
  have hsound := h.calls c hc
  rw [hstage] at hsound
  obtain ⟨hne, hheld, hverified⟩ := hsound
  obtain ⟨hholds, hcommand⟩ := hverified
  refine ⟨hcommand, hholds, ?_⟩
  intro e s' hstep
  cases stepped_of_step hstep with
  | aside _ hsave haside => exact ⟨hsave, haside.store⟩
  | save hjob =>
    -- The worker saves only while nothing is held.
    have hworker := h.worker
    rw [hjob] at hworker
    exact absurd (hheld.symm.trans hworker.2.1) hne
  | work => exact ⟨rfl, rfl⟩
  | submit => exact ⟨rfl, rfl⟩
  | call => exact ⟨rfl, rfl⟩
  | cancel => exact ⟨rfl, rfl⟩

theorem sample_broadcast_behind_record :
    ∃ s, run step initial broadcasting = some s ∧ call ∈ s.calls ∧
      HoldsSubmission s.store call.identity call.draftId ∧
      ∀ e s', s.step e = some s' → e.isSave = false ∧ s'.store = s.store := by
  have hcalls : (run step initial broadcasting).map (·.calls) = some [call] := by decide +kernel
  obtain ⟨s, hs, hcalls⟩ := map_eq_some_iff.mp hcalls
  have hmem : call ∈ s.calls := by simp [hcalls]
  obtain ⟨-, hholds, hquiet⟩ := broadcast_behind_durable_record .explicit none true
    (some ⟨some realm, some preview, false, false⟩) broadcasting s
    (by decide +kernel) hs call 1 _ hmem rfl
  exact ⟨s, hs, hmem, hholds, hquiet⟩

end DustSettlement

end Oxid.Composition
