import Mathlib.Order.MinMax
import Oxid.Transition.Run
import Oxid.Wallet.DustRegistration.Policy

/-!
# What one step of the settlement policy can do

`reduceSettlement_cases` says what a returned call did; `ActiveStep` has one constructor for
each arm of the main match.
-/

namespace Oxid.Wallet.DustRegistration

open Projection Option

abbrev runEvents (p : Projection) (es : List Event) : Option Projection :=
  Transition.run reduceSettlement p es

abbrev Reachable (p : Projection) : Prop :=
  Transition.Reachable reduceSettlement Projection.default p

namespace Projection

variable (p : Projection) (s : State)

/-! ## The effective state -/

@[simp] theorem effectiveState_setEffectiveState : (p.setEffectiveState s).effectiveState = s := by
  by_cases h : p.state.isRecoverable
  · simp [setEffectiveState, effectiveState, h]
  · simp [setEffectiveState, effectiveState, setState, h]

@[simp] theorem registration_setEffectiveState :
    (p.setEffectiveState s).registration = p.registration := by
  simp only [setEffectiveState]; split <;> rfl

@[simp] theorem abandonedRegistration_setEffectiveState :
    (p.setEffectiveState s).abandonedRegistration = p.abandonedRegistration := by
  simp only [setEffectiveState]; split <;> rfl

@[simp] theorem identity_setEffectiveState : (p.setEffectiveState s).identity = p.identity := by
  simp only [setEffectiveState]; split <;> rfl

@[simp] theorem checkpoint_setEffectiveState :
    (p.setEffectiveState s).checkpoint = p.checkpoint := by
  simp only [setEffectiveState]; split <;> rfl

@[simp] theorem preparationRevision_setEffectiveState :
    (p.setEffectiveState s).preparationRevision = p.preparationRevision := by
  simp only [setEffectiveState]; split <;> rfl

@[simp] theorem recoveryRevision_setEffectiveState :
    (p.setEffectiveState s).recoveryRevision = p.recoveryRevision := by
  simp only [setEffectiveState]; split <;> rfl

@[simp] theorem pendingRetryRevision_setEffectiveState :
    (p.setEffectiveState s).pendingRetryRevision = p.pendingRetryRevision := by
  simp only [setEffectiveState]; split <;> rfl

theorem effectiveState_of_not_recoverable {p : Projection} (h : p.state.isRecoverable = false) :
    p.effectiveState = p.state := by
  simp [effectiveState, h]

theorem effectiveState_of_resumeState {p : Projection} {s : State}
    (h : p.state.isRecoverable) (hs : p.resumeState = some s) : p.effectiveState = s := by
  simp [effectiveState, h, hs]

theorem effectiveState_congr {p q : Projection} (hs : q.state = p.state)
    (hr : q.resumeState = p.resumeState) : q.effectiveState = p.effectiveState := by
  simp only [effectiveState, hs, hr]

theorem latestEligibilityState_eq :
    p.latestEligibilityState = .notEligible ∨ p.latestEligibilityState = .actionRequired := by
  simp only [latestEligibilityState]
  split
  · exact .inl rfl
  · exact .inr rfl

theorem latestEligibilityState_congr {p q : Projection} (h : q.checkpoint = p.checkpoint) :
    q.latestEligibilityState = p.latestEligibilityState := by
  simp only [latestEligibilityState, h]

theorem isIdle_iff {p : Projection} :
    p.isIdle ↔ p.effectiveState = .notEligible ∨ p.effectiveState = .actionRequired := by
  simp only [isIdle]
  cases p.effectiveState <;> simp

section Slots
variable (next : Projection) (v a : UInt64) (c : Reconciliation) (b : Bool)

@[simp] theorem registration_updateActive (f : Registration → Registration) :
    (p.updateActive f).registration = p.registration.map f := rfl

@[simp] theorem abandonedRegistration_updateActive (f : Registration → Registration) :
    (p.updateActive f).abandonedRegistration = p.abandonedRegistration := rfl

@[simp] theorem registration_takeParked : p.takeParked.registration = p.abandonedRegistration :=
  rfl

@[simp] theorem abandonedRegistration_takeParked : p.takeParked.abandonedRegistration = none := rfl

@[simp] theorem registration_applyFinality :
    (p.applyFinality next v).registration = next.registration.map (·.observeFinality v) := by
  simp only [applyFinality]; split_ifs <;> simp

@[simp] theorem abandonedRegistration_applyFinality :
    (p.applyFinality next v).abandonedRegistration = next.abandonedRegistration := by
  simp only [applyFinality]; split_ifs <;> simp

@[simp] theorem registration_applyReconciliation :
    (p.applyReconciliation next v c).registration = next.registration.map (·.reconcile v c) := by
  cases c <;> simp [applyReconciliation]

@[simp] theorem abandonedRegistration_applyReconciliation :
    (p.applyReconciliation next v c).abandonedRegistration = next.abandonedRegistration := by
  cases c <;> simp [applyReconciliation]

@[simp] theorem registration_applyDust :
    (p.applyDust next v a b).registration = next.registration.map (·.refreshDust v a b) := by
  simp only [applyDust]; split_ifs <;> simp

@[simp] theorem abandonedRegistration_applyDust :
    (p.applyDust next v a b).abandonedRegistration = next.abandonedRegistration := by
  simp only [applyDust]; split_ifs <;> simp

end Slots

/-! ## What is held -/

variable {p}

theorem hasDraft_iff {d} : p.hasDraft d ↔ ∃ r, p.registration = some r ∧ r.draftId = d := by
  simp [hasDraft, any_eq_true]

theorem hasTransaction_iff {t} :
    p.hasTransaction t ↔ ∃ r, p.registration = some r ∧ r.transactionId = some t := by
  simp [hasTransaction, any_eq_true]

theorem parkedIn_iff {d phase} :
    p.parkedIn d phase ↔ ∃ r, p.abandonedRegistration = some r ∧ r.draftId = d ∧
      r.authorizationPhase = phase := by
  simp [parkedIn, any_eq_true]

end Projection

open Projection

section Restore
variable {p : Projection} {e : Event}

@[simp] theorem registration_restoreAbandoned (p : Projection) :
    p.restoreAbandoned.registration = p.abandonedRegistration := by
  simp [restoreAbandoned]

@[simp] theorem abandonedRegistration_restoreAbandoned (p : Projection) :
    p.restoreAbandoned.abandonedRegistration = p.registration := by
  simp [restoreAbandoned]

@[simp] theorem identity_restoreAbandoned (p : Projection) :
    p.restoreAbandoned.identity = p.identity := by
  simp [restoreAbandoned]

@[simp] theorem effectiveState_restoreAbandoned (p : Projection) :
    p.restoreAbandoned.effectiveState = p.latestEligibilityState := by
  simp [restoreAbandoned]

theorem supersedes_cases (h : p.supersedesAbandonedRegistration e) :
    ∃ parked t, p.abandonedRegistration = some parked ∧ parked.transactionId = some t ∧
      ((∃ i r, e = .finalityObserved i t r) ∨ (∃ i r c, e = .registrationReconciled i t r c) ∨
        ∃ i r a b, e = .dustRefreshed i t r a b) := by
  simp only [supersedesAbandonedRegistration, any_eq_true] at h
  obtain ⟨parked, hparked, h⟩ := h
  cases e <;> simp only [Bool.false_eq_true, Bool.and_eq_true, decide_eq_true_eq] at h
  case finalityObserved i t r => exact ⟨parked, t, hparked, h.1, .inl ⟨i, r, rfl⟩⟩
  case registrationReconciled i t r c =>
    exact ⟨parked, t, hparked, h.1.1, .inr (.inl ⟨i, r, c, rfl⟩)⟩
  case dustRefreshed i t r a b =>
    exact ⟨parked, t, hparked, h.1.1, .inr (.inr ⟨i, r, a, b, rfl⟩)⟩

theorem supersedes_restoreAbandoned_restoreAbandoned (p : Projection) (e : Event) :
    p.restoreAbandoned.restoreAbandoned.supersedesAbandonedRegistration e =
      p.supersedesAbandonedRegistration e := by
  simp only [supersedesAbandonedRegistration, registration_restoreAbandoned,
    abandonedRegistration_restoreAbandoned]

end Restore

/-! ## Which events are looked at -/

structure Admits (p : Projection) (e : Event) : Prop where
  identity_eq : p.identity = some e.identity
  available : p.state ≠ .unavailable
  open_unless_superseded : p.state = .cancelled → e.isSuperseded

structure Selects (p : Projection) (e : Event) : Prop where
  eligibility : e.isEligibility
  other : ∃ active, p.identity = some active ∧ e.identity ≠ active ∧
    (p.state = .unavailable ∨ active.generation < e.identity.generation)

variable {r : UInt64}

section Reduce
variable {p q : Projection} {e : Event}

theorem Admits.identity_ne_none (h : Admits p e) : p.identity ≠ none := by
  rw [h.identity_eq]
  exact some_ne_none _

theorem Admits.replacesGeneration_eq (h : Admits p e) : p.replacesGeneration e = some false := by
  simp [replacesGeneration, h.identity_eq]

theorem Selects.replacesGeneration_eq (h : Selects p e) : p.replacesGeneration e = some true := by
  obtain ⟨active, hid, hne, hstate | hgen⟩ := h.other
  · simp [replacesGeneration, hid, hne, h.eligibility, hstate]
  · simp [replacesGeneration, hid, hne, h.eligibility, hgen]

theorem reduceWithin_of_admits (h : Admits p e) (depth : ℕ) : reduceWithin (depth + 1) p e =
      (p.reduceParked e).or (if p.supersedesAbandonedRegistration e then
          reduceWithin depth p.restoreAbandoned e else some (p.reduceActive e false)) := by
  have hopen : ¬ (p.state = .cancelled ∧ ¬ e.isSuperseded) := fun hc =>
    hc.2 (h.open_unless_superseded hc.1)
  simp only [reduceWithin, h.replacesGeneration_eq, true_and, if_neg hopen, h.available,
    and_false, if_false]

theorem Admits.restoreAbandoned (h : Admits p e)
    (hs : p.supersedesAbandonedRegistration e) : Admits p.restoreAbandoned e := by
  have hnot : e.isSuperseded = false := by
    obtain ⟨_, _, _, _, ⟨_, _, rfl⟩ | ⟨_, _, _, rfl⟩ | ⟨_, _, _, _, rfl⟩⟩ := supersedes_cases hs <;>
      rfl
  have hopen : p.state ≠ .cancelled := by
    intro hc
    rw [h.open_unless_superseded hc] at hnot
    cases hnot
  have hstate : p.restoreAbandoned.state = p.state ∨
      p.restoreAbandoned.state = p.latestEligibilityState := by
    simp only [Projection.restoreAbandoned, setEffectiveState]
    split
    · exact .inl rfl
    · exact .inr rfl
  have helig := p.latestEligibilityState_eq
  refine ⟨by simpa using h.identity_eq, ?_, ?_⟩
  · have := h.available
    rcases hstate with hs | hs <;> rw [hs]
    · exact this
    · rcases helig with hl | hl <;> simp [hl]
  · intro hc
    rcases hstate with hs | hs <;> rw [hs] at hc
    · exact absurd hc hopen
    · rcases helig with hl | hl <;> simp [hl] at hc

theorem isEligibility_of_supersedes (hs : p.supersedesAbandonedRegistration e) :
    e.isEligibility = false := by
  obtain ⟨_, _, _, _, ⟨_, _, rfl⟩ | ⟨_, _, _, rfl⟩ | ⟨_, _, _, _, rfl⟩⟩ := supersedes_cases hs <;>
    rfl

theorem reduceParked_of_supersedes (hs : p.supersedesAbandonedRegistration e)
    (q : Projection) : q.reduceParked e = none := by
  obtain ⟨_, _, _, _, ⟨_, _, rfl⟩ | ⟨_, _, _, rfl⟩ | ⟨_, _, _, _, rfl⟩⟩ := supersedes_cases hs <;>
    rfl

theorem reduceWithin_eq_none_of_supersedes (h : Admits p e)
    (hs : p.supersedesAbandonedRegistration e)
    (hs' : p.restoreAbandoned.supersedesAbandonedRegistration e) :
    ∀ depth, reduceWithin depth p e = none := by
  intro depth
  -- the induction is on the depth, with the slots swapped at each call
  induction depth generalizing p with
  | zero => rfl
  | succ _ ih =>
    rw [reduceWithin_of_admits h, reduceParked_of_supersedes hs, none_or, if_pos hs]
    refine ih (h.restoreAbandoned hs) hs' ?_
    rw [supersedes_restoreAbandoned_restoreAbandoned]
    exact hs

theorem reduceWithin_of_ignored (ha : ¬ Admits p e) (hs : ¬ Selects p e)
    (hid : p.identity ≠ none) (depth : ℕ) : reduceWithin (depth + 1) p e = some p := by
  obtain ⟨active, hactive⟩ := ne_none_iff_exists'.mp hid
  by_cases heq : e.identity = active
  · have hr : p.replacesGeneration e = some false := by simp [replacesGeneration, hactive, heq]
    by_cases hun : p.state = .unavailable
    · simp only [reduceWithin, hr, hun, hactive, isSome_some, and_self, if_true]
      split <;> rfl
    · have hcancelled : p.state = .cancelled ∧ ¬ e.isSuperseded := by
        by_contra hc
        refine ha ⟨by rw [hactive, heq], hun, fun hc' => ?_⟩
        by_contra hsup
        exact hc ⟨hc', hsup⟩
      simp only [reduceWithin, hr, true_and, if_pos hcancelled]
  · have hr : p.replacesGeneration e = none := by
      have hun : ¬ (e.isEligibility ∧ p.state = .unavailable) := fun h =>
        hs ⟨h.1, active, hactive, heq, .inl h.2⟩
      have hgen : ¬ (e.isEligibility ∧ active.generation < e.identity.generation) :=
        fun h => hs ⟨h.1, active, hactive, heq, .inr h.2⟩
      simp only [replacesGeneration, hactive, if_neg heq, if_neg hun, if_neg hgen]
    simp only [reduceWithin, hr]

def selected (base : Projection) (identity : Identity) (revision : UInt64) (eligible : Bool) :
    Projection :=
  { base with
    identity := some identity
    registration := none
    checkpoint := some ⟨identity, revision, eligible⟩ }.setState
      (if eligible then .actionRequired else .notEligible)

theorem reduceWithin_of_selects {i b} (h : Selects p (.eligibility i r b)) (depth : ℕ) :
    reduceWithin (depth + 1) p (.eligibility i r b) = some (selected default i r b) := by
  have hparked : p.reduceParked (.eligibility i r b) = none := rfl
  have hsup : p.supersedesAbandonedRegistration (.eligibility i r b) = false := by
    simp [supersedesAbandonedRegistration]
  simp only [reduceWithin, h.replacesGeneration_eq, Bool.true_eq_false, false_and, if_false,
    hparked, hsup, Bool.false_eq_true]
  rfl

theorem reduceWithin_default (e : Event) (depth : ℕ) :
    reduceWithin (depth + 1) default e = some (match e with
      | .eligibility i r b => selected default i r b
      | _ => default) := by
  cases e <;> rfl

theorem reduceWithin_of_not_supersedes (hs : ¬ p.supersedesAbandonedRegistration e)
    (depth : ℕ) : reduceWithin (depth + 1) p e = reduceSettlement p e := by
  simp only [reduceSettlement, reduceWithin, if_neg hs]

theorem exists_reduceSettlement (h : p.supersedesAbandonedRegistration e →
      p.restoreAbandoned.supersedesAbandonedRegistration e = false) :
    ∃ q, reduceSettlement p e = some q := by
  have unswapped : ∀ (p : Projection) (depth : ℕ), p.supersedesAbandonedRegistration e = false →
      (reduceWithin (depth + 1) p e).isSome := by
    intro p depth hs
    simp only [reduceWithin, hs, Bool.false_eq_true, if_false]
    split
    · rfl
    · split_ifs
      · rfl
      · rfl
      · cases p.reduceParked e <;> rfl
  refine isSome_iff_exists.mp ?_
  cases hs : p.supersedesAbandonedRegistration e with
  | false => exact unswapped p 1 hs
  | true =>
    rw [reduceSettlement, reduceWithin]
    split
    · rfl
    · split_ifs
      · rfl
      · rfl
      · rw [reduceParked_of_supersedes hs]
        exact unswapped _ 0 (h hs)

/-- **Two nested calls are enough.**  A call that returns at all returns within
two, so `reduceSettlement` is the source's recursion and its `none` a call that
never returns. -/
theorem reduceWithin_of_two_le (p : Projection) (e : Event) {depth} (h : 2 ≤ depth) :
    reduceWithin depth p e = reduceSettlement p e := by
  obtain ⟨n, rfl⟩ : ∃ n, depth = n + 2 := ⟨depth - 2, by omega⟩
  by_cases ha : Admits p e
  · by_cases hs : p.supersedesAbandonedRegistration e
    · by_cases hs' : p.restoreAbandoned.supersedesAbandonedRegistration e
      · rw [reduceSettlement, reduceWithin_eq_none_of_supersedes ha hs hs',
          reduceWithin_eq_none_of_supersedes ha hs hs']
      · have ha' := ha.restoreAbandoned hs
        simp only [reduceSettlement, reduceWithin_of_admits ha, reduceParked_of_supersedes hs,
          if_pos hs, reduceWithin_of_admits ha', if_neg hs']
    · exact reduceWithin_of_not_supersedes hs (n + 1)
  · by_cases hs : p.supersedesAbandonedRegistration e
    · -- an observation of the parked transaction, ignored for its identity or state
      have helig : e.isEligibility = false := isEligibility_of_supersedes hs
      have hsel : ¬ Selects p e := fun h => Bool.false_ne_true (helig ▸ h.eligibility)
      by_cases hid : p.identity = none
      · have hr : p.replacesGeneration e = none := by simp [replacesGeneration, hid, helig]
        simp only [reduceSettlement, reduceWithin, hr]
      · rw [reduceSettlement, reduceWithin_of_ignored ha hsel hid,
          reduceWithin_of_ignored ha hsel hid]
    · exact reduceWithin_of_not_supersedes hs (n + 1)

end Reduce

/-! ## The arms of the main match -/

def Event.outage : Event → Option State
  | .offline .. => some .offline
  | .timedOut .. => some .timedOut
  | .degraded .. => some .degraded
  | .suspended .. => some .suspended
  | _ => none

variable {e : Event}

theorem Event.isRecoverable_of_outage {k} (h : e.outage = some k) : k.isRecoverable := by
  cases e <;> cases h <;> rfl

theorem Event.isSuperseded_of_recovery (h : e.recoveryRevision.isSome) :
    e.isSuperseded = false := by
  cases e <;> first | rfl | cases h

/-- What the main match does with an event of the selected generation, one
constructor per arm, each with the guard under which the arm is taken. -/
inductive ActiveStep (p : Projection) : Event → Projection → Prop
  | eligibility (i r b) (newer : (p.checkpoint.map (·.revision)).getD 0 < r) :
      ActiveStep p (.eligibility i r b) ({ p with checkpoint := some ⟨i, r, b⟩ }.applyEligibility b)
  | alreadyCurrent (i r) (asked : p.effectiveState = .actionRequired)
      (newer : p.preparationRevision < r) :
      ActiveStep p (.registrationAlreadyCurrent i r)
        ({ p with preparationRevision := r, registration := none }.setEffectiveState .ready)
  | prepared (i d r) (asked : p.effectiveState = .actionRequired)
      (free : ¬ p.hasSubmittedRegistration ∨ p.registrationIsAbandoned)
      (unparked : p.abandonedRegistration = none) (newer : p.preparationRevision < r) :
      ActiveStep p (.authorizationRequested i d r)
        ({ p with
          preparationRevision := r
          abandonedRegistration :=
            if p.registrationIsAbandoned then p.registration else p.abandonedRegistration
          registration := some (pendingRegistration d) }.setEffectiveState
            .awaitingAuthorization)
  | reprepared (i d r) (awaiting : p.effectiveState = .awaitingAuthorization)
      (other : ¬ p.hasDraft d) (eligible : p.latestEligibilityState = .actionRequired)
      (newer : p.preparationRevision < r) :
      ActiveStep p (.authorizationRequested i d r)
        { p with preparationRevision := r, registration := some (pendingRegistration d) }
  | withdrawn (i d) (awaiting : p.effectiveState = .awaitingAuthorization)
      (draft : p.hasDraft d) (ineligible : p.latestEligibilityState = .notEligible) :
      ActiveStep p (.authorizationSucceeded i d) (p.takeParked.setEffectiveState .notEligible)
  | authorized (i d) (awaiting : p.effectiveState = .awaitingAuthorization)
      (draft : p.hasDraft d) (eligible : p.latestEligibilityState ≠ .notEligible) :
      ActiveStep p (.authorizationSucceeded i d)
        ((p.updateActive (·.authorize)).setEffectiveState .submitting)
  | rejected (i d) (awaiting : p.effectiveState = .awaitingAuthorization)
      (draft : p.hasDraft d) :
      ActiveStep p (.authorizationRejected i d)
        (p.takeParked.setEffectiveState p.latestEligibilityState)
  | submitted (i d t) (submitting : p.effectiveState = .submitting) (draft : p.hasDraft d) :
      ActiveStep p (.submissionAccepted i d t)
        ((p.updateActive (·.submit t)).setEffectiveState .confirming)
  | finality (i t r) (accepted : p.acceptsFinality t r) :
      ActiveStep p (.finalityObserved i t r) (p.applyFinality p r)
  | reconciled (i t r c) (accepted : p.acceptsReconciliation t r c) :
      ActiveStep p (.registrationReconciled i t r c) (p.applyReconciliation p r c)
  | refreshed (i t r a b) (accepted : p.acceptsDust t r) :
      ActiveStep p (.dustRefreshed i t r a b) (p.applyDust p r a b)
  | abandoned (i t a) (asked : p.effectiveState = .actionRequired)
      (transaction : p.hasTransaction t)
      (newer : p.registration.any fun x =>
        x.observationRevision < a && x.dustObservationRevision ≤ a)
      :
      ActiveStep p (.droppedRegistrationAbandoned i t a) (p.updateActive (·.abandon a))
  | backedOut (i d) (cancellable : p.canCancel) (draft : p.hasDraft d)
      (parked : p.abandonedRegistration.isSome) :
      ActiveStep p (.cancelled i d) (p.takeParked.setEffectiveState p.latestEligibilityState)
  | cancelled (i d) (cancellable : p.canCancel) (draft : p.hasDraft d)
      (unparked : p.abandonedRegistration = none) :
      ActiveStep p (.cancelled i d) ({ p with registration := none }.setState .cancelled)
  | outage (e k r) (announces : e.outage = some k) (revision : e.recoveryRevision = some r)
      (newer : p.recoveryRevision < r) :
      ActiveStep p e (enterRecoverableState { p with recoveryRevision := r } p k).settlePendingRetry
  | resumed (i r) (newer : p.recoveryRevision < r) (hidden : p.state.isRecoverable) :
      ActiveStep p (.resumed i r)
        (resumeRecoverableState { p with recoveryRevision := r }).settlePendingRetry
  | acknowledged (i r) (newer : p.recoveryRevision < r) (shown : p.state.isRecoverable = false) :
      ActiveStep p (.resumed i r) { p with recoveryRevision := r }.settlePendingRetry
  | retried (i r) (newer : p.recoveryRevision < r) (hidden : p.state.isRecoverable) :
      ActiveStep p (.retry i r) (resumeRecoverableState { p with recoveryRevision := r })
  | retryParked (i r) (newer : p.recoveryRevision < r) (shown : p.state.isRecoverable = false)
      (latest : p.pendingRetryRevision.any (r ≤ ·) = false) :
      ActiveStep p (.retry i r) { p with pendingRetryRevision := some r }
  | superseded (i) :
      ActiveStep p (.superseded i)
        ({ p with registration := none, abandonedRegistration := none }.setState .unavailable)

open ActiveStep

variable {p : Projection}

theorem ActiveStep.identity_eq {q} (h : ActiveStep p e q) : q.identity = p.identity := by
  have resume : ∀ p : Projection, p.resumeRecoverableState.identity = p.identity := by
    intro p
    simp only [resumeRecoverableState]
    split_ifs <;> rfl
  have settle : ∀ p : Projection, p.settlePendingRetry.identity = p.identity := by
    intro p
    simp only [settlePendingRetry]
    split
    · rfl
    · split_ifs
      · rfl
      · rw [resume]
      · rfl
  cases h with
  | eligibility => simp only [applyEligibility]; split_ifs <;> rfl
  | alreadyCurrent | prepared => simp
  | withdrawn | authorized | rejected | submitted | backedOut => simp [takeParked, updateActive]
  | finality => simp only [applyFinality]; split_ifs <;> simp [updateActive]
  | reconciled i t v c => cases c <;> simp [applyReconciliation, updateActive]
  | refreshed => simp only [applyDust]; split_ifs <;> simp [updateActive]
  | outage => rw [settle, enterRecoverableState]; split_ifs <;> rfl
  | resumed => rw [settle, resume]
  | acknowledged => rw [settle]
  | retried => rw [resume]
  | reprepared | abandoned | cancelled | retryParked | superseded => rfl

theorem reduceActive_of_newer (hr : e.recoveryRevision = some r) (hnewer : p.recoveryRevision < r)
    (hpass : ¬ (e.isRetry ∧ ¬ p.state.isRecoverable)) :
    p.reduceActive e false = p.finish { p with recoveryRevision := r } e := by
  simp only [reduceActive, hr, not_le.mpr hnewer, if_false, State.canRetry_eq, if_neg hpass,
    Bool.false_eq_true]

theorem reduceActive_of_stale (hr : e.recoveryRevision = some r) (hstale : r ≤ p.recoveryRevision) :
    p.reduceActive e false = p := by
  simp only [reduceActive, hr, if_pos hstale]

theorem reduceActive_outage {k} (hk : e.outage = some k) (hr : e.recoveryRevision = some r)
    (hnewer : p.recoveryRevision < r) : p.reduceActive e false =
      (enterRecoverableState { p with recoveryRevision := r } p k).settlePendingRetry := by
  cases e <;> simp only [Event.outage, some.injEq, reduceCtorEq] at hk
  all_goals
    subst hk
    rw [reduceActive_of_newer hr hnewer (by simp [Event.isRetry])]
    rfl

theorem reduceActive_of_plain (he : e.recoveryRevision = none) :
    p.reduceActive e false = (p.applyEvent p e).getD p := by
  simp only [reduceActive, he, Bool.false_eq_true, if_false, finish, isSome_none, Bool.false_and]
  cases p.applyEvent p e <;> rfl

theorem reduceActive_cases (e : Event) (hid : p.identity ≠ none) :
    p.reduceActive e false = p ∨ ActiveStep p e (p.reduceActive e false) := by
  have recovery : ∀ r, p.recoveryRevision < r ∨ r ≤ p.recoveryRevision := fun r => lt_or_ge _ _
  cases e with
  | eligibility i r b =>
    rw [reduceActive_of_plain rfl]
    simp only [applyEvent, if_neg hid]
    split_ifs with h
    · exact .inl rfl
    · exact .inr (.eligibility i r b (not_le.mp h))
  | registrationAlreadyCurrent i r =>
    rw [reduceActive_of_plain rfl]
    simp only [applyEvent]
    split_ifs with h
    · exact .inr (.alreadyCurrent i r h.1 h.2)
    · exact .inl rfl
  | authorizationRequested i d r =>
    rw [reduceActive_of_plain rfl]
    simp only [applyEvent]
    by_cases h : p.effectiveState = .actionRequired ∧
        (¬ p.hasSubmittedRegistration ∨ p.registrationIsAbandoned) ∧
        p.abandonedRegistration = none ∧ p.preparationRevision < r
    · rw [if_pos h]
      exact .inr (.prepared i d r h.1 h.2.1 h.2.2.1 h.2.2.2)
    · rw [if_neg h]
      split_ifs with h'
      · exact .inr (.reprepared i d r h'.1 h'.2.1 h'.2.2.1 h'.2.2.2)
      · exact .inl rfl
  | authorizationSucceeded i d =>
    rw [reduceActive_of_plain rfl]
    simp only [applyEvent]
    split_ifs with h h'
    · exact .inr (.withdrawn i d h.1 h.2.1 h.2.2)
    · exact .inr (.authorized i d h'.1 h'.2 fun hn => h ⟨h'.1, h'.2, hn⟩)
    · exact .inl rfl
  | authorizationRejected i d =>
    rw [reduceActive_of_plain rfl]
    simp only [applyEvent]
    split_ifs with h
    · exact .inr (.rejected i d h.1 h.2)
    · exact .inl rfl
  | submissionAccepted i d t =>
    rw [reduceActive_of_plain rfl]
    simp only [applyEvent]
    split_ifs with h
    · exact .inr (.submitted i d t h.1 h.2)
    · exact .inl rfl
  | finalityObserved i t r =>
    rw [reduceActive_of_plain rfl]
    simp only [applyEvent]
    split_ifs with h
    · exact .inr (.finality i t r h)
    · exact .inl rfl
  | registrationReconciled i t r c =>
    rw [reduceActive_of_plain rfl]
    simp only [applyEvent]
    split_ifs with h
    · exact .inr (.reconciled i t r c h)
    · exact .inl rfl
  | dustRefreshed i t r a b =>
    rw [reduceActive_of_plain rfl]
    simp only [applyEvent]
    split_ifs with h
    · exact .inr (.refreshed i t r a b h)
    · exact .inl rfl
  | droppedRegistrationAbandoned i t a =>
    rw [reduceActive_of_plain rfl]
    simp only [applyEvent]
    split_ifs with h
    · exact .inr (.abandoned i t a h.1 h.2.1 h.2.2)
    · exact .inl rfl
  | cancelled i d =>
    rw [reduceActive_of_plain rfl]
    simp only [applyEvent]
    split_ifs with h h'
    · exact .inr (.backedOut i d h.1 h.2 h')
    · exact .inr (.cancelled i d h.1 h.2 (by simpa using h'))
    · exact .inl rfl
  | offline i r | timedOut i r | degraded i r | suspended i r =>
    rcases recovery r with hnewer | hold
    · rw [reduceActive_outage rfl rfl hnewer]
      exact .inr (.outage _ _ r rfl rfl hnewer)
    · exact .inl (reduceActive_of_stale rfl hold)
  | resumed i r =>
    rcases recovery r with hnewer | hold
    · rw [reduceActive_of_newer rfl hnewer (by simp [Event.isRetry])]
      cases hrec : p.state.isRecoverable
      · right
        simpa [finish, applyEvent, hrec, Event.recoveryRevision, Event.isRetry] using
          acknowledged i r hnewer hrec
      · right
        simpa [finish, applyEvent, hrec, Event.recoveryRevision, Event.isRetry] using
          resumed i r hnewer hrec
    · exact .inl (reduceActive_of_stale rfl hold)
  | retry i r =>
    rcases recovery r with hnewer | hold
    · cases hrec : p.state.isRecoverable
      · cases hpending : p.pendingRetryRevision.any (r ≤ ·)
        · right
          simpa [reduceActive, Event.recoveryRevision, Event.isRetry, not_le.mpr hnewer, hrec,
            hpending] using retryParked i r hnewer hrec hpending
        · left
          simp [reduceActive, Event.recoveryRevision, Event.isRetry, hrec, hpending]
      · rw [reduceActive_of_newer rfl hnewer (by simp [hrec])]
        right
        simpa [finish, applyEvent, hrec, Event.recoveryRevision, Event.isRetry] using
          retried i r hnewer hrec
    · exact .inl (reduceActive_of_stale rfl hold)
  | superseded i =>
    rw [reduceActive_of_plain rfl]
    exact .inr (.superseded i)

section Inversion
variable {p q : Projection} {e : Event}

theorem activeStep_restoreAbandoned (hs : p.supersedesAbandonedRegistration e) :
    ActiveStep p.restoreAbandoned e (p.restoreAbandoned.reduceActive e false) := by
  have hidle : p.restoreAbandoned.isIdle ∧ p.restoreAbandoned.observesChain := by
    simp only [isIdle, observesChain, effectiveState_restoreAbandoned]
    rcases p.latestEligibilityState_eq with hl | hl <;> simp [hl]
  obtain ⟨parked, t, hparked, ht, ⟨i, r, rfl⟩ | ⟨i, r, c, rfl⟩ | ⟨i, r, a, b, rfl⟩⟩ :=
    supersedes_cases hs
  all_goals
    simp only [supersedesAbandonedRegistration, hparked, any_some, ht, decide_true,
      Bool.true_and, Bool.and_eq_true, Bool.or_eq_true, decide_eq_true_eq, max_lt_iff] at hs
  · have hacc : p.restoreAbandoned.acceptsFinality t r := by
      simp [acceptsFinality, hasTransaction, hidle, hparked, ht, hs]
    have := finality i t r hacc
    rwa [reduceActive_of_plain rfl, applyEvent, if_pos hacc, getD_some]
  · have hacc : p.restoreAbandoned.acceptsReconciliation t r c := by
      simp [acceptsReconciliation, hasTransaction, hidle, hparked, ht, hs]
    have := reconciled i t r c hacc
    rwa [reduceActive_of_plain rfl, applyEvent, if_pos hacc, getD_some]
  · have hacc : p.restoreAbandoned.acceptsDust t r := by
      simp [acceptsDust, hasTransaction, hidle, hparked, ht, hs]
    have := refreshed i t r a b hacc
    rwa [reduceActive_of_plain rfl, applyEvent, if_pos hacc, getD_some]

inductive ParkedStep (p : Projection) : Event → Projection → Prop
  | submitted (i d t) (parked : p.parkedIn d .submitting) :
      ParkedStep p (.submissionAccepted i d t) (p.updateParked (·.submit t))
  | withdrawn (i d) (parked : p.parkedIn d .awaitingAuthorization)
      (ineligible : p.latestEligibilityState = .notEligible) :
      ParkedStep p (.authorizationSucceeded i d) { p with abandonedRegistration := none }
  | authorized (i d) (parked : p.parkedIn d .awaitingAuthorization)
      (eligible : p.latestEligibilityState ≠ .notEligible) :
      ParkedStep p (.authorizationSucceeded i d) (p.updateParked (·.authorize))
  | rejected (i d) (parked : p.parkedIn d .awaitingAuthorization) :
      ParkedStep p (.authorizationRejected i d) { p with abandonedRegistration := none }
  | backedOut (i d) (parked : p.parkedIn d .awaitingAuthorization) :
      ParkedStep p (.cancelled i d) { p with abandonedRegistration := none }

theorem reduceParked_cases (h : p.reduceParked e = some q) : ParkedStep p e q := by
  cases e <;> simp only [reduceParked, reduceCtorEq] at h
  case submissionAccepted i d t =>
    split_ifs at h with hd
    cases h
    exact .submitted i d t hd
  case authorizationSucceeded i d =>
    split_ifs at h with hd helig
    · cases h
      exact .withdrawn i d hd helig
    · cases h
      exact .authorized i d hd helig
  case authorizationRejected i d =>
    split_ifs at h with hd
    cases h
    exact .rejected i d hd
  case cancelled i d =>
    split_ifs at h with hd
    cases h
    exact .backedOut i d hd

theorem ParkedStep.exists_eq (h : ParkedStep p e q) :
    ∃ parked, q = { p with abandonedRegistration := parked } := by
  cases h <;> exact ⟨_, rfl⟩

inductive Outcome (p : Projection) (e : Event) : Projection → Prop
  | ignored : Outcome p e p
  | selected (i r b) (he : e = .eligibility i r b) (hs : p = Projection.default ∨ Selects p e) :
      Outcome p e (selected Projection.default i r b)
  | parked (q : Projection) (ha : Admits p e) (h : p.reduceParked e = some q) : Outcome p e q
  | active (q : Projection) (ha : Admits p e)
      (hs : p.supersedesAbandonedRegistration e = false) (h : ActiveStep p e q) : Outcome p e q
  | restored (q : Projection) (ha : Admits p e)
      (hs : p.supersedesAbandonedRegistration e)
      (hs' : p.restoreAbandoned.supersedesAbandonedRegistration e = false)
      (h : ActiveStep p.restoreAbandoned e q) : Outcome p e q

theorem reduceSettlement_cases (fresh : p.identity = none → p = default)
    (h : reduceSettlement p e = some q) : Outcome p e q := by
  by_cases hid : p.identity = none
  · obtain rfl := fresh hid
    rw [reduceSettlement, reduceWithin_default, some.injEq] at h
    subst h
    cases e with
    | eligibility i r b => exact .selected i r b rfl (.inl rfl)
    | _ => exact .ignored
  by_cases ha : Admits p e
  · rw [reduceSettlement, reduceWithin_of_admits ha] at h
    cases hp : p.reduceParked e with
    | some =>
      rw [hp, some_or, some.injEq] at h
      exact .parked q ha (h ▸ hp)
    | none =>
      rw [hp, none_or] at h
      cases hs : p.supersedesAbandonedRegistration e with
      | false =>
        simp only [hs, Bool.false_eq_true, if_false, some.injEq] at h
        rcases reduceActive_cases e hid with hnoop | hstep
        · rw [← h, hnoop]
          exact .ignored
        · exact .active q ha hs (h ▸ hstep)
      | true =>
        rw [if_pos hs, reduceWithin_of_admits (ha.restoreAbandoned hs),
          reduceParked_of_supersedes hs, none_or] at h
        cases hs' : p.restoreAbandoned.supersedesAbandonedRegistration e with
        | true => simp [hs', reduceWithin] at h
        | false =>
          simp only [hs', Bool.false_eq_true, if_false, some.injEq] at h
          exact .restored q ha hs hs' (h ▸ activeStep_restoreAbandoned hs)
  by_cases hsel : Selects p e
  · have helig := hsel.eligibility
    cases e <;> simp only [Event.isEligibility, Bool.false_eq_true] at helig
    case eligibility i r b =>
      rw [reduceSettlement, reduceWithin_of_selects hsel, some.injEq] at h
      exact h ▸ .selected i r b rfl (.inr hsel)
  · rw [reduceSettlement, reduceWithin_of_ignored ha hsel hid, some.injEq] at h
    exact h ▸ .ignored

end Inversion

/-! ## The flow of the source's tests

The identifiers and the event sequences that the tests of
`dust_registration_policy.rs` build their projections from. -/

namespace Sample

def identity : Identity where
  profile := ⟨"profile_test", by decide, by decide, by decide, by decide⟩
  realm := ⟨"undeployed", by decide, by decide, by decide, by decide⟩
  generation := 1

def draft : WalletTransactionDraftId :=
  ⟨"dustreg_test", by decide, by decide, by decide, by decide⟩

def otherDraft : WalletTransactionDraftId :=
  ⟨"dustreg_other", by decide, by decide, by decide, by decide⟩

def transaction : ChainTransactionId :=
  ⟨"tx_test", by decide, by decide, by decide, by decide⟩

def otherTransaction : ChainTransactionId :=
  ⟨"tx_other", by decide, by decide, by decide, by decide⟩

def confirming : List Event :=
  [.eligibility identity 1 true, .authorizationRequested identity draft 1,
    .authorizationSucceeded identity draft, .submissionAccepted identity draft transaction]

def replacement : List Event :=
  confirming ++
    [.registrationReconciled identity transaction 2 .dropped,
      .droppedRegistrationAbandoned identity transaction 3,
      .authorizationRequested identity otherDraft 2]

def resubmitted (t : ChainTransactionId) : List Event :=
  replacement ++ [.authorizationSucceeded identity otherDraft,
    .submissionAccepted identity otherDraft t]

def includedParked : List Event :=
  resubmitted otherTransaction ++
    [.registrationReconciled identity otherTransaction 4 .included,
      .finalityObserved identity transaction 5]

def after (es : List Event) : Projection :=
  (runEvents Projection.default es).getD Projection.default

theorem reachable_after (es : List Event) (h : (runEvents default es).isSome) :
    Reachable (after es) := by
  obtain ⟨p, hp⟩ := isSome_iff_exists.mp h
  exact ⟨es, by simp only [after, hp, getD_some]⟩

end Sample
end Oxid.Wallet.DustRegistration
