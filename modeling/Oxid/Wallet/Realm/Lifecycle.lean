import Oxid.Wallet.Realm.ActionWatch

/-!
# The lifecycle of the selected realm

`realm_lifecycle_runtime.rs` keeps under one lock the policy, the watch, and the *recovery*:
what is left of a watch that a lifecycle boundary cut off, with the number of activations that
may still try it.
-/

namespace Oxid.Wallet.Realm
open Foundation Transition ActionWatchRuntime Option

def actionRecoveryAttempts : UInt8 := 3

def lifecycleSnapshotVersion : UInt8 := 1

inductive LifecycleError
  | invalidSnapshot
  | unresolvedAction
  deriving DecidableEq

structure LifecycleSnapshot where
  version : UInt8
  identity : Option LifecycleIdentity
  facets : ReconciliationState
  lifecycleGeneration : UInt64
  actionRecovery : Option ActionWatchRecovery
  actionRecoveryAttemptsRemaining : UInt8

structure LifecycleCheckpoint where
  identity : Option LifecycleIdentity
  facets : ReconciliationState
  nowMillis : UInt64
  deriving DecidableEq

def LifecycleInput.selects : LifecycleInput → Option LifecycleIdentity
  | .initialized identity _ _ | .realmSelected identity _ _ => some identity
  | _ => none

namespace LifecycleCheckpoint

def new (facets : ReconciliationState) : LifecycleCheckpoint := ⟨none, facets, 0⟩

variable (checkpoint : LifecycleCheckpoint)

def observe : LifecycleInput → LifecycleCheckpoint
  | .initialized identity now facets | .realmSelected identity now facets =>
    ⟨some identity, facets, now⟩
  | .foreground now facets | .connectivityRestored now facets | .periodicTick now facets
  | .actionPreflight now facets => { checkpoint with facets := facets, nowMillis := now }
  | .backgrounded now => { checkpoint with nowMillis := now }
  | .reconciliationFinished identity _ now facets _ | .reconciliationObserved identity now facets =>
    if checkpoint.identity = some identity then
      { checkpoint with facets := facets, nowMillis := now }
    else checkpoint
  | .reconciliationTimedOut identity _ now _ =>
    if checkpoint.identity = some identity then { checkpoint with nowMillis := now }
    else checkpoint

def nowFor (identity : LifecycleIdentity) : UInt64 :=
  if checkpoint.identity = some identity then checkpoint.nowMillis else 0

theorem observe_identity (input : LifecycleInput) :
    (checkpoint.observe input).identity = input.selects.or checkpoint.identity := by
  cases input with
  | initialized | realmSelected => rfl
  | foreground | connectivityRestored | periodicTick | actionPreflight | backgrounded => rfl
  | reconciliationFinished | reconciliationObserved | reconciliationTimedOut =>
    rw [observe]
    split_ifs
    · rfl
    · rfl

end LifecycleCheckpoint

def FacetState.durable : FacetState → FacetState
  | .updating => .stale
  | facet => facet

def durableFacets (facets : ReconciliationState) : ReconciliationState :=
  ⟨facets.account.durable, facets.dust.durable, facets.shielded.durable⟩

theorem durableFacets_durableFacets (facets : ReconciliationState) :
    durableFacets (durableFacets facets) = durableFacets facets := by
  have h : ∀ facet : FacetState, facet.durable.durable = facet.durable := by
    intro facet
    cases facet <;> rfl
  rw [durableFacets, durableFacets, h, h, h]

structure LifecycleState where
  policy : LifecyclePolicy
  checkpoint : LifecycleCheckpoint
  actionWatch : ActionWatchRuntime
  actionRecovery : Option ActionWatchRecovery
  actionRecoveryAttemptsRemaining : UInt8
  lifecycleGeneration : UInt64
  backgrounded : Bool
  deriving DecidableEq

variable {next : LifecycleState} {snapshot : LifecycleSnapshot}

namespace LifecycleState

def new (facets : ReconciliationState) : LifecycleState :=
  ⟨.default, .new facets, .default, none, 0, 0, false⟩

variable (state : LifecycleState)

def enterBackground : LifecycleState :=
  let boundary := state.actionWatch.lifecycleBoundary
  let state := { state with
    backgrounded := true
    actionWatch := boundary.2
    lifecycleGeneration := boundary.2.generation }
  match boundary.1 with
  | some recovery =>
    { state with
      actionRecovery := some recovery
      actionRecoveryAttemptsRemaining := actionRecoveryAttempts }
  | none => state

/-- A `Foreground` input after a `Backgrounded` one: the recovery is given up when no
attempt is left, otherwise this activation may try once. -/
def spendAttempt : LifecycleState :=
  match state.backgrounded, state.actionRecovery with
  | true, some recovery =>
    if state.actionRecoveryAttemptsRemaining = 0 then
      { state with
        actionRecovery := none
        actionWatch := state.actionWatch.expireRecovery recovery.kind }
    else
      { state with
        actionRecoveryAttemptsRemaining := state.actionRecoveryAttemptsRemaining - 1 }
  | _, _ => state

def crossBoundary : LifecycleInput → LifecycleState
  | .backgrounded _ => if state.backgrounded then state else state.enterBackground
  | .foreground _ _ => { state.spendAttempt with backgrounded := false }
  | .initialized identity _ _ | .realmSelected identity _ _ =>
    { state with
      backgrounded := false
      actionWatch := state.actionWatch.selectRealm identity
      lifecycleGeneration := (state.actionWatch.selectRealm identity).generation }
  | _ => state

def leaves (input : LifecycleInput) : Bool :=
  input.selects.any fun identity =>
    state.checkpoint.identity.any fun previous => previous ≠ identity

def admitInput (config : PolicyConfig) (state : LifecycleState) (input : LifecycleInput) :
    Except LifecycleError (LifecycleDecision × LifecycleState) :=
  if state.leaves input && state.actionRecovery.isSome then .error .unresolvedAction
  else
    let state := { state with checkpoint := state.checkpoint.observe input }
    let state := state.crossBoundary input
    let result := state.policy.reduce config input
    .ok (result.1, { state with policy := result.2 })

def settle (config : PolicyConfig) (state : LifecycleState) (request : LifecycleRequest)
    (facets : ReconciliationState) (succeeded : Bool) :
    (LifecycleDecision × Bool) × LifecycleState :=
  let current := state.policy.owns request &&
    decide (state.checkpoint.identity = some request.identity)
  let now := state.checkpoint.nowFor request.identity
  let checkpoint :=
    if current then { state.checkpoint with facets := facets } else state.checkpoint
  let result := state.policy.reduce config
    (.reconciliationFinished request.identity request.sequence now facets succeeded)
  ((result.1, current), { state with checkpoint := checkpoint, policy := result.2 })

def admitActionWatch (watch : ActionWatch) (deadlineMillis now : UInt64) :
    Except LifecycleError (Option ActionWatchHandle × LifecycleState) :=
  if state.actionRecovery.isSome then .error .unresolvedAction
  else
    let result := state.actionWatch.admitWatch watch deadlineMillis now
    .ok (result.1, { state with actionWatch := result.2 })

def signalActionWatch (signal : ActionWatchRuntime.Signal) : LifecycleState :=
  { state with actionWatch := state.actionWatch.signal signal }

def reconcileActionRecovery (lifecycleGeneration : UInt64) (observation : ActionWatchObservation)
    (outcome : ActionRecoveryOutcome) : Bool × LifecycleState :=
  match state.actionRecovery with
  | none => (false, state)
  | some recovery =>
    if lifecycleGeneration ≠ state.lifecycleGeneration ∨ recovery.matches observation = false then
      (false, state)
    else if outcome = .pending then (true, state)
    else
      (true, { state with
        actionRecovery := none
        actionRecoveryAttemptsRemaining := 0
        actionWatch := state.actionWatch.settleRecovery recovery.kind outcome })

def expireActionRecovery : Bool × LifecycleState :=
  match state.actionRecovery with
  | none => (false, state)
  | some recovery =>
    (true, { state with
      actionRecovery := none
      actionRecoveryAttemptsRemaining := 0
      actionWatch := state.actionWatch.expireRecovery recovery.kind })

def takeCheckpoint : LifecycleSnapshot where
  version := lifecycleSnapshotVersion
  identity := state.checkpoint.identity
  facets := durableFacets state.checkpoint.facets
  lifecycleGeneration := state.lifecycleGeneration
  actionRecovery := state.actionRecovery
  actionRecoveryAttemptsRemaining := state.actionRecoveryAttemptsRemaining

def invalidSnapshot (snapshot : LifecycleSnapshot) : Bool :=
  snapshot.version ≠ lifecycleSnapshotVersion ||
    (snapshot.identity.isNone && snapshot.actionRecovery.isSome) ||
    snapshot.lifecycleGeneration = u64Max ||
    snapshot.actionRecovery.isSome ≠ decide (0 < snapshot.actionRecoveryAttemptsRemaining) ||
    actionRecoveryAttempts < snapshot.actionRecoveryAttemptsRemaining

def inUse : Bool :=
  state.checkpoint.identity.isSome || state.policy.inFlight.isSome ||
    state.actionRecovery.isSome || state.lifecycleGeneration ≠ 0 || state.backgrounded

def restoredWatch (snapshot : LifecycleSnapshot) (lifecycleGeneration : UInt64) :
    ActionWatchRuntime :=
  match snapshot.identity, snapshot.actionRecovery with
  | some identity, some recovery =>
    ActionWatchRuntime.default.restoreRecovery identity recovery lifecycleGeneration
  | some identity, none => ActionWatchRuntime.default.restoreRealm identity lifecycleGeneration
  | none, _ => ActionWatchRuntime.default.restoreUnselected lifecycleGeneration

def restore (snapshot : LifecycleSnapshot) : Except LifecycleError LifecycleState :=
  if invalidSnapshot snapshot then .error .invalidSnapshot
  else if state.inUse then .error .invalidSnapshot
  else
    let lifecycleGeneration := saturatingAdd64 snapshot.lifecycleGeneration 1
    .ok
      { policy := snapshot.identity.elim .default .restoreActive
        checkpoint := ⟨snapshot.identity, durableFacets snapshot.facets, 0⟩
        actionWatch := restoredWatch snapshot lifecycleGeneration
        actionRecovery := snapshot.actionRecovery
        actionRecoveryAttemptsRemaining := snapshot.actionRecoveryAttemptsRemaining
        lifecycleGeneration := lifecycleGeneration
        backgrounded := true }

/-! ## Operations -/

inductive Call
  | admitInput (input : LifecycleInput)
  | settle (request : LifecycleRequest) (facets : ReconciliationState) (succeeded : Bool)
  | admitActionWatch (watch : ActionWatch) (deadlineMillis now : UInt64)
  | signalActionWatch (signal : ActionWatchRuntime.Signal)
  | reconcileActionRecovery (lifecycleGeneration : UInt64) (observation : ActionWatchObservation)
      (outcome : ActionRecoveryOutcome)
  | expireActionRecovery
  | restore (snapshot : LifecycleSnapshot)

def perform (config : PolicyConfig) (state : LifecycleState) : Call → LifecycleState
  | .admitInput input =>
    match state.admitInput config input with
    | .ok (_, next) => next
    | .error _ => state
  | .settle request facets succeeded => (state.settle config request facets succeeded).2
  | .admitActionWatch watch deadlineMillis now =>
    match state.admitActionWatch watch deadlineMillis now with
    | .ok (_, next) => next
    | .error _ => state
  | .signalActionWatch signal => state.signalActionWatch signal
  | .reconcileActionRecovery lifecycleGeneration observation outcome =>
    (state.reconcileActionRecovery lifecycleGeneration observation outcome).2
  | .expireActionRecovery => state.expireActionRecovery.2
  | .restore snapshot =>
    match state.restore snapshot with
    | .ok next => next
    | .error _ => state

def step (config : PolicyConfig) (state : LifecycleState) (call : Call) : Option LifecycleState :=
  some (state.perform config call)

section Bookkeeping
variable {config : PolicyConfig} {state : LifecycleState} {recovery : ActionWatchRecovery}

structure Coherent (state : LifecycleState) : Prop where
  identity_eq : state.actionWatch.identity = state.checkpoint.identity
  owned : state.actionWatch.Owned
  unwatched : state.actionRecovery ≠ none → state.actionWatch.active = none
  selected : state.actionRecovery ≠ none → state.checkpoint.identity ≠ none
  attempts_le : state.actionRecoveryAttemptsRemaining ≤ actionRecoveryAttempts
  attempts_eq_zero : state.actionRecovery = none → state.actionRecoveryAttemptsRemaining = 0

theorem coherent_new (facets : ReconciliationState) : (new facets).Coherent where
  identity_eq := rfl
  owned := owned_of_inactive rfl
  unwatched := fun h => absurd rfl h
  selected := fun h => absurd rfl h
  attempts_le := UInt8.zero_le
  attempts_eq_zero := fun _ => rfl

theorem Coherent.of_eq (h : state.Coherent)
    (hidentity : next.checkpoint.identity = state.checkpoint.identity)
    (hwatch : next.actionWatch = state.actionWatch)
    (hrecovery : next.actionRecovery = state.actionRecovery)
    (hattempts : next.actionRecoveryAttemptsRemaining = state.actionRecoveryAttemptsRemaining) :
    next.Coherent where
  identity_eq := by rw [hwatch, hidentity]; exact h.identity_eq
  owned := by rw [hwatch]; exact h.owned
  unwatched := by rw [hrecovery, hwatch]; exact h.unwatched
  selected := by rw [hrecovery, hidentity]; exact h.selected
  attempts_le := by rw [hattempts]; exact h.attempts_le
  attempts_eq_zero := by rw [hrecovery, hattempts]; exact h.attempts_eq_zero

theorem Coherent.publish (h : state.Coherent) (kind : ActionWatchKind)
    (terminal : ActionWatchState) :
    Coherent { state with
      actionRecovery := none
      actionRecoveryAttemptsRemaining := 0
      actionWatch := state.actionWatch.publishRecovery kind terminal } where
  identity_eq := h.identity_eq
  owned := owned_of_inactive rfl
  unwatched := fun hne => absurd rfl hne
  selected := fun hne => absurd rfl hne
  attempts_le := UInt8.zero_le
  attempts_eq_zero := fun _ => rfl

theorem Coherent.enterBackground (h : state.Coherent) : state.enterBackground.Coherent := by
  obtain ⟨hactive, hidentity, hrecovery⟩ :=
    lifecycleBoundary_spec state.actionWatch
  rw [LifecycleState.enterBackground]
  cases hw : state.actionWatch.active with
  | none =>
    rw [hw] at hrecovery
    rw [hrecovery]
    exact
      { identity_eq := hidentity.trans h.identity_eq
        owned := owned_of_inactive hactive
        unwatched := fun _ => hactive
        selected := h.selected
        attempts_le := h.attempts_le
        attempts_eq_zero := h.attempts_eq_zero }
  | some active =>
    have hselected : state.checkpoint.identity ≠ none := by
      rw [← h.identity_eq]
      exact h.owned (by rw [hw]; exact some_ne_none active)
    rw [hw] at hrecovery
    rw [hrecovery]
    exact
      { identity_eq := hidentity.trans h.identity_eq
        owned := owned_of_inactive hactive
        unwatched := fun _ => hactive
        selected := fun _ => hselected
        attempts_le := UInt8.le_refl _
        attempts_eq_zero := fun hnone => absurd hnone (some_ne_none _) }

theorem sub_one_le {attempts : UInt8} (h : attempts ≠ 0) : attempts - 1 ≤ attempts := by
  have hpos : (1 : UInt8) ≤ attempts := by
    rw [UInt8.le_iff_toNat_le]
    have hne : attempts.toNat ≠ 0 := fun hz => h (UInt8.toNat_inj.mp hz)
    exact Nat.one_le_iff_ne_zero.mpr hne
  rw [UInt8.le_iff_toNat_le, UInt8.toNat_sub_of_le _ _ hpos]
  omega

theorem Coherent.spendAttempt (h : state.Coherent) : state.spendAttempt.Coherent := by
  rw [LifecycleState.spendAttempt]
  split
  · rename_i recovery _ hrecovery
    split_ifs with hzero
    · refine Coherent.of_eq (h.publish recovery.kind .outcomeUnresolved) rfl rfl rfl hzero
    · exact
        { identity_eq := h.identity_eq
          owned := h.owned
          unwatched := h.unwatched
          selected := h.selected
          attempts_le := UInt8.le_trans (sub_one_le hzero) h.attempts_le
          attempts_eq_zero := fun hnone => by
            rw [hrecovery] at hnone
            exact absurd hnone (some_ne_none recovery) }
  · exact h

theorem Coherent.select (h : state.Coherent) {identity checkpoint}
    (hchecked : checkpoint.identity = some identity) :
    Coherent { state with
      checkpoint := checkpoint
      backgrounded := false
      actionWatch := state.actionWatch.selectRealm identity
      lifecycleGeneration := (state.actionWatch.selectRealm identity).generation } where
  identity_eq := by rw [hchecked]; exact selectRealm_identity identity
  owned := h.owned.selectRealm identity
  unwatched := fun hne => selectRealm_active (h.unwatched hne) identity
  selected := fun _ => by rw [hchecked]; exact some_ne_none identity
  attempts_le := h.attempts_le
  attempts_eq_zero := h.attempts_eq_zero

theorem Coherent.crossBoundary (h : state.Coherent) (input : LifecycleInput) :
    (LifecycleState.crossBoundary { state with checkpoint := state.checkpoint.observe input }
      input).Coherent := by
  have hobserved : input.selects = none →
      Coherent { state with checkpoint := state.checkpoint.observe input } := by
    intro hnone
    refine h.of_eq ?_ rfl rfl rfl
    rw [LifecycleCheckpoint.observe_identity, hnone, none_or]
  cases input with
  | initialized => exact h.select rfl
  | realmSelected => exact h.select rfl
  | backgrounded =>
    rw [LifecycleState.crossBoundary]
    split_ifs
    · exact hobserved rfl
    · exact (hobserved rfl).enterBackground
  | foreground => exact (hobserved rfl).spendAttempt.of_eq rfl rfl rfl rfl
  | connectivityRestored | periodicTick | actionPreflight => exact hobserved rfl
  | reconciliationFinished | reconciliationObserved | reconciliationTimedOut => exact hobserved rfl

theorem restoredWatch_spec (snapshot : LifecycleSnapshot) (lifecycleGeneration : UInt64) :
    (restoredWatch snapshot lifecycleGeneration).identity = snapshot.identity ∧
      (restoredWatch snapshot lifecycleGeneration).active = none := by
  rw [restoredWatch]
  split
  · rename_i hidentity _
    exact ⟨hidentity.symm, rfl⟩
  · rename_i hidentity _
    exact ⟨hidentity.symm, rfl⟩
  · rename_i hidentity
    exact ⟨hidentity.symm, rfl⟩

theorem invalidSnapshot_eq_false_iff :
    invalidSnapshot snapshot = false ↔
      snapshot.version = lifecycleSnapshotVersion ∧
      (snapshot.identity = none → snapshot.actionRecovery = none) ∧
      snapshot.lifecycleGeneration ≠ u64Max ∧
      (snapshot.actionRecovery = none ↔ snapshot.actionRecoveryAttemptsRemaining = 0) ∧
      snapshot.actionRecoveryAttemptsRemaining ≤ actionRecoveryAttempts := by
  have hzero : 0 < snapshot.actionRecoveryAttemptsRemaining ↔
      snapshot.actionRecoveryAttemptsRemaining ≠ 0 := UInt8.pos_iff_ne_zero
  simp only [invalidSnapshot, Bool.or_eq_false_iff, Bool.and_eq_false_iff, decide_eq_false_iff_not,
    not_not, UInt8.not_lt, hzero, isNone_eq_false_iff, isSome_eq_false_iff,
    isNone_iff_eq_none, and_assoc]
  refine and_congr_right fun _ => and_congr ?_ (and_congr_right fun _ => and_congr ?_ Iff.rfl)
  · cases snapshot.identity <;> simp
  · cases snapshot.actionRecovery <;> simp

theorem coherent_restore (hok : state.restore snapshot = .ok next) : next.Coherent := by
  rw [LifecycleState.restore] at hok
  split_ifs at hok with hinvalid huse
  obtain ⟨-, hselected, -, hattempts, hle⟩ :=
    invalidSnapshot_eq_false_iff.mp (Bool.not_eq_true _ ▸ hinvalid)
  obtain ⟨hidentity, hactive⟩ := restoredWatch_spec snapshot
    (saturatingAdd64 snapshot.lifecycleGeneration 1)
  rw [← Except.ok.inj hok]
  exact
    { identity_eq := hidentity
      owned := owned_of_inactive hactive
      unwatched := fun _ => hactive
      selected := fun hne hnone => hne (hselected hnone)
      attempts_le := hle
      attempts_eq_zero := hattempts.mp }

theorem Coherent.perform (h : state.Coherent) (call : Call) :
    (state.perform config call).Coherent := by
  cases call with
  | admitInput input =>
    simp only [LifecycleState.perform, LifecycleState.admitInput]
    split_ifs
    · exact h
    · exact (h.crossBoundary input).of_eq rfl rfl rfl rfl
  | settle =>
    refine h.of_eq ?_ rfl rfl rfl
    simp only [LifecycleState.perform, LifecycleState.settle]
    split_ifs
    · rfl
    · rfl
  | admitActionWatch watch deadlineMillis now =>
    simp only [LifecycleState.perform, LifecycleState.admitActionWatch]
    split_ifs with hsome
    · exact h
    · rw [not_isSome_iff_eq_none] at hsome
      exact
        { identity_eq := by
            rw [← h.identity_eq]
            exact admitWatch_identity watch deadlineMillis now
          owned := owned_admitWatch watch deadlineMillis now
          unwatched := fun hne => absurd hsome hne
          selected := h.selected
          attempts_le := h.attempts_le
          attempts_eq_zero := h.attempts_eq_zero }
  | signalActionWatch signal =>
    exact
      { identity_eq := (signal_identity signal).trans h.identity_eq
        owned := h.owned.signal signal
        unwatched := fun hne => by
          rw [LifecycleState.perform, signalActionWatch,
            signal_of_inactive (h.unwatched hne)]
          exact h.unwatched hne
        selected := h.selected
        attempts_le := h.attempts_le
        attempts_eq_zero := h.attempts_eq_zero }
  | reconcileActionRecovery _ _ outcome =>
    simp only [LifecycleState.perform, LifecycleState.reconcileActionRecovery]
    split
    · exact h
    · split_ifs with hother hpending
      · exact h
      · exact h
      · cases outcome with
        | pending => exact absurd rfl hpending
        | confirmed => exact h.publish _ .confirmed
        | failed => exact h.publish _ .failed
  | expireActionRecovery =>
    simp only [LifecycleState.perform, LifecycleState.expireActionRecovery]
    split
    · exact h
    · exact h.publish _ .outcomeUnresolved
  | restore =>
    simp only [LifecycleState.perform]
    split
    · rename_i next hok
      exact coherent_restore hok
    · exact h

theorem Coherent.of_reachable {facets} (h : Reachable (step config) (new facets) state) :
    state.Coherent := by
  refine h.invariant (coherent_new facets) ?_
  intro p call q hp hstep
  rw [step, some.injEq] at hstep
  exact hstep ▸ hp.perform call

end Bookkeeping

section Recovery
variable {config : PolicyConfig} {state : LifecycleState} {recovery : ActionWatchRecovery}

def exitState (state : LifecycleState) (recovery : ActionWatchRecovery) :
    Call → Option ActionWatchState
  | .reconcileActionRecovery lifecycleGeneration observation outcome =>
    if lifecycleGeneration = state.lifecycleGeneration ∧ recovery.matches observation then
      match outcome with
      | .pending => none
      | .confirmed => some .confirmed
      | .failed => some .failed
    else none
  | .expireActionRecovery => some .outcomeUnresolved
  | .admitInput (.foreground _ _) =>
    if state.backgrounded ∧ state.actionRecoveryAttemptsRemaining = 0 then
      some .outcomeUnresolved
    else none
  | _ => none

def Ended (next : LifecycleState) (recovery : ActionWatchRecovery)
    (terminal : ActionWatchState) : Prop :=
  next.actionRecovery = none ∧
    next.actionWatch.projection =
      some ⟨recovery.kind, terminal, next.actionWatch.generation⟩

theorem crossBoundary_recovery {checkpoint} (h : state.Coherent)
    (hr : state.actionRecovery = some recovery) (input : LifecycleInput) :
    (exitState state recovery (.admitInput input) = none →
      (LifecycleState.crossBoundary { state with checkpoint := checkpoint }
        input).actionRecovery = some recovery) ∧
    ∀ terminal, exitState state recovery (.admitInput input) = some terminal →
      (LifecycleState.crossBoundary { state with checkpoint := checkpoint } input).Ended
        recovery terminal := by
  have hinactive := h.unwatched (by rw [hr]; exact some_ne_none recovery)
  cases input with
  | backgrounded =>
    -- there is no watch that could take the place of the recovery
    refine ⟨fun _ => ?_, fun terminal hterminal => nomatch hterminal⟩
    obtain ⟨-, -, hboundary⟩ :=
      lifecycleBoundary_spec state.actionWatch
    rw [hinactive, map_none] at hboundary
    rw [crossBoundary, enterBackground]
    split_ifs
    · exact hr
    · rw [hboundary]
      exact hr
  | foreground =>
    simp only [exitState, crossBoundary, spendAttempt, hr]
    cases state.backgrounded with
    | false => exact ⟨fun _ => rfl, fun terminal hterminal => nomatch hterminal⟩
    | true =>
      by_cases hzero : state.actionRecoveryAttemptsRemaining = 0
      · simp [hzero, Ended, expireRecovery,
          publishRecovery]
      · simp [hzero]
  | initialized | realmSelected => exact ⟨fun _ => hr, fun terminal hterminal => nomatch hterminal⟩
  | connectivityRestored | periodicTick | actionPreflight | reconciliationFinished
  | reconciliationObserved | reconciliationTimedOut =>
    exact ⟨fun _ => hr, fun terminal hterminal => nomatch hterminal⟩

theorem restore_of_recovery (hr : state.actionRecovery = some recovery)
    (snapshot : LifecycleSnapshot) : state.restore snapshot = .error .invalidSnapshot := by
  have huse : state.inUse := by simp [inUse, hr]
  rw [restore, if_pos huse, ite_self]

theorem admitInput_of_leaves (config : PolicyConfig) (hr : state.actionRecovery = some recovery)
    {input} (h : state.leaves input) :
    state.admitInput config input = .error .unresolvedAction := by
  rw [admitInput, if_pos]
  rw [h, hr]
  rfl

theorem perform_recovery (h : state.Coherent) (hr : state.actionRecovery = some recovery)
    (call : Call) :
    (exitState state recovery call = none →
      (state.perform config call).actionRecovery = some recovery) ∧
    ∀ terminal, exitState state recovery call = some terminal →
      (state.perform config call).Ended recovery terminal := by
  cases call with
  | admitInput input =>
    cases hleaves : state.leaves input with
    | true =>
      -- only an input that selects a realm can leave one, and none of those ends a recovery
      have hkept : exitState state recovery (.admitInput input) = none := by
        cases input <;> first | rfl | cases hleaves
      rw [perform, admitInput_of_leaves config hr hleaves, hkept]
      exact ⟨fun _ => hr, fun terminal hterminal => by cases hterminal⟩
    | false =>
      simp only [perform, admitInput, hleaves, Bool.false_and]
      exact crossBoundary_recovery h hr input
  | settle => exact ⟨fun _ => hr, fun terminal hterminal => by cases hterminal⟩
  | admitActionWatch =>
    refine ⟨fun _ => ?_, fun terminal hterminal => by cases hterminal⟩
    simp [perform, admitActionWatch, hr]
  | signalActionWatch => exact ⟨fun _ => hr, fun terminal hterminal => by cases hterminal⟩
  | reconcileActionRecovery lifecycleGeneration observation outcome =>
    simp only [perform, reconcileActionRecovery, hr, exitState]
    by_cases hmatch : lifecycleGeneration = state.lifecycleGeneration ∧
        recovery.matches observation
    · cases outcome with
      | pending => simp [hmatch, hr]
      | confirmed =>
        simp [hmatch, Ended, settleRecovery,
          publishRecovery]
      | failed =>
        simp [hmatch, Ended, settleRecovery,
          publishRecovery]
    · have hother : lifecycleGeneration ≠ state.lifecycleGeneration ∨
          recovery.matches observation = false := by
        rwa [← Bool.not_eq_true, ← not_and_or]
      simp [hmatch, hother, hr]
  | expireActionRecovery =>
    refine ⟨fun hnone => absurd hnone (some_ne_none _), fun terminal hterminal => ?_⟩
    rw [← some.inj hterminal]
    simp only [perform, expireActionRecovery, hr, Ended]
    exact ⟨trivial, rfl⟩
  | restore =>
    refine ⟨fun _ => ?_, fun terminal hterminal => by cases hterminal⟩
    simp only [perform, restore_of_recovery hr]
    exact hr

theorem run_recovery {calls final} (h : state.Coherent) (hr : state.actionRecovery = some recovery)
    (hkept : EveryStep (step config) (fun p call => exitState p recovery call = none) state calls)
    (hrun : run (step config) state calls = some final) : final.actionRecovery = some recovery := by
  refine (run_invariant_of_everyStep
    (fun p => p.Coherent ∧ p.actionRecovery = some recovery) ⟨h, hr⟩ ?_ hkept hrun).2
  intro p call q hp hexit hstep
  rw [step, some.injEq] at hstep
  rw [← hstep]
  exact ⟨hp.1.perform call, (perform_recovery hp.1 hp.2 call).1 hexit⟩

def suspendedCalls : List Call :=
  [.admitInput (.initialized testnetLifecycle 0 currentFacets),
    .admitActionWatch
      (.submittedTransaction ⟨⟨"tx-1", by decide, by decide, by decide, by decide⟩⟩) 100 1,
    .admitInput (.backgrounded 2)]

def suspended : LifecycleState := suspendedCalls.foldl (perform .default) (new currentFacets)

def briefActivation (now : UInt64) : List Call :=
  [.admitInput (.foreground now currentFacets), .admitInput (.backgrounded (now + 1))]

/-- **An unresolved action is not dropped.**  A recovery stays along every run none of whose
operations ends it; one that ends it shows the outcome; and until then no watch is admitted, and no
other realm selected. -/
theorem actionRecovery_kept_until_settled (config : PolicyConfig) (facets : ReconciliationState)
    (state : LifecycleState) (recovery : ActionWatchRecovery)
    (hreach : Reachable (step config) (new facets) state)
    (hr : state.actionRecovery = some recovery) :
    (∀ calls final,
      EveryStep (step config) (fun p call => exitState p recovery call = none) state calls →
      run (step config) state calls = some final → final.actionRecovery = some recovery) ∧
    (∀ call terminal, exitState state recovery call = some terminal →
      (state.perform config call).Ended recovery terminal) ∧
    state.actionWatch.active = none ∧
    (∀ watch deadlineMillis now,
      state.admitActionWatch watch deadlineMillis now = .error .unresolvedAction) ∧
    ∀ input identity, input.selects = some identity →
      state.checkpoint.identity ≠ some identity →
      state.admitInput config input = .error .unresolvedAction ∧
        state.perform config (.admitInput input) = state := by
  have h := Coherent.of_reachable hreach
  have hsome : state.actionRecovery ≠ none := by
    rw [hr]
    exact some_ne_none recovery
  refine ⟨?_, ?_, h.unwatched hsome, ?_, ?_⟩
  · intro calls final hkept hrun
    exact run_recovery h hr hkept hrun
  · intro call terminal hterminal
    exact (perform_recovery h hr call).2 terminal hterminal
  · intro watch deadlineMillis now
    rw [admitActionWatch, hr]
    rfl
  · intro input identity hselects hother
    obtain ⟨previous, hprevious⟩ := ne_none_iff_exists'.mp (h.selected hsome)
    have hleaves : state.leaves input := by
      rw [leaves, hselects, hprevious]
      rw [hprevious] at hother
      simpa using hother
    have hrefused := admitInput_of_leaves config hr hleaves
    refine ⟨hrefused, ?_⟩
    rw [perform, hrefused]

theorem suspended_recovery_kept :
    ∃ final, run (step .default) suspended (briefActivation 3) = some final ∧
      final.actionRecovery = suspended.actionRecovery :=
  ⟨_, rfl, (actionRecovery_kept_until_settled .default currentFacets suspended
    (.submittedTransaction ⟨⟨"tx-1", by decide, by decide, by decide, by decide⟩⟩)
    ⟨suspendedCalls, rfl⟩ (by decide)).1 (briefActivation 3) _ (by decide) rfl⟩

end Recovery

section Restore
variable {state : LifecycleState}

structure Succeeds (next state : LifecycleState) : Prop where
  identity : next.checkpoint.identity = state.checkpoint.identity
  facets : next.checkpoint.facets = durableFacets state.checkpoint.facets
  recovery : next.actionRecovery = state.actionRecovery
  attempts : next.actionRecoveryAttemptsRemaining = state.actionRecoveryAttemptsRemaining
  generation : next.lifecycleGeneration.toNat = state.lifecycleGeneration.toNat + 1

theorem exists_restore_new_iff {fresh} :
    (∃ next, (new fresh).restore snapshot = .ok next) ↔ invalidSnapshot snapshot = false := by
  have hunused : (new fresh).inUse = false := rfl
  rw [restore, hunused]
  cases invalidSnapshot snapshot <;> simp

theorem invalidSnapshot_takeCheckpoint (h : state.Coherent)
    (hidentity : state.checkpoint.identity ≠ none)
    (hgeneration : state.lifecycleGeneration ≠ u64Max) :
    invalidSnapshot state.takeCheckpoint = false ↔
      (state.actionRecovery ≠ none → state.actionRecoveryAttemptsRemaining ≠ 0) := by
  rw [invalidSnapshot_eq_false_iff]
  constructor
  · intro hvalid hsome hzero
    exact hsome (hvalid.2.2.2.1.mpr hzero)
  · intro hattempts
    refine ⟨rfl, fun hnone => absurd hnone hidentity, hgeneration, ?_, h.attempts_le⟩
    exact ⟨h.attempts_eq_zero, fun hzero => not_not.mp fun hsome => hattempts hsome hzero⟩

theorem succeeds_of_restore {fresh : LifecycleState}
    (hgeneration : state.lifecycleGeneration ≠ u64Max)
    (hok : fresh.restore state.takeCheckpoint = .ok next) : next.Succeeds state := by
  rw [restore] at hok
  split_ifs at hok with hinvalid huse
  rw [← Except.ok.inj hok]
  refine ⟨rfl, durableFacets_durableFacets _, rfl, rfl, ?_⟩
  have hlt := UInt64.lt_iff_toNat_lt.mp (lt_saturatingAdd64_one hgeneration)
  have heq := toNat_saturatingAdd64 state.lifecycleGeneration 1
  have hone : (1 : UInt64).toNat = 1 := rfl
  change (saturatingAdd64 state.lifecycleGeneration 1).toNat = _
  omega

/-- **Restoring a checkpoint** of a service with a selected realm succeeds exactly if it does not
hold a recovery whose attempts are spent; the new service takes over the realm, the durable facets
and the recovery, in the next generation. -/
theorem restore_takeCheckpoint_iff (config : PolicyConfig) (facets fresh : ReconciliationState)
    (state : LifecycleState) (hreach : Reachable (step config) (new facets) state)
    (hidentity : state.checkpoint.identity ≠ none)
    (hgeneration : state.lifecycleGeneration ≠ u64Max) :
    ((∃ next, (new fresh).restore state.takeCheckpoint = .ok next) ↔
      (state.actionRecovery ≠ none → state.actionRecoveryAttemptsRemaining ≠ 0)) ∧
    ∀ next, (new fresh).restore state.takeCheckpoint = .ok next → next.Succeeds state := by
  refine ⟨?_, fun next hok => succeeds_of_restore hgeneration hok⟩
  rw [exists_restore_new_iff]
  exact invalidSnapshot_takeCheckpoint (.of_reachable hreach) hidentity hgeneration

theorem restore_suspended_checkpoint :
    ∃ next, (new currentFacets).restore suspended.takeCheckpoint = .ok next :=
  (restore_takeCheckpoint_iff .default currentFacets currentFacets suspended
    ⟨suspendedCalls, rfl⟩ (by decide) (by decide)).1.mpr (by decide)

/-- After the third activation the recovery is still there and its attempts are spent, so
that a checkpoint taken then is refused. -/
theorem restore_refuses_spent_checkpoint :
    ∃ state,
      run (step .default) (new currentFacets)
        (suspendedCalls ++ briefActivation 3 ++ briefActivation 5 ++
          [.admitInput (.foreground 7 currentFacets)]) = some state ∧
      state.checkpoint.identity = some testnetLifecycle ∧
      state.lifecycleGeneration = 4 ∧
      state.actionRecovery ≠ none ∧
      (new currentFacets).restore state.takeCheckpoint = .error .invalidSnapshot :=
  ⟨_, rfl, by decide, by decide, by decide, by decide⟩

end Restore
end LifecycleState
end Oxid.Wallet.Realm
