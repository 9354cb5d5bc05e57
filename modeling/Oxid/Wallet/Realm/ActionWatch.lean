import Oxid.Wallet.Realm.LifecyclePolicy

/-!
# The watch on one action

`action_watch.rs` keeps at most one watch on a submitted transaction or an incoming arrival.
The worker presents its handle with every signal.  At a lifecycle boundary the watch becomes
an identity to reconcile.
-/

namespace Oxid.Wallet.Realm
open Foundation

/-- Names one admission, so a signal of an earlier watch is told apart. -/
structure ActionWatchHandle where
  (realmGeneration sequence : UInt64)
  deriving DecidableEq

inductive ActionWatchKind
  | submittedTransaction | incomingArrival
  deriving DecidableEq

inductive ActionWatch
  | submittedTransaction (transaction : ChainTransactionId)
  | incomingArrival (account : ChainAccountId) (startingCheckpoint : UInt64)
  deriving DecidableEq

inductive ActionWatchObservation
  | submittedTransaction (transaction : ChainTransactionId)
  | incomingArrival (account : ChainAccountId) (checkpoint : UInt64)

inductive ActionWatchState
  | waiting | confirmed | outcomeUnknown | outcomeUnresolved | failed | expired | superseded
  | offline | degraded | cancelled
  deriving DecidableEq

inductive ActionRecoveryOutcome
  | pending | confirmed | failed
  deriving DecidableEq

structure ActionWatchProjection where
  kind : ActionWatchKind
  state : ActionWatchState
  realmGeneration : UInt64
  deriving DecidableEq

/-- What is left of a watch at a lifecycle boundary. -/
inductive ActionWatchRecovery
  | submittedTransaction (transaction : ChainTransactionId)
  | incomingArrival (account : ChainAccountId) (startingCheckpoint : UInt64)
  deriving DecidableEq

def ActionWatch.kind : ActionWatch → ActionWatchKind
  | .submittedTransaction _ => .submittedTransaction
  | .incomingArrival _ _ => .incomingArrival

def ActionWatch.matches : ActionWatch → ActionWatchObservation → Bool
  | .submittedTransaction expected, .submittedTransaction observed => expected = observed
  | .incomingArrival expected startingCheckpoint, .incomingArrival observed checkpoint =>
    expected = observed && startingCheckpoint < checkpoint
  | _, _ => false

def ActionWatchRecovery.ofWatch : ActionWatch → ActionWatchRecovery
  | .submittedTransaction transaction => .submittedTransaction transaction
  | .incomingArrival account startingCheckpoint => .incomingArrival account startingCheckpoint

def ActionWatchRecovery.kind : ActionWatchRecovery → ActionWatchKind
  | .submittedTransaction _ => .submittedTransaction
  | .incomingArrival _ _ => .incomingArrival

def ActionWatchRecovery.matches : ActionWatchRecovery → ActionWatchObservation → Bool
  | .submittedTransaction expected, .submittedTransaction observed => expected = observed
  | .incomingArrival expected startingCheckpoint, .incomingArrival observed checkpoint =>
    expected = observed && startingCheckpoint < checkpoint
  | _, _ => false

/-- An arrival can be watched for again; a submission may have happened. -/
def ActionWatchRecovery.state : ActionWatchRecovery → ActionWatchState
  | .submittedTransaction _ => .outcomeUnknown
  | .incomingArrival _ _ => .offline

structure ActiveWatch where
  watch : ActionWatch
  identity : LifecycleIdentity
  handle : ActionWatchHandle
  deadlineMillis : UInt64
  deriving DecidableEq

structure ActionWatchRuntime where
  identity : Option LifecycleIdentity
  (generation sequence : UInt64)
  active : Option ActiveWatch
  projection : Option ActionWatchProjection
  suspended : Bool
  deriving DecidableEq

namespace ActionWatchRuntime

def default : ActionWatchRuntime := ⟨none, 0, 0, none, none, false⟩

/-- Another identity ends the watch without a projection. -/
def selectRealm (runtime : ActionWatchRuntime) (identity : LifecycleIdentity) :
    ActionWatchRuntime :=
  if runtime.identity ≠ some identity then
    { runtime with
      active := none
      projection := none
      suspended := false
      generation := saturatingAdd64 runtime.generation 1
      identity := some identity }
  else runtime

def finish (runtime : ActionWatchRuntime) (state : ActionWatchState) : ActionWatchRuntime :=
  match runtime.active with
  | some active =>
    { runtime with
      active := none
      suspended := false
      projection := some ⟨active.watch.kind, state, active.handle.realmGeneration⟩ }
  | none => runtime

def ownedBy (runtime : ActionWatchRuntime) (handle : ActionWatchHandle) : Bool :=
  runtime.active.any fun active => active.handle = handle

/-- A handle that is not the current one changes nothing. -/
def finishOwned (runtime : ActionWatchRuntime) (handle : ActionWatchHandle)
    (state : ActionWatchState) : ActionWatchRuntime :=
  if runtime.ownedBy handle then runtime.finish state else runtime

/-- The watch before it is superseded even if the new one is not admitted. -/
def admitWatch (runtime : ActionWatchRuntime) (watch : ActionWatch) (deadlineMillis now : UInt64) :
    Option ActionWatchHandle × ActionWatchRuntime :=
  let runtime := { runtime.finish .superseded with suspended := false }
  let projected := fun state => some ⟨watch.kind, state, runtime.generation⟩
  match runtime.identity with
  | none => (none, { runtime with projection := projected .degraded })
  | some identity =>
    if deadlineMillis ≤ now then (none, { runtime with projection := projected .expired })
    else
      let sequence := saturatingAdd64 runtime.sequence 1
      let handle := ⟨runtime.generation, sequence⟩
      (some handle,
        { runtime with
          sequence := sequence
          active := some ⟨watch, identity, handle, deadlineMillis⟩
          projection := projected .waiting })

/-- The deadline is looked at first: a late confirmation expires the watch. -/
def observe (runtime : ActionWatchRuntime) (handle : ActionWatchHandle)
    (observation : ActionWatchObservation) (now : UInt64) : ActionWatchRuntime :=
  if runtime.suspended then runtime
  else match runtime.active with
    | none => runtime
    | some active =>
      if active.handle ≠ handle then runtime
      else if active.deadlineMillis ≤ now then runtime.finish .expired
      else if active.watch.matches observation then runtime.finish .confirmed
      else runtime

def timeout (runtime : ActionWatchRuntime) (handle : ActionWatchHandle) (now : UInt64) :
    ActionWatchRuntime :=
  if runtime.suspended then runtime
  else if runtime.active.any fun active =>
      active.handle = handle && active.deadlineMillis ≤ now then runtime.finish .expired
  else runtime

def cancel (runtime : ActionWatchRuntime) (handle : ActionWatchHandle) : ActionWatchRuntime :=
  runtime.finishOwned handle .cancelled

def offline (runtime : ActionWatchRuntime) (handle : ActionWatchHandle) : ActionWatchRuntime :=
  runtime.finishOwned handle .offline

def degraded (runtime : ActionWatchRuntime) (handle : ActionWatchHandle) : ActionWatchRuntime :=
  runtime.finishOwned handle .degraded

def suspend (runtime : ActionWatchRuntime) (handle : ActionWatchHandle) : ActionWatchRuntime :=
  if runtime.ownedBy handle then { runtime with suspended := true } else runtime

def resume (runtime : ActionWatchRuntime) (handle : ActionWatchHandle) : ActionWatchRuntime :=
  if runtime.ownedBy handle then { runtime with suspended := false } else runtime

/-- The generation moves on even if there is no watch. -/
def lifecycleBoundary (runtime : ActionWatchRuntime) :
    Option ActionWatchRecovery × ActionWatchRuntime :=
  let runtime := { runtime with
    generation := saturatingAdd64 runtime.generation 1
    suspended := false }
  match runtime.active with
  | none => (none, runtime)
  | some active =>
    let recovery := ActionWatchRecovery.ofWatch active.watch
    (some recovery,
      { runtime with
        active := none
        projection := some ⟨active.watch.kind, recovery.state, runtime.generation⟩ })

def restoreRecovery (runtime : ActionWatchRuntime) (identity : LifecycleIdentity)
    (recovery : ActionWatchRecovery) (lifecycleGeneration : UInt64) : ActionWatchRuntime :=
  { runtime with
    identity := some identity
    generation := lifecycleGeneration
    active := none
    suspended := false
    projection := some ⟨recovery.kind, recovery.state, lifecycleGeneration⟩ }

def restoreRealm (runtime : ActionWatchRuntime) (identity : LifecycleIdentity)
    (lifecycleGeneration : UInt64) : ActionWatchRuntime :=
  { runtime with
    identity := some identity
    generation := lifecycleGeneration
    active := none
    projection := none
    suspended := false }

def restoreUnselected (runtime : ActionWatchRuntime) (lifecycleGeneration : UInt64) :
    ActionWatchRuntime :=
  { runtime with
    identity := none
    generation := lifecycleGeneration
    active := none
    projection := none
    suspended := false }

def publishRecovery (runtime : ActionWatchRuntime) (kind : ActionWatchKind)
    (state : ActionWatchState) : ActionWatchRuntime :=
  { runtime with
    active := none
    suspended := false
    projection := some ⟨kind, state, runtime.generation⟩ }

def settleRecovery (runtime : ActionWatchRuntime) (kind : ActionWatchKind) :
    ActionRecoveryOutcome → ActionWatchRuntime
  | .pending => runtime
  | .confirmed => runtime.publishRecovery kind .confirmed
  | .failed => runtime.publishRecovery kind .failed

def expireRecovery (runtime : ActionWatchRuntime) (kind : ActionWatchKind) : ActionWatchRuntime :=
  runtime.publishRecovery kind .outcomeUnresolved

/-- What the worker may report about the watch it has the handle of. -/
inductive Signal
  | observe (handle : ActionWatchHandle) (observation : ActionWatchObservation) (now : UInt64)
  | timeout (handle : ActionWatchHandle) (now : UInt64)
  | cancel (handle : ActionWatchHandle)
  | offline (handle : ActionWatchHandle)
  | degraded (handle : ActionWatchHandle)
  | suspend (handle : ActionWatchHandle)
  | resume (handle : ActionWatchHandle)

def signal (runtime : ActionWatchRuntime) : Signal → ActionWatchRuntime
  | .observe handle observation now => runtime.observe handle observation now
  | .timeout handle now => runtime.timeout handle now
  | .cancel handle => runtime.cancel handle
  | .offline handle => runtime.offline handle
  | .degraded handle => runtime.degraded handle
  | .suspend handle => runtime.suspend handle
  | .resume handle => runtime.resume handle

section
variable {runtime : ActionWatchRuntime}

theorem ownedBy_of_inactive (h : runtime.active = none) (handle : ActionWatchHandle) :
    runtime.ownedBy handle = false := by
  rw [ownedBy, h]
  rfl

theorem signal_of_inactive (h : runtime.active = none) (s : Signal) :
    runtime.signal s = runtime := by
  cases s <;>
    simp [signal, observe, timeout, cancel, offline, degraded, suspend, resume, finishOwned,
      ownedBy_of_inactive h, h]

@[simp] theorem finish_identity (runtime : ActionWatchRuntime) (state : ActionWatchState) :
    (runtime.finish state).identity = runtime.identity := by
  rw [finish]
  split <;> rfl

@[simp] theorem finish_active (runtime : ActionWatchRuntime) (state : ActionWatchState) :
    (runtime.finish state).active = none := by
  rw [finish]
  split
  · rfl
  · assumption

theorem signal_cases (runtime : ActionWatchRuntime) (s : Signal) :
    (∃ state, runtime.signal s = runtime.finish state) ∨
      ∃ suspended, runtime.signal s = { runtime with suspended := suspended } := by
  have howned : ∀ handle state, runtime.finishOwned handle state = runtime.finish state ∨
      runtime.finishOwned handle state = runtime := by
    intro handle state
    rw [finishOwned]
    split_ifs
    · exact .inl rfl
    · exact .inr rfl
  have hunchanged : ∀ next, next = runtime →
      ∃ suspended, next = { runtime with suspended := suspended } :=
    fun _ h => ⟨runtime.suspended, h⟩
  cases s with
  | observe =>
    simp only [signal, observe]
    split_ifs
    · exact .inr (hunchanged _ rfl)
    · split
      · exact .inr (hunchanged _ rfl)
      · split_ifs
        · exact .inr (hunchanged _ rfl)
        · exact .inl ⟨.expired, rfl⟩
        · exact .inl ⟨.confirmed, rfl⟩
        · exact .inr (hunchanged _ rfl)
  | timeout =>
    simp only [signal, timeout]
    split_ifs
    · exact .inr (hunchanged _ rfl)
    · exact .inl ⟨.expired, rfl⟩
    · exact .inr (hunchanged _ rfl)
  | cancel handle => exact (howned handle .cancelled).imp (fun h => ⟨_, h⟩) (hunchanged _)
  | offline handle => exact (howned handle .offline).imp (fun h => ⟨_, h⟩) (hunchanged _)
  | degraded handle => exact (howned handle .degraded).imp (fun h => ⟨_, h⟩) (hunchanged _)
  | suspend =>
    simp only [signal, suspend]
    split_ifs
    · exact .inr ⟨true, rfl⟩
    · exact .inr (hunchanged _ rfl)
  | resume =>
    simp only [signal, resume]
    split_ifs
    · exact .inr ⟨false, rfl⟩
    · exact .inr (hunchanged _ rfl)

/-! ## A watch belongs to a selected realm -/

def Owned (runtime : ActionWatchRuntime) : Prop :=
  runtime.active ≠ none → runtime.identity ≠ none

@[simp] theorem signal_identity (s : Signal) : (runtime.signal s).identity = runtime.identity := by
  rcases signal_cases runtime s with ⟨state, h⟩ | ⟨suspended, h⟩
  · rw [h, finish_identity]
  · rw [h]

theorem Owned.signal (h : runtime.Owned) (s : Signal) : (runtime.signal s).Owned := by
  intro hactive
  rw [signal_identity]
  rcases signal_cases runtime s with ⟨state, hs⟩ | ⟨suspended, hs⟩
  · rw [hs, finish_active] at hactive
    exact absurd rfl hactive
  · rw [hs] at hactive
    exact h hactive

theorem owned_of_inactive (h : runtime.active = none) : runtime.Owned :=
  fun hactive => absurd h hactive

theorem Owned.selectRealm (h : runtime.Owned) (identity : LifecycleIdentity) :
    (runtime.selectRealm identity).Owned := by
  rw [ActionWatchRuntime.selectRealm]
  split_ifs
  · exact owned_of_inactive rfl
  · exact h

@[simp] theorem selectRealm_identity (identity : LifecycleIdentity) :
    (runtime.selectRealm identity).identity = some identity := by
  rw [selectRealm]
  split_ifs with h
  · rfl
  · exact not_not.mp h

theorem selectRealm_active (h : runtime.active = none) (identity : LifecycleIdentity) :
    (runtime.selectRealm identity).active = none := by
  rw [selectRealm]
  split_ifs
  · rfl
  · exact h

@[simp] theorem admitWatch_identity (watch : ActionWatch) (deadlineMillis now : UInt64) :
    (runtime.admitWatch watch deadlineMillis now).2.identity = runtime.identity := by
  have hidentity := finish_identity runtime .superseded
  simp only [admitWatch]
  split
  · exact hidentity
  · split_ifs
    · exact hidentity
    · exact hidentity

theorem owned_admitWatch (watch : ActionWatch) (deadlineMillis now : UInt64) :
    (runtime.admitWatch watch deadlineMillis now).2.Owned := by
  have hinactive := finish_active runtime .superseded
  simp only [admitWatch]
  split
  · exact owned_of_inactive hinactive
  · rename_i identity hidentity
    split_ifs
    · exact owned_of_inactive hinactive
    · exact fun _ => by rw [hidentity]; exact Option.some_ne_none identity

theorem lifecycleBoundary_spec (runtime : ActionWatchRuntime) :
    runtime.lifecycleBoundary.2.active = none ∧
      runtime.lifecycleBoundary.2.identity = runtime.identity ∧ runtime.lifecycleBoundary.1 =
        runtime.active.map fun active => ActionWatchRecovery.ofWatch active.watch := by
  rw [lifecycleBoundary]
  cases runtime.active with
  | none => exact ⟨rfl, rfl, rfl⟩
  | some => exact ⟨rfl, rfl, rfl⟩

end
end ActionWatchRuntime
end Oxid.Wallet.Realm
