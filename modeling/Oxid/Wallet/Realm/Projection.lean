import Oxid.Wallet.Realm.Runtime

/-!
# What clients see of a realm

A client replaces the projection it holds by one that `supersedes` it.  Fields of the views
that nothing here reads are compared, so each view carries the rest of its fields.
-/

namespace Oxid.Wallet.Realm
open Transition

inductive FamilyView (T : Type)
  | ready (view : T)
  | busy
  | notFound
  | unsupported
  | protectionNotInitialized
  | protectionLocked
  | unavailable
  | invalidData
  deriving DecidableEq

def FamilyView.isReady {T : Type} : FamilyView T → Bool
  | .ready _ => true
  | _ => false

inductive AccountSource
  | live | cached | simulated | unavailable
  deriving DecidableEq

inductive SyncState
  | neverSynced | syncing | synced | stalled | unavailable
  deriving DecidableEq

structure AssetBalanceView where
  (assetId symbol : String)
  decimals : UInt8
  atomicUnits : String
  deriving DecidableEq

structure AccountView (α : Type) where
  source : AccountSource
  balances : List AssetBalanceView
  syncState : SyncState
  rest : α
  deriving DecidableEq

structure WorkerView (β : Type) where
  state : String
  failure : Option String
  rest : β
  deriving DecidableEq

structure SyncView (α β γ : Type) where
  account : FamilyView (AccountView α)
  dust : FamilyView (WorkerView β)
  shielded : FamilyView (WorkerView γ)
  deriving DecidableEq

inductive AccountState
  | awaitingInitialSync | refreshing | fresh | stale | unavailable
  deriving DecidableEq

def AccountState.derive : AccountSource → SyncState → AccountState
  | .unavailable, _ | .simulated, _ => .unavailable
  | _, .unavailable => .unavailable
  | .live, .neverSynced | .cached, .neverSynced => .awaitingInitialSync
  | .live, .syncing | .cached, .syncing => .refreshing
  | .live, .synced => .fresh
  | .live, .stalled | .cached, .stalled | .cached, .synced => .stale

inductive SpendableNightView
  | loading
  | fresh (atomicUnits : String)
  | stale (atomicUnits : String)
  | zero
  | failed
  | unavailable

section Views
variable {α β γ : Type} (view : SyncView α β γ)

def SpendableNightView.fromRealmView : SpendableNightView :=
  match view.account with
  | .busy => .loading
  | .invalidData => .failed
  | .notFound | .unsupported | .protectionNotInitialized | .protectionLocked
  | .unavailable => .unavailable
  | .ready account =>
    let atomicUnits :=
      ((account.balances.find? (·.symbol = "NIGHT")).map (·.atomicUnits)).getD "0"
    match AccountState.derive account.source account.syncState with
    | .awaitingInitialSync | .refreshing => .loading
    | .fresh => if atomicUnits = "0" then .zero else .fresh atomicUnits
    | .stale => .stale atomicUnits
    | .unavailable => .unavailable

def SyncView.accountIs (state : AccountState) : Bool :=
  match view.account with
  | .ready account => AccountState.derive account.source account.syncState = state
  | _ => false

/-- `matches!(family, Ready(view) if view.state == "synced" && view.failure.is_none())`. -/
def FamilyView.isSynced {δ : Type} : FamilyView (WorkerView δ) → Bool
  | .ready worker => worker.state = "synced" && worker.failure.isNone
  | _ => false

def FamilyView.isSyncing {δ : Type} : FamilyView (WorkerView δ) → Bool
  | .ready worker => worker.state = "syncing"
  | .busy => true
  | _ => false

def FamilyView.isBroken {T : Type} : FamilyView T → Bool
  | .invalidData | .unavailable => true
  | _ => false

def selectedRealmIsFresh : Bool :=
  view.accountIs .fresh && view.dust.isSynced && view.shielded.isSynced

def selectedRealmIsRefreshing : Bool :=
  view.accountIs .refreshing || view.dust.isSyncing || view.shielded.isSyncing

def selectedRealmIsConsistent : Bool :=
  !view.account.isBroken && !view.dust.isBroken && !view.shielded.isBroken

end Views

/-! ## Projections -/

inductive ActionReadiness
  | ready | refreshing | unavailable

inductive Observation
  | settled
  | pollAfter (millis : Nat)

structure RealmProjection (α β γ : Type) where
  identity : RealmIdentity
  (generation revision : UInt64)
  (fresh consistent : Bool)
  actionable : ActionReadiness
  observation : Observation
  spendableNight : SpendableNightView
  view : SyncView α β γ

section Projections
variable {α β γ : Type}

def RealmProjection.supersedes (projection previous : RealmProjection α β γ) : Bool :=
  projection.identity = previous.identity &&
    (projection.generation > previous.generation ||
      projection.generation = previous.generation && projection.revision ≥ previous.revision)

def projectionFromPublished (identity : RealmIdentity)
    (published : PublishedProjection (SyncView α β γ)) : RealmProjection α β γ :=
  let view := published.view
  let fresh := selectedRealmIsFresh view
  let consistent := selectedRealmIsConsistent view
  let refreshing := published.reconciling || selectedRealmIsRefreshing view
  { identity := identity
    generation := published.authorityGeneration
    revision := published.revision
    fresh := fresh
    consistent := consistent
    actionable :=
      if fresh && consistent then .ready else if refreshing then .refreshing else .unavailable
    observation := if refreshing then .pollAfter 150 else .settled
    spendableNight := .fromRealmView view
    view := view }

open Wallet.Realm.Runtime

/-- **Published projections are monotone.**  The later authoritative projection of a realm
supersedes the earlier one, and under one generation and revision it shows the same. -/
theorem authoritative_projections_monotone [DecidableEq α] [DecidableEq β] [DecidableEq γ]
    (key : RealmIdentity) (before between : List (Call (SyncView α β γ)))
    (earlier later : Runtime (SyncView α β γ)) (p p' : PublishedProjection (SyncView α β γ))
    (hearlier : run perform .default before = some earlier)
    (hlater : run perform earlier between = some later)
    (hcounters : EveryStep perform (fun r _ => r.Unsaturated) .default (before ++ between))
    (hp : earlier.authoritativeProjection key = some p)
    (hp' : later.authoritativeProjection key = some p') :
    (projectionFromPublished key p').supersedes (projectionFromPublished key p) ∧
      (p.authorityGeneration = p'.authorityGeneration ∧ p.revision = p'.revision →
        p.view = p'.view ∧ p.reconciling = p'.reconciling) := by
  obtain ⟨hpub, o, ho, hauth⟩ := authoritativeProjection_eq_some_iff.mp hp
  obtain ⟨hpub', o', ho', hauth'⟩ := authoritativeProjection_eq_some_iff.mp hp'
  have hadv : Advances key earlier later :=
    run_advances (hcounters.of_append_run hearlier) hlater
  obtain ⟨o'', ho'', hle⟩ := hadv.authority o ho
  obtain ⟨p'', hp'', hrev, hsame⟩ := hadv.projection p hpub
  obtain rfl : p'' = p' := Option.some.inj (hp''.symm.trans hpub')
  obtain rfl : o'' = o' := Option.some.inj (ho''.symm.trans ho')
  rw [← hauth, ← hauth'] at hle
  refine ⟨?_, fun heq => hsame heq.2⟩
  rcases hle.lt_or_eq with hlt | heq
  · simp [RealmProjection.supersedes, projectionFromPublished, hlt]
  · simp [RealmProjection.supersedes, projectionFromPublished, heq, hrev]

def previewRealm : RealmIdentity where
  profile := ⟨⟨"profile_realm", by decide, by decide, by decide, by decide⟩⟩
  realm := ⟨⟨"preview", by decide, by decide, by decide, by decide⟩⟩

def busyView : SyncView Unit Unit Unit := ⟨.busy, .busy, .busy⟩
def missingView : SyncView Unit Unit Unit := ⟨.notFound, .busy, .busy⟩

theorem missingView_supersedes_busyView :
    (projectionFromPublished previewRealm ⟨2, 0, false, missingView⟩).supersedes
      (projectionFromPublished previewRealm ⟨1, 0, false, busyView⟩) :=
  (authoritative_projections_monotone previewRealm
    [.beginObservation previewRealm, .publish previewRealm ⟨1, 0⟩ busyView]
    [.beginObservation previewRealm, .publish previewRealm ⟨2, 0⟩ missingView]
    _ _ _ _ rfl rfl (by decide) (by decide) (by decide)).1

end Projections
end Oxid.Wallet.Realm
