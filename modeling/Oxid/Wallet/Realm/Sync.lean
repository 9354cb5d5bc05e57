import Mathlib.Logic.Function.Basic
import Oxid.Result
import Oxid.Wallet.Realm.Projection

/-!
# Synchronising the selected realm

`SelectedWalletRealmSyncService` admits work with a token, with which each effect comes back
to be completed and published.  All but the expiry of a lease hold the selection gate.
-/

namespace Oxid.Wallet.Realm
open Foundation Transition Wallet.Realm.Runtime Option

inductive AccountPortError
  | notFound | unsupportedNetwork | protectionNotInitialized | protectionLocked | unavailable
  | invalidData

inductive SyncError
  | invalidProfileIdentifier (error : OpaqueIdError)
  | selectedNetwork (error : AccountPortError)
  | selectionChanged
  | observationSuperseded
  | unavailable

structure Service (α β γ : Type) where
  selectedNetwork : WalletProfileId → Except AccountPortError ChainNetworkId
  runtime : Runtime (SyncView α β γ)

structure ObservedRealm (α β γ : Type) where
  view : SyncView α β γ
  state : ReconciliationState

structure Admission (α β γ : Type) where
  profile : WalletProfileId
  realm : ChainNetworkId
  authority : ObservationToken
  view : SyncView α β γ
  effects : List CoordinatorEffect
  projection : RealmProjection α β γ

inductive EffectPublication (α β γ : Type)
  | published (followUp : List CoordinatorEffect) (projection : RealmProjection α β γ)
  | superseded (projection : RealmProjection α β γ)

namespace Service
variable {α β γ : Type}

def ensureSelectedRealm (service : Service α β γ) (key : RealmIdentity) : Except SyncError Unit :=
  match service.selectedNetwork key.profile with
  | .error e => .error (.selectedNetwork e)
  | .ok selected => if selected = key.realm then .ok () else .error .selectionChanged

def pinSelectedRealm (service : Service α β γ) (profile : WalletProfileId)
    (realm : ChainNetworkId) : Service α β γ :=
  { service with runtime := (service.runtime.retireOtherRealms profile realm).2 }

def select (service : Service α β γ) (profile : WalletProfileId) (realm : ChainNetworkId) :
    Service α β γ :=
  pinSelectedRealm { service with
    selectedNetwork := Function.update service.selectedNetwork profile (.ok realm) } profile realm

variable [DecidableEq α] [DecidableEq β] [DecidableEq γ]

def publishAndRead (runtime : Runtime (SyncView α β γ)) (key : RealmIdentity)
    (token : ObservationToken) (view : SyncView α β γ) :
    Except SyncError (RealmProjection α β γ) × Runtime (SyncView α β γ) :=
  match runtime.publish key token view with
  | (none, runtime) => (.error .observationSuperseded, runtime)
  | (some _, runtime) =>
    match runtime.authoritativeProjection key with
    | none => (.error .observationSuperseded, runtime)
    | some published => (.ok (projectionFromPublished key published), runtime)

def admitReconciliation (service : Service α β γ) (profile : WalletProfileId)
    (trigger : ReconciliationTrigger) (observed : ObservedRealm α β γ) :
    Except SyncError (Admission α β γ) × Service α β γ :=
  match service.selectedNetwork profile with
  | .error e => (.error (.selectedNetwork e), service)
  | .ok realm =>
    let service := service.pinSelectedRealm profile realm
    match service.runtime.beginObservation ⟨profile, realm⟩ with
    | (none, runtime) => (.error .selectionChanged, { service with runtime := runtime })
    | (some authority, runtime) =>
      let reconciled := runtime.reconcile ⟨profile, realm⟩ observed.state trigger
      let published := publishAndRead reconciled.2 ⟨profile, realm⟩ authority observed.view
      (published.1.map (⟨profile, realm, authority, observed.view, reconciled.1, ·⟩),
        { service with runtime := published.2 })

omit [DecidableEq α] [DecidableEq β] [DecidableEq γ] in
def refreshCompleted (kind : ReconciliationEffect) (completed : SyncView α β γ)
    (latestDust : FamilyView (WorkerView β)) (latestShielded : FamilyView (WorkerView γ)) :
    SyncView α β γ :=
  match kind with
  | .syncAccount => completed
  | .syncDust => if latestDust.isReady then { completed with dust := latestDust } else completed
  | .syncShielded =>
    if latestShielded.isReady then { completed with shielded := latestShielded } else completed

omit [DecidableEq α] [DecidableEq β] [DecidableEq γ] in
def mergeCompleted (kind : ReconciliationEffect) (view completed : SyncView α β γ) :
    SyncView α β γ :=
  match kind with
  | .syncAccount => { view with account := completed.account }
  | .syncDust => { view with dust := completed.dust }
  | .syncShielded => { view with shielded := completed.shielded }

def completeEffectAndPublish (service : Service α β γ) (key : RealmIdentity)
    (authority : ObservationToken) (effect : CoordinatorEffect) (outcome : EffectOutcome)
    (completed : SyncView α β γ) (latestDust : FamilyView (WorkerView β))
    (latestShielded : FamilyView (WorkerView γ)) :
    Except SyncError (EffectPublication α β γ) × Service α β γ :=
  match service.ensureSelectedRealm key with
  | .error e => (.error e, service)
  | .ok () =>
    let completed := refreshCompleted effect.kind completed latestDust latestShielded
    if service.runtime.authorityMatches key authority then
      let followUp := service.runtime.complete key effect outcome
      let view := ((followUp.2.authoritativeProjection key).map (·.view)).getD completed
      let view := mergeCompleted effect.kind view completed
      let observation := followUp.2.advanceObservationGeneration key
      let published := publishAndRead observation.2 key observation.1 view
      (published.1.map (.published followUp.1 ·), { service with runtime := published.2 })
    else
      match service.runtime.authoritativeProjection key with
      | none => (.error .observationSuperseded, service)
      | some published => (.ok (.superseded (projectionFromPublished key published)), service)

def publishProjectionWhileSelected (service : Service α β γ) (key : RealmIdentity)
    (token : ObservationToken) (view : SyncView α β γ) :
    Except SyncError (RealmProjection α β γ) × Service α β γ :=
  match service.ensureSelectedRealm key with
  | .error e => (.error e, service)
  | .ok () =>
    if service.runtime.selectionMatches key then
      let runtime := (service.runtime.publish key token view).2
      match runtime.authoritativeProjection key with
      | none => (.error .observationSuperseded, { service with runtime := runtime })
      | some published =>
        (.ok (projectionFromPublished key published), { service with runtime := runtime })
    else (.error .selectionChanged, service)

def cancel (service : Service α β γ) (profile : WalletProfileId) (view : SyncView α β γ) :
    Except SyncError (RealmProjection α β γ) × Service α β γ :=
  match service.selectedNetwork profile with
  | .error e => (.error (.selectedNetwork e), service)
  | .ok realm =>
    let service := service.pinSelectedRealm profile realm
    let service := { service with runtime := service.runtime.cancelProfile profile }
    match service.ensureSelectedRealm ⟨profile, realm⟩ with
    | .error e => (.error e, service)
    | .ok () =>
      match service.runtime.beginObservation ⟨profile, realm⟩ with
      | (none, runtime) => (.error .selectionChanged, { service with runtime := runtime })
      | (some token, runtime) =>
        publishProjectionWhileSelected { service with runtime := runtime } ⟨profile, realm⟩
          token view

inductive Call (α β γ : Type)
  | select (profile : WalletProfileId) (realm : ChainNetworkId)
  | admitReconciliation (profile : WalletProfileId) (trigger : ReconciliationTrigger)
      (observed : ObservedRealm α β γ)
  | completeEffectAndPublish (key : RealmIdentity) (authority : ObservationToken)
      (effect : CoordinatorEffect) (outcome : EffectOutcome) (completed : SyncView α β γ)
      (latestDust : FamilyView (WorkerView β)) (latestShielded : FamilyView (WorkerView γ))
  | cancel (profile : WalletProfileId) (view : SyncView α β γ)
  | runtime (call : Runtime.Call (SyncView α β γ))

def perform (service : Service α β γ) : Call α β γ → Option (Service α β γ)
  | .select profile realm => some (service.select profile realm)
  | .admitReconciliation profile trigger observed =>
    some (service.admitReconciliation profile trigger observed).2
  | .completeEffectAndPublish key authority effect outcome completed latestDust latestShielded =>
    some (service.completeEffectAndPublish key authority effect outcome completed latestDust
      latestShielded).2
  | .cancel profile view => some (service.cancel profile view).2
  | .runtime call => (service.runtime.perform call).map ({ service with runtime := · })

end Service

/-! ## The authority of an admission -/

structure Current {V : Type} (key : RealmIdentity) (a : UInt64) (runtime : Runtime V) : Prop where
  authority : ∃ o, runtime.observations.get key = some o ∧ o.authorityGeneration = a
  entry : (runtime.entries.get key).isSome
  selection : runtime.selections.get key.profile = some key.realm

def Passed {V : Type} (key : RealmIdentity) (a : UInt64) (runtime : Runtime V) : Prop :=
  ∃ o, runtime.observations.get key = some o ∧ a < o.authorityGeneration

def Tracked {V : Type} (key : RealmIdentity) (a : UInt64) (runtime : Runtime V) : Prop :=
  Current key a runtime ∨ Passed key a runtime

section Tracked
variable {V : Type} {runtime runtime' : Runtime V} {key key' : RealmIdentity} {a : UInt64}
  {profile : WalletProfileId} {realm : ChainNetworkId} {token : ObservationToken} {view : V}

theorem Passed.of_advances (h : Passed key a runtime) (hadv : Advances key runtime runtime') :
    Passed key a runtime' := by
  obtain ⟨o, ho, hlt⟩ := h
  obtain ⟨o', ho', hle⟩ := hadv.authority o ho
  exact ⟨o', ho', hlt.trans_le hle⟩

theorem Passed.authorityMatches (h : Passed key a runtime)
    (htoken : token.authorityGeneration = a) : runtime.authorityMatches key token = false := by
  obtain ⟨o, ho, hlt⟩ := h
  simp [Runtime.authorityMatches, ho, htoken, hlt.ne']

theorem Tracked.of_tables (h : Tracked key a runtime)
    (hobs : runtime'.observations = runtime.observations)
    (hsel : runtime'.selections = runtime.selections) (hentry : (runtime.entries.get key).isSome →
      (runtime'.entries.get key).isSome) : Tracked key a runtime' := by
  rcases h with h | h
  · exact .inl ⟨hobs ▸ h.authority, hentry h.entry, hsel ▸ h.selection⟩
  · exact .inr (by rwa [Passed, hobs])

theorem passed_invalidateProjection
    (h : ∃ o, runtime.observations.get key = some o ∧ o.authorityGeneration = a)
    (ha : a ≠ u64Max) : Passed key a (runtime.invalidateProjection key) := by
  obtain ⟨o, ho, rfl⟩ := h
  refine ⟨⟨saturatingAdd64 o.generation 1, saturatingAdd64 o.authorityGeneration 1⟩, ?_,
    lt_saturatingAdd64_one ha⟩
  rw [observations_invalidateProjection, if_pos rfl, ho]
  rfl

theorem Current.invalidateProjection_of_ne (h : Current key a runtime) (hne : key ≠ key') :
    Current key a (runtime.invalidateProjection key') where
  authority := by
    rw [observations_invalidateProjection, if_neg hne]
    exact h.authority
  entry := h.entry
  selection := h.selection

section
variable (h : Tracked key a runtime)
include h

theorem Tracked.invalidateProjection (ha : a ≠ u64Max) :
    Tracked key a (runtime.invalidateProjection key') := by
  rcases h with h | h
  · by_cases hk : key = key'
    · exact .inr (hk ▸ passed_invalidateProjection h.authority ha)
    · exact .inl (h.invalidateProjection_of_ne hk)
  · exact .inr (h.of_advances advances_invalidateProjection)

theorem Tracked.foldl_invalidateProjection (ha : a ≠ u64Max) (keys : List RealmIdentity) :
    Tracked key a (keys.foldl Runtime.invalidateProjection runtime) := by
  induction keys generalizing runtime with
  | nil => exact h
  | cons k _ ih => exact ih (h.invalidateProjection ha)

theorem Tracked.passed_foldl_invalidateProjection (ha : a ≠ u64Max)
    {keys : List RealmIdentity} (hmem : key ∈ keys) :
    Passed key a (keys.foldl Runtime.invalidateProjection runtime) := by
  induction keys generalizing runtime with
  | nil => cases hmem
  | cons k keys ih =>
    by_cases hk : key = k
    · subst hk
      refine Passed.of_advances ?_ (advances_foldl_invalidateProjection keys)
      rcases h with h | h
      · exact passed_invalidateProjection h.authority ha
      · exact h.of_advances advances_invalidateProjection
    · exact ih (h.invalidateProjection ha) ((List.mem_cons.mp hmem).resolve_left hk)

theorem Tracked.advanceObservationGeneration :
    Tracked key a (runtime.advanceObservationGeneration key').2 := by
  rcases h with h | h
  · obtain ⟨o, ho, hoa⟩ := h.authority
    refine .inl ⟨?_, h.entry, h.selection⟩
    by_cases hk : key = key'
    · subst hk
      exact ⟨{ o with generation := saturatingAdd64 o.generation 1 },
        by simp [Runtime.advanceObservationGeneration, ho], hoa⟩
    · exact ⟨o, by simpa [Runtime.advanceObservationGeneration, hk] using ho, hoa⟩
  · exact .inr (h.of_advances advances_advanceObservationGeneration)

theorem Tracked.beginObservation : Tracked key a (runtime.beginObservation key').2 := by
  rw [Runtime.beginObservation]
  cases hselected : runtime.selections.get key'.profile with
  | some selected =>
    by_cases hrealm : selected = key'.realm
    · simpa only [hrealm, ne_eq, not_true_eq_false, if_false] using h.advanceObservationGeneration
    · simpa only [ne_eq, hrealm, not_false_eq_true, if_true] using h
  | none =>
    refine Tracked.advanceObservationGeneration ?_
    rcases h with h | h
    · -- a profile with a current admission has selected a realm
      have hne : key.profile ≠ key'.profile := by
        intro heq
        rw [← heq, h.selection] at hselected
        cases hselected
      exact .inl ⟨h.authority, h.entry, by simpa [hne] using h.selection⟩
    · exact .inr h

theorem Tracked.settle {input} : Tracked key a (runtime.settle key' input).2 := by
  rw [Runtime.settle]
  cases runtime.entries.get key' with
  | none => exact h
  | some =>
    refine h.of_tables rfl rfl fun hentry => ?_
    by_cases hk : key = key' <;> simpa [hk] using hentry

theorem Tracked.reconcile {observed trigger} :
    Tracked key a (runtime.reconcile key' observed trigger).2 := by
  refine h.of_tables rfl rfl fun hentry => ?_
  by_cases hk : key = key' <;> simp [Runtime.reconcile, hk]
  exact hentry

end

theorem retireOtherRealms_of_selected (h : runtime.selections.get profile = some realm) :
    runtime.retireOtherRealms profile realm = ([], runtime) := by
  simp [retireOtherRealms, observeSelectedRealm, h]

theorem Current.passed_retireOtherRealms (h : Current key a runtime) (ha : a ≠ u64Max)
    (hne : realm ≠ key.realm) : Passed key a (runtime.retireOtherRealms key.profile realm).2 := by
  simp only [retireOtherRealms, observeSelectedRealm, h.selection, if_neg hne.symm]
  -- the realm that is left is invalidated first
  have hleft : Passed key a (invalidateProjection { runtime with
      selections := runtime.selections.modify (· = key.profile) fun _ => realm } key) :=
    passed_invalidateProjection h.authority ha
  have hboth : Passed key a (invalidateProjection (invalidateProjection { runtime with
        selections := runtime.selections.modify (· = key.profile) fun _ => realm } key)
      ⟨key.profile, realm⟩) :=
    hleft.of_advances advances_invalidateProjection
  exact hboth

theorem Tracked.retireOtherRealms (h : Tracked key a runtime) (ha : a ≠ u64Max) :
    Tracked key a (runtime.retireOtherRealms profile realm).2 := by
  rcases h with h | h
  · by_cases hprofile : profile = key.profile
    · subst hprofile
      by_cases hrealm : realm = key.realm
      · rw [hrealm, retireOtherRealms_of_selected h.selection]
        exact .inl h
      · exact .inr (h.passed_retireOtherRealms ha hrealm)
    · -- the realms of another profile
      have hkey : ∀ other, key ≠ ⟨profile, other⟩ := fun other heq =>
        hprofile (congrArg RealmIdentity.profile heq).symm
      have hsel : key.profile ≠ profile := fun heq => hprofile heq.symm
      rw [Runtime.retireOtherRealms, Runtime.observeSelectedRealm]
      cases runtime.selections.get profile with
      | none => exact .inl ⟨h.authority, h.entry, by simpa [hsel] using h.selection⟩
      | some previous =>
        by_cases hsame : previous = realm
        · simp only [hsame, if_true]
          exact .inl h
        · simp only [hsame, if_false]
          refine .inl ⟨?_, ?_, ?_⟩
          · simpa only [observations_invalidateProjection, if_neg (hkey _)] using h.authority
          · simpa [hkey previous] using h.entry
          · simpa [hsel] using h.selection
  · exact .inr (h.of_advances advances_retireOtherRealms)

theorem Tracked.passed_cancelProfile (h : Tracked key a runtime) (ha : a ≠ u64Max) :
    Passed key a (runtime.cancelProfile key.profile) := by
  rcases h with h | h
  · have hmem : key ∈ runtime.entries.keys.filter (·.profile = key.profile) := by
      rw [List.mem_filter, Rows.mem_keys_iff]
      exact ⟨isSome_iff_exists.mp h.entry, by simp⟩
    refine Tracked.passed_foldl_invalidateProjection ?_ ha hmem
    exact .inl ⟨h.authority, by simpa using h.entry, h.selection⟩
  · exact h.of_advances (Advances.of_tables_eq (advances_foldl_invalidateProjection _) rfl rfl)

theorem Tracked.cancelProfile (h : Tracked key a runtime) (ha : a ≠ u64Max) :
    Tracked key a (runtime.cancelProfile profile) := by
  refine Tracked.foldl_invalidateProjection ?_ ha _
  refine h.of_tables rfl rfl fun hentry => ?_
  by_cases hp : key.profile = profile <;> simpa [hp] using hentry

variable [DecidableEq V]

theorem publish_tables (runtime : Runtime V) (key : RealmIdentity) (token : ObservationToken)
    (view : V) : (runtime.publish key token view).2.observations = runtime.observations ∧
    (runtime.publish key token view).2.selections = runtime.selections ∧
    (runtime.publish key token view).2.entries = runtime.entries := by
  rw [publish]
  cases runtime.observations.find key _ <;> exact ⟨rfl, rfl, rfl⟩

theorem Tracked.publish (h : Tracked key a runtime) :
    Tracked key a (runtime.publish key' token view).2 := by
  obtain ⟨hobs, hsel, hentries⟩ := publish_tables runtime key' token view
  exact h.of_tables hobs hsel fun hentry => hentries ▸ hentry

theorem Tracked.perform {call} (h : Tracked key a runtime) (ha : a ≠ u64Max)
    (hstep : runtime.perform call = some runtime') : Tracked key a runtime' := by
  cases call with
  | retireOtherRealms => cases hstep; exact h.retireOtherRealms ha
  | beginObservation => cases hstep; exact h.beginObservation
  | advanceObservationGeneration => cases hstep; exact h.advanceObservationGeneration
  | reconcile => cases hstep; exact h.reconcile
  | complete => cases hstep; exact h.settle
  | expire => cases hstep; exact h.settle
  | cancelProfile => cases hstep; exact h.cancelProfile ha
  | publish => cases hstep; exact h.publish

theorem publish_of_stale (h : ∀ o, runtime.observations.get key = some o →
    o.generation ≠ token.generation) : runtime.publish key token view = (none, runtime) := by
  have hnone : (runtime.observations.find key fun o =>
      o.generation = token.generation &&
        o.authorityGeneration = token.authorityGeneration) = none := by
    refine eq_none_iff_forall_ne_some.mpr fun o ho => ?_
    rw [Rows.find_eq_some_iff] at ho
    exact h o ho.1 (by simpa using (Bool.and_eq_true_iff.mp ho.2).1)
  rw [publish, hnone]

theorem Passed.perform {call} (h : Passed key a runtime)
    (hstep : runtime.perform call = some runtime') : Passed key a runtime' := by
  cases call with
  | retireOtherRealms => cases hstep; exact h.of_advances advances_retireOtherRealms
  | beginObservation => cases hstep; exact h.of_advances advances_beginObservation
  | advanceObservationGeneration =>
    cases hstep
    exact h.of_advances advances_advanceObservationGeneration
  | reconcile => cases hstep; exact h
  | complete => cases hstep; exact h.of_advances advances_settle
  | expire => cases hstep; exact h.of_advances advances_settle
  | cancelProfile =>
    cases hstep
    exact h.of_advances (Advances.of_tables_eq (advances_foldl_invalidateProjection _) rfl rfl)
  | publish key' token view =>
    cases hstep
    rw [Passed, (publish_tables runtime key' token view).1]
    exact h

end Tracked

namespace Service
variable {α β γ : Type} {service service' : Service α β γ} {key : RealmIdentity} {a : UInt64}
  {profile : WalletProfileId} {trigger : ReconciliationTrigger} {observed : ObservedRealm α β γ}
  {call : Call α β γ}

def Supersedes (key : RealmIdentity) (service : Service α β γ) : Call α β γ → Prop
  | .select profile realm =>
    profile = key.profile ∧ service.selectedNetwork profile ≠ .ok realm ∧
      (service.selectedNetwork profile = .ok key.realm ∨ realm = key.realm)
  | .cancel profile _ => profile = key.profile
  | .runtime (.retireOtherRealms profile realm) =>
    profile = key.profile ∧ service.runtime.selections.get profile ≠ some realm ∧
      (service.runtime.selections.get profile = some key.realm ∨ realm = key.realm)
  | .runtime (.cancelProfile profile) => profile = key.profile
  | _ => False

structure CurrentIn (key : RealmIdentity) (a : UInt64) (service : Service α β γ) : Prop where
  runtime : Current key a service.runtime
  selected : service.selectedNetwork key.profile = .ok key.realm

variable [DecidableEq α] [DecidableEq β] [DecidableEq γ]

theorem publishAndRead_snd (runtime : Runtime (SyncView α β γ)) (key : RealmIdentity)
    (token : ObservationToken) (view : SyncView α β γ) :
    (publishAndRead runtime key token view).2 = (runtime.publish key token view).2 := by
  rw [publishAndRead]
  cases runtime.publish key token view with
  | mk published runtime' =>
    cases published with
    | none => rfl
    | some => cases h : runtime'.authoritativeProjection key <;> simp [h]

theorem cancel_reachable {realm} (h : service.selectedNetwork profile = .ok realm)
    (view : SyncView α β γ) : Reachable Runtime.perform
      ((service.pinSelectedRealm profile realm).runtime.cancelProfile profile)
      (service.cancel profile view).2.runtime := by
  have hcancelled := Reachable.refl Runtime.perform
    ((service.pinSelectedRealm profile realm).runtime.cancelProfile profile)
  have hbegun := hcancelled.next (e := .beginObservation ⟨profile, realm⟩) rfl
  simp only [cancel, h]
  cases ensureSelectedRealm _ _ with
  | error => exact hcancelled
  | ok =>
    dsimp only
    cases hbegin : Runtime.beginObservation _ _ with
    | mk token =>
      rw [hbegin] at hbegun
      cases token with
      | none => exact hbegun
      | some token =>
        dsimp only [publishProjectionWhileSelected]
        cases ensureSelectedRealm _ _ with
        | error => exact hbegun
        | ok =>
          dsimp only
          split_ifs
          · have hpublished := hbegun.next (e := .publish ⟨profile, realm⟩ token view) rfl
            cases Runtime.authoritativeProjection _ _ <;> exact hpublished
          · exact hbegun

theorem perform_reachable (h : service.perform call = some service') :
    Reachable Runtime.perform service.runtime service'.runtime := by
  have hstart := Reachable.refl Runtime.perform service.runtime
  cases call with
  | select profile realm =>
    cases h
    exact hstart.next (e := .retireOtherRealms profile realm) rfl
  | admitReconciliation profile trigger observed =>
    cases h
    rw [admitReconciliation]
    cases service.selectedNetwork profile with
    | error => exact hstart
    | ok realm =>
      have hpinned := hstart.next (e := .retireOtherRealms profile realm) rfl
      have hbegun := hpinned.next (e := .beginObservation ⟨profile, realm⟩) rfl
      dsimp only [pinSelectedRealm]
      cases hbegin : Runtime.beginObservation _ _ with
      | mk token =>
        rw [hbegin] at hbegun
        cases token with
        | none => exact hbegun
        | some authority =>
          dsimp only
          rw [publishAndRead_snd]
          have hreconciled := hbegun.next
            (e := .reconcile ⟨profile, realm⟩ observed.state trigger) rfl
          exact hreconciled.next (e := .publish ⟨profile, realm⟩ authority observed.view) rfl
  | completeEffectAndPublish key authority effect outcome =>
    cases h
    rw [completeEffectAndPublish]
    cases service.ensureSelectedRealm key with
    | error => exact hstart
    | ok =>
      dsimp only
      by_cases hmatches : service.runtime.authorityMatches key authority
      · rw [if_pos hmatches, publishAndRead_snd]
        have hcompleted := hstart.next (e := .complete key effect outcome) rfl
        have hobserved := hcompleted.next (e := .advanceObservationGeneration key) rfl
        exact hobserved.next (e := .publish key _ _) rfl
      · rw [if_neg hmatches]
        cases service.runtime.authoritativeProjection key <;> exact hstart
  | cancel profile view =>
    cases h
    cases hselected : service.selectedNetwork profile with
    | error =>
      rw [cancel, hselected]
      exact hstart
    | ok realm =>
      have hpinned := hstart.next (e := .retireOtherRealms profile realm) rfl
      have hcancelled := hpinned.next (e := .cancelProfile profile) rfl
      exact hcancelled.trans (cancel_reachable hselected view)
  | runtime =>
    simp only [perform, map_eq_some_iff] at h
    obtain ⟨runtime, hruntime, rfl⟩ := h
    exact hstart.next hruntime

theorem passed_of_perform (h : Passed key a service.runtime)
    (hstep : service.perform call = some service') : Passed key a service'.runtime :=
  (perform_reachable hstep).invariant h fun _ _ _ hp hq => hp.perform hq

/-- **What supersedes the realm moves its authority on.** -/
theorem CurrentIn.passed_of_supersedes (h : CurrentIn key a service) (ha : a ≠ u64Max)
    (hsup : Supersedes key service call) (hstep : service.perform call = some service') :
    Passed key a service'.runtime := by
  cases call with
  | select =>
    obtain ⟨rfl, hchanged, _⟩ := hsup
    cases hstep
    refine h.runtime.passed_retireOtherRealms ha fun heq => ?_
    exact hchanged (heq ▸ h.selected)
  | admitReconciliation => exact absurd hsup id
  | completeEffectAndPublish => exact absurd hsup id
  | cancel profile view =>
    obtain rfl : profile = key.profile := hsup
    cases hstep
    have hpinned : service.pinSelectedRealm key.profile key.realm = service := by
      rw [pinSelectedRealm, retireOtherRealms_of_selected h.runtime.selection]
    have hrest := cancel_reachable h.selected view
    rw [hpinned] at hrest
    exact hrest.invariant (Tracked.passed_cancelProfile (.inl h.runtime) ha)
      fun _ _ _ hp hq => hp.perform hq
  | runtime call =>
    simp only [perform, map_eq_some_iff] at hstep
    obtain ⟨runtime, hruntime, rfl⟩ := hstep
    cases call with
    | retireOtherRealms =>
      obtain ⟨rfl, hchanged, _⟩ := hsup
      cases hruntime
      refine h.runtime.passed_retireOtherRealms ha fun heq => ?_
      exact hchanged (heq ▸ h.runtime.selection)
    | cancelProfile profile =>
      obtain rfl : profile = key.profile := hsup
      cases hruntime
      exact Tracked.passed_cancelProfile (.inl h.runtime) ha
    | _ => exact absurd hsup id

theorem CurrentIn.selected_of_perform (h : CurrentIn key a service)
    (hsup : ¬ Supersedes key service call) (hstep : service.perform call = some service') :
    service'.selectedNetwork key.profile = .ok key.realm := by
  cases call with
  | select profile realm =>
    cases hstep
    by_cases hprofile : key.profile = profile
    · subst hprofile
      have hrealm : realm = key.realm := by
        by_contra hne
        refine hsup ⟨rfl, ?_, .inl h.selected⟩
        rw [h.selected]
        exact fun heq => hne (Except.ok.inj heq).symm
      simp [select, pinSelectedRealm, hrealm]
    · simpa [select, pinSelectedRealm, hprofile] using h.selected
  | admitReconciliation profile =>
    cases hstep
    refine Eq.trans ?_ h.selected
    rw [admitReconciliation]
    cases service.selectedNetwork profile with
    | error => rfl
    | ok =>
      dsimp only
      rcases beginObservation _ _ with ⟨_ | _, _⟩ <;> rfl
  | completeEffectAndPublish key' =>
    cases hstep
    refine Eq.trans ?_ h.selected
    rw [completeEffectAndPublish]
    cases service.ensureSelectedRealm key' with
    | error => rfl
    | ok =>
      dsimp only
      split_ifs
      · rfl
      · cases service.runtime.authoritativeProjection key' <;> rfl
  | cancel profile =>
    cases hstep
    refine Eq.trans ?_ h.selected
    rw [cancel]
    cases service.selectedNetwork profile with
    | error => rfl
    | ok =>
      dsimp only
      cases ensureSelectedRealm _ _ with
      | error => rfl
      | ok =>
        dsimp only
        rcases beginObservation _ _ with ⟨_ | token, runtime⟩
        · rfl
        · dsimp only [publishProjectionWhileSelected]
          cases ensureSelectedRealm _ _ with
          | error => rfl
          | ok =>
            dsimp only
            split_ifs
            · cases authoritativeProjection _ _ <;> rfl
            · rfl
  | runtime =>
    simp only [perform, map_eq_some_iff] at hstep
    obtain ⟨runtime, _, rfl⟩ := hstep
    exact h.selected

theorem run_current {calls} (h : CurrentIn key a service)
    (hcounters : EveryStep perform (fun s _ => s.runtime.Unsaturated) service calls)
    (hrun : run perform service calls = some service') : Passed key a service'.runtime ∨
      CurrentIn key a service' ∧ ¬ SomeStep perform (Supersedes key) service calls := by
  refine run_induction_while (motive := fun calls s =>
    Passed key a s.runtime ∨
      CurrentIn key a s ∧ ¬ SomeStep perform (Supersedes key) service calls)
    (fun _ _ hcounters => hcounters.of_concat) (.inr ⟨h, not_someStep_nil⟩) ?_ hcounters hrun
  intro calls p call q hcounters hp ih hstep
  rcases ih with hpassed | ⟨hcurrent, hnone⟩
  · exact .inl (passed_of_perform hpassed hstep)
  · obtain ⟨o, ho, hoa⟩ := hcurrent.runtime.authority
    have ha : a ≠ u64Max :=
      hoa ▸ ((hcounters.last hp).2.1 (key, o) (Rows.mem_list_iff.mpr ho)).2
    by_cases hsup : Supersedes key p call
    · exact .inl (hcurrent.passed_of_supersedes ha hsup hstep)
    · have htracked : Tracked key a q.runtime :=
        (perform_reachable hstep).invariant
          (show Tracked key a p.runtime from .inl hcurrent.runtime)
          fun _ _ _ htr hq => htr.perform ha hq
      rcases htracked with hcur | hpassed
      · refine .inr ⟨⟨hcur, hcurrent.selected_of_perform hsup hstep⟩, ?_⟩
        rw [someStep_concat hp]
        exact not_or_intro hnone hsup
      · exact .inl hpassed

omit [DecidableEq α] [DecidableEq β] [DecidableEq γ] in
theorem selections_pinSelectedRealm (service : Service α β γ) (profile : WalletProfileId)
    (realm : ChainNetworkId) :
    (service.pinSelectedRealm profile realm).runtime.selections.get profile = some realm := by
  rw [pinSelectedRealm, retireOtherRealms, observeSelectedRealm]
  cases hselected : service.runtime.selections.get profile with
  | none => simp [hselected]
  | some previous =>
    by_cases hsame : previous = realm
    · simpa [hsame] using hselected
    · simp [hsame, hselected]

theorem current_of_observed {runtime : Runtime (SyncView α β γ)} {state token}
    {view : SyncView α β γ} (h : runtime.selections.get key.profile = some key.realm) :
    Current key (runtime.advanceObservationGeneration key).1.authorityGeneration
      (((runtime.advanceObservationGeneration key).2.reconcile key state trigger).2.publish key
        token view).2 := by
  obtain ⟨hobs, hsel, hentries⟩ := publish_tables
    ((runtime.advanceObservationGeneration key).2.reconcile key state trigger).2 key token view
  refine ⟨?_, ?_, ?_⟩
  · rw [hobs]
    refine ⟨(runtime.observations.get key).elim ⟨1, 0⟩ fun o =>
      { o with generation := saturatingAdd64 o.generation 1 }, ?_, rfl⟩
    cases ho : runtime.observations.get key <;>
      simp [Runtime.reconcile, Runtime.advanceObservationGeneration, ho]
  · rw [hentries]
    simp [Runtime.reconcile]
  · rw [hsel]
    exact h

theorem admitReconciliation_current {admission : Admission α β γ}
    (h : service.admitReconciliation profile trigger observed = (.ok admission, service')) :
    CurrentIn ⟨profile, admission.realm⟩ admission.authority.authorityGeneration service' := by
  cases hselected : service.selectedNetwork profile with
  | error => simp [admitReconciliation, hselected] at h
  | ok realm =>
    have hpinned := selections_pinSelectedRealm service profile realm
    simp only [admitReconciliation, hselected, beginObservation, hpinned, ne_eq,
      not_true_eq_false, if_false, Prod.mk.injEq, Result.map_ok_iff] at h
    obtain ⟨⟨projection, _, rfl⟩, rfl⟩ := h
    rw [publishAndRead_snd]
    exact ⟨current_of_observed hpinned, hselected⟩

/-- **Work of a superseded selection is not published.**  If completing an effect changes the
coordinator or the projection of the realm, then since its admission the realm was neither left nor
selected again and its profile was not cancelled. -/
theorem superseded_work_unpublished :
    (∀ (service admitted later : Service α β γ) (profile : WalletProfileId)
        (trigger : ReconciliationTrigger) (observed : ObservedRealm α β γ)
        (admission : Admission α β γ) (calls : List (Call α β γ)) (effect : CoordinatorEffect)
        (outcome : EffectOutcome) (completed : SyncView α β γ)
        (latestDust : FamilyView (WorkerView β)) (latestShielded : FamilyView (WorkerView γ)),
      service.admitReconciliation profile trigger observed = (.ok admission, admitted) →
      run perform admitted calls = some later →
      EveryStep perform (fun s _ => s.runtime.Unsaturated) admitted calls →
      let key : RealmIdentity := ⟨profile, admission.realm⟩
      let published := (later.completeEffectAndPublish key admission.authority effect outcome
        completed latestDust latestShielded).2
      (published.runtime.state key ≠ later.runtime.state key ∨
        published.runtime.projections.get key ≠ later.runtime.projections.get key) →
      ¬ SomeStep perform (Supersedes key) admitted calls) ∧
    ∀ (runtime : Runtime (SyncView α β γ)) (key : RealmIdentity) (token : ObservationToken)
        (view : SyncView α β γ),
      (∀ o, runtime.observations.get key = some o → o.generation ≠ token.generation) →
      runtime.publish key token view = (none, runtime) := by
  refine ⟨?_, fun runtime key token view => publish_of_stale⟩
  intro service admitted later profile trigger observed admission calls effect outcome completed
    latestDust latestShielded hadmit hrun hcounters key published hchanged
  rcases run_current (admitReconciliation_current hadmit) hcounters hrun with hpassed | ⟨_, hnone⟩
  · -- the authority has passed, and the effect is turned away
    have hmatches : later.runtime.authorityMatches key admission.authority = false :=
      hpassed.authorityMatches rfl
    have hsame : published = later := by
      simp only [published, completeEffectAndPublish, hmatches]
      cases later.ensureSelectedRealm key with
      | error => rfl
      | ok => cases later.runtime.authoritativeProjection key <;> rfl
    rw [hsame] at hchanged
    exact absurd hchanged (by simp)
  · exact hnone

end Service

def staleService : Service Unit Unit Unit :=
  ⟨fun _ => .ok previewRealm.realm, .default⟩

/-- The account effect of the first admission comes back after a lease of another
revision was expired, and is published: nothing superseded it. -/
theorem account_effect_published : ¬ SomeStep Service.perform (Service.Supersedes previewRealm)
      (staleService.admitReconciliation previewRealm.profile .initial
        ⟨busyView, ⟨.stale, .current, .current⟩⟩).2
      [.runtime (.expire previewRealm ⟨7, .syncDust⟩)] :=
  Service.superseded_work_unpublished.1 staleService _ _ previewRealm.profile .initial
    ⟨busyView, ⟨.stale, .current, .current⟩⟩ _
    [.runtime (.expire previewRealm ⟨7, .syncDust⟩)] ⟨1, .syncAccount⟩ .current missingView
    .busy .busy rfl rfl (by decide) (.inl (by decide))

end Oxid.Wallet.Realm
