import Oxid.Rows
import Oxid.Transition.Run
import Oxid.Wallet.Domain
import Oxid.Wallet.Realm.Reconciliation

/-!
# The runtime of the selected realms

`SelectedWalletRealmRuntime` publishes projections, which are authoritative while their
authority generation is the current one of the realm.
-/

namespace Oxid.Wallet.Realm
open Foundation Transition

structure RealmIdentity where
  profile : WalletProfileId
  realm : ChainNetworkId
  deriving DecidableEq

structure PublishedProjection (V : Type) where
  (revision authorityGeneration : UInt64)
  reconciling : Bool
  view : V
  deriving DecidableEq

structure ObservationGeneration where
  (generation authorityGeneration : UInt64)

structure ObservationToken where
  (generation authorityGeneration : UInt64)

structure Runtime (V : Type) where
  entries : Rows RealmIdentity CoordinatorState
  selections : Rows WalletProfileId ChainNetworkId
  observations : Rows RealmIdentity ObservationGeneration
  projections : Rows RealmIdentity (PublishedProjection V)

namespace Runtime
variable {V : Type}

def default : Runtime V := ⟨.empty, .empty, .empty, .empty⟩

def reconcile (runtime : Runtime V) (key : RealmIdentity) (observed : ReconciliationState)
    (trigger : ReconciliationTrigger) : List CoordinatorEffect × Runtime V :=
  let state := (runtime.entries.get key).getD (.new observed)
  let observed := Realm.reduce state (.observe observed)
  let transition := Realm.reduce observed.state (.reconcile trigger)
  (transition.effects, { runtime with
    entries := runtime.entries.upsert key (fun _ => transition.state) transition.state })

def settle (runtime : Runtime V) (key : RealmIdentity) (input : CoordinatorInput) :
    List CoordinatorEffect × Runtime V :=
  match runtime.entries.get key with
  | none => ([], runtime)
  | some state =>
    let transition := Realm.reduce state input
    (transition.effects, { runtime with
      entries := runtime.entries.modify (· = key) fun _ => transition.state })

def complete (runtime : Runtime V) (key : RealmIdentity) (effect : CoordinatorEffect)
    (outcome : EffectOutcome) : List CoordinatorEffect × Runtime V :=
  runtime.settle key (.effectCompleted effect outcome)

def expire (runtime : Runtime V) (key : RealmIdentity) (effect : CoordinatorEffect) :
    List CoordinatorEffect × Runtime V :=
  runtime.settle key (.effectExpired effect)

def state (runtime : Runtime V) (key : RealmIdentity) : Option CoordinatorState :=
  runtime.entries.get key

def advanceAuthorityGeneration (runtime : Runtime V) (key : RealmIdentity) : Runtime V :=
  let advance (o : ObservationGeneration) : ObservationGeneration :=
    ⟨saturatingAdd64 o.generation 1, saturatingAdd64 o.authorityGeneration 1⟩
  { runtime with observations := runtime.observations.upsert key advance ⟨1, 1⟩ }

/-- A projection that is invalidated takes a new revision; its realm takes a new
authority whether or not anything was published. -/
def invalidateProjection (runtime : Runtime V) (key : RealmIdentity) : Runtime V :=
  advanceAuthorityGeneration { runtime with
    projections := runtime.projections.modify (· = key) fun p =>
      { p with revision := saturatingAdd64 p.revision 1 } } key

def observeSelectedRealm (runtime : Runtime V) (profile : WalletProfileId)
    (selectedRealm : ChainNetworkId) : Option ChainNetworkId × Runtime V :=
  match runtime.selections.get profile with
  | none =>
    (none, { runtime with
      selections := runtime.selections.upsert profile (fun _ => selectedRealm) selectedRealm })
  | some previous =>
    if previous = selectedRealm then (none, runtime)
    else
      let runtime := { runtime with
        selections := runtime.selections.modify (· = profile) fun _ => selectedRealm }
      let runtime := runtime.invalidateProjection ⟨profile, previous⟩
      (some previous, runtime.invalidateProjection ⟨profile, selectedRealm⟩)

def retireOtherRealms (runtime : Runtime V) (profile : WalletProfileId)
    (selectedRealm : ChainNetworkId) : List ChainNetworkId × Runtime V :=
  match runtime.observeSelectedRealm profile selectedRealm with
  | (none, runtime) => ([], runtime)
  | (some previous, runtime) =>
    ([previous], { runtime with
      entries := runtime.entries.modify (· = ⟨profile, previous⟩)
        fun s => (Realm.reduce s .cancel).state })

def advanceObservationGeneration (runtime : Runtime V) (key : RealmIdentity) :
    ObservationToken × Runtime V :=
  let observation := (runtime.observations.get key).elim ⟨1, 0⟩
    fun o : ObservationGeneration => { o with generation := saturatingAdd64 o.generation 1 }
  (⟨observation.generation, observation.authorityGeneration⟩,
    { runtime with
      observations := runtime.observations.upsert key (fun _ => observation) observation })

/-- An observation of a realm that is not the selected one is refused; a profile
without a selection selects the realm it observes. -/
def beginObservation (runtime : Runtime V) (key : RealmIdentity) :
    Option ObservationToken × Runtime V :=
  match runtime.selections.get key.profile with
  | some realm =>
    if realm ≠ key.realm then (none, runtime)
    else
      let observed := runtime.advanceObservationGeneration key
      (some observed.1, observed.2)
  | none =>
    let observed := advanceObservationGeneration { runtime with
      selections := runtime.selections.upsert key.profile (fun _ => key.realm) key.realm } key
    (some observed.1, observed.2)

def selectionMatches (runtime : Runtime V) (key : RealmIdentity) : Bool :=
  runtime.selections.get key.profile = some key.realm

def authorityMatches (runtime : Runtime V) (key : RealmIdentity) (token : ObservationToken) :
    Bool :=
  (runtime.observations.get key).any fun o => o.authorityGeneration = token.authorityGeneration

def cancelProfile (runtime : Runtime V) (profile : WalletProfileId) : Runtime V :=
  let invalidated := runtime.entries.keys.filter (·.profile = profile)
  invalidated.foldl invalidateProjection { runtime with
    entries := runtime.entries.modify (·.profile = profile)
      fun s => (Realm.reduce s .cancel).state }

variable [DecidableEq V]

def publish (runtime : Runtime V) (key : RealmIdentity) (token : ObservationToken) (view : V) :
    Option UInt64 × Runtime V :=
  match runtime.observations.find key fun o =>
      o.generation = token.generation && o.authorityGeneration = token.authorityGeneration with
  | none => (none, runtime)
  | some _ =>
    let reconciling := (runtime.state key).any (·.hasActiveLeases)
    let published := (runtime.projections.get key).elim
      ⟨1, token.authorityGeneration, reconciling, view⟩
      fun p : PublishedProjection V =>
        if p.view ≠ view ∨ p.reconciling ≠ reconciling then
          ⟨saturatingAdd64 p.revision 1, token.authorityGeneration, reconciling, view⟩
        else { p with
          authorityGeneration := token.authorityGeneration, reconciling := reconciling }
    (some published.revision, { runtime with
      projections := runtime.projections.upsert key (fun _ => published) published })

omit [DecidableEq V] in
def authoritativeProjection (runtime : Runtime V) (key : RealmIdentity) :
    Option (PublishedProjection V) :=
  match runtime.observations.get key with
  | none => none
  | some o => runtime.projections.find key fun p => p.authorityGeneration = o.authorityGeneration

inductive Call (V : Type)
  | retireOtherRealms (profile : WalletProfileId) (selectedRealm : ChainNetworkId)
  | beginObservation (key : RealmIdentity)
  | advanceObservationGeneration (key : RealmIdentity)
  | reconcile (key : RealmIdentity) (observed : ReconciliationState)
      (trigger : ReconciliationTrigger)
  | complete (key : RealmIdentity) (effect : CoordinatorEffect) (outcome : EffectOutcome)
  | expire (key : RealmIdentity) (effect : CoordinatorEffect)
  | cancelProfile (profile : WalletProfileId)
  | publish (key : RealmIdentity) (token : ObservationToken) (view : V)

def perform (runtime : Runtime V) : Call V → Option (Runtime V)
  | .retireOtherRealms profile selectedRealm =>
    some (runtime.retireOtherRealms profile selectedRealm).2
  | .beginObservation key => some (runtime.beginObservation key).2
  | .advanceObservationGeneration key => some (runtime.advanceObservationGeneration key).2
  | .reconcile key observed trigger => some (runtime.reconcile key observed trigger).2
  | .complete key effect outcome => some (runtime.complete key effect outcome).2
  | .expire key effect => some (runtime.expire key effect).2
  | .cancelProfile profile => some (runtime.cancelProfile profile)
  | .publish key token view => some (runtime.publish key token view).2

omit [DecidableEq V] in
def Unsaturated (runtime : Runtime V) : Prop :=
  (∀ row ∈ runtime.entries.list, row.2.revision ≠ u64Max) ∧
  (∀ row ∈ runtime.observations.list,
    row.2.generation ≠ u64Max ∧ row.2.authorityGeneration ≠ u64Max) ∧
  ∀ row ∈ runtime.projections.list, row.2.revision ≠ u64Max

instance decidableUnsaturated (runtime : Runtime V) : Decidable runtime.Unsaturated :=
  inferInstanceAs (Decidable (_ ∧ _ ∧ _))

section Tables
omit [DecidableEq V]
variable {runtime : Runtime V} {key key' : RealmIdentity} {profile : WalletProfileId}

theorem observations_invalidateProjection :
    (runtime.invalidateProjection key).observations.get key' =
      if key' = key then some ((runtime.observations.get key).elim ⟨1, 1⟩ fun o =>
        ⟨saturatingAdd64 o.generation 1, saturatingAdd64 o.authorityGeneration 1⟩)
      else runtime.observations.get key' :=
  Rows.get_upsert

theorem projections_invalidateProjection :
    (runtime.invalidateProjection key).projections.get key' =
      if key' = key then (runtime.projections.get key).map fun p =>
        { p with revision := saturatingAdd64 p.revision 1 }
      else runtime.projections.get key' := by
  simp only [invalidateProjection, advanceAuthorityGeneration, Rows.get_modify, decide_eq_true_eq]
  by_cases h : key' = key <;> simp [h]

@[simp] theorem entries_invalidateProjection :
    (runtime.invalidateProjection key).entries = runtime.entries := rfl

@[simp] theorem selections_invalidateProjection :
    (runtime.invalidateProjection key).selections = runtime.selections := rfl

end Tables

/-! ## Projections move forward -/

omit [DecidableEq V] in
/-- Between two states of the runtime: the authority of the realm has not gone back,
nor has the revision of its projection, and under one revision it shows one thing. -/
structure Advances (key : RealmIdentity) (runtime runtime' : Runtime V) : Prop where
  authority : ∀ o, runtime.observations.get key = some o →
    ∃ o', runtime'.observations.get key = some o' ∧ o.authorityGeneration ≤ o'.authorityGeneration
  projection : ∀ p, runtime.projections.get key = some p →
    ∃ p', runtime'.projections.get key = some p' ∧ p.revision ≤ p'.revision ∧
      (p.revision = p'.revision → p.view = p'.view ∧ p.reconciling = p'.reconciling)

section Advances
omit [DecidableEq V]
variable {runtime runtime' runtime'' : Runtime V} {key key' : RealmIdentity}

theorem advances_of_eq (hobs : runtime'.observations = runtime.observations)
    (hproj : runtime'.projections = runtime.projections) : Advances key runtime runtime' where
  authority := fun o ho => ⟨o, by rw [hobs, ho], le_rfl⟩
  projection := fun p hp => ⟨p, by rw [hproj, hp], le_rfl, fun _ => ⟨rfl, rfl⟩⟩

theorem Advances.of_tables_eq (h : Advances key runtime runtime')
    (hobs : runtime''.observations = runtime.observations)
    (hproj : runtime''.projections = runtime.projections) : Advances key runtime'' runtime' where
  authority := fun o ho => h.authority o (hobs ▸ ho)
  projection := fun p hp => h.projection p (hproj ▸ hp)

theorem Advances.trans (h : Advances key runtime runtime') (h' : Advances key runtime' runtime'') :
    Advances key runtime runtime'' where
  authority := by
    intro o ho
    obtain ⟨o', ho', hle⟩ := h.authority o ho
    obtain ⟨o'', ho'', hle'⟩ := h'.authority o' ho'
    exact ⟨o'', ho'', hle.trans hle'⟩
  projection := by
    intro p hp
    obtain ⟨p', hp', hle, heq⟩ := h.projection p hp
    obtain ⟨p'', hp'', hle', heq'⟩ := h'.projection p' hp'
    refine ⟨p'', hp'', hle.trans hle', fun hsame => ?_⟩
    -- equal at the ends, the revision was the same in the middle
    have hmid : p.revision = p'.revision := le_antisymm hle (hsame ▸ hle')
    have hend : p'.revision = p''.revision := hmid ▸ hsame
    exact ⟨(heq hmid).1.trans (heq' hend).1, (heq hmid).2.trans (heq' hend).2⟩

theorem advances_invalidateProjection :
    Advances key runtime (runtime.invalidateProjection key') where
  authority := by
    intro o ho
    rw [observations_invalidateProjection]
    by_cases hk : key = key'
    · rw [if_pos hk, ← hk, ho]
      exact ⟨_, rfl, le_saturatingAdd64 _ _⟩
    · rw [if_neg hk]
      exact ⟨o, ho, le_rfl⟩
  projection := by
    intro p hp
    rw [projections_invalidateProjection]
    by_cases hk : key = key'
    · rw [if_pos hk, ← hk, hp]
      exact ⟨_, rfl, le_saturatingAdd64 _ _, fun _ => ⟨rfl, rfl⟩⟩
    · rw [if_neg hk]
      exact ⟨p, hp, le_rfl, fun _ => ⟨rfl, rfl⟩⟩

theorem advances_foldl_invalidateProjection (keys : List RealmIdentity) :
    Advances key runtime (keys.foldl invalidateProjection runtime) := by
  induction keys generalizing runtime with
  | nil => exact advances_of_eq rfl rfl
  | cons k _ ih => exact advances_invalidateProjection.trans ih

theorem advances_advanceObservationGeneration :
    Advances key runtime (runtime.advanceObservationGeneration key').2 where
  authority := by
    intro o ho
    by_cases hk : key = key'
    · subst hk
      exact ⟨{ o with generation := saturatingAdd64 o.generation 1 },
        by simp [advanceObservationGeneration, ho], le_rfl⟩
    · exact ⟨o, by simpa [advanceObservationGeneration, hk] using ho, le_rfl⟩
  projection := fun p hp => ⟨p, hp, le_rfl, fun _ => ⟨rfl, rfl⟩⟩

theorem advances_observeSelectedRealm (profile : WalletProfileId) (realm : ChainNetworkId) :
    Advances key runtime (runtime.observeSelectedRealm profile realm).2 := by
  rw [observeSelectedRealm]
  cases runtime.selections.get profile with
  | none => exact advances_of_eq rfl rfl
  | some previous =>
    by_cases hsame : previous = realm
    · simp only [hsame, if_true]
      exact advances_of_eq rfl rfl
    · simp only [hsame, if_false]
      exact Advances.of_tables_eq
        (advances_invalidateProjection.trans advances_invalidateProjection) rfl rfl

theorem advances_retireOtherRealms {profile : WalletProfileId} {realm : ChainNetworkId} :
    Advances key runtime (runtime.retireOtherRealms profile realm).2 := by
  have h : Advances key runtime (runtime.observeSelectedRealm profile realm).2 :=
    advances_observeSelectedRealm profile realm
  rw [retireOtherRealms]
  cases hobserved : runtime.observeSelectedRealm profile realm with
  | mk previous =>
    rw [hobserved] at h
    cases previous with
    | none => exact h
    | some => exact h.trans (advances_of_eq rfl rfl)

theorem advances_beginObservation : Advances key runtime (runtime.beginObservation key').2 := by
  rw [beginObservation]
  cases runtime.selections.get key'.profile with
  | none => exact Advances.of_tables_eq advances_advanceObservationGeneration rfl rfl
  | some realm =>
    by_cases hrealm : realm = key'.realm
    · simp only [hrealm, ne_eq, not_true_eq_false, if_false]
      exact advances_advanceObservationGeneration
    · simp only [ne_eq, hrealm, not_false_eq_true, if_true]
      exact advances_of_eq rfl rfl

theorem advances_settle {input : CoordinatorInput} :
    Advances key runtime (runtime.settle key' input).2 := by
  rw [settle]
  cases runtime.entries.get key' <;> exact advances_of_eq rfl rfl

end Advances

theorem advances_publish {runtime : Runtime V} {key key' : RealmIdentity}
    {token : ObservationToken} {view : V} (h : runtime.Unsaturated) :
    Advances key runtime (runtime.publish key' token view).2 := by
  rw [publish]
  cases runtime.observations.find key' _ with
  | none => exact advances_of_eq rfl rfl
  | some =>
    refine ⟨fun o ho => ⟨o, ho, le_rfl⟩, fun p hp => ?_⟩
    by_cases hk : key = key'
    · subst hk
      simp only [Rows.get_upsert, if_true, hp, Option.elim_some, Option.some.injEq]
      refine ⟨_, rfl, ?_⟩
      by_cases hchanged :
          p.view ≠ view ∨ p.reconciling ≠ (runtime.state key).any (·.hasActiveLeases)
      · -- what is shown changes, and the revision with it
        rw [if_pos hchanged]
        have hlt := lt_saturatingAdd64_one (h.2.2 (key, p) (Rows.mem_list_iff.mpr hp))
        exact ⟨hlt.le, fun heq => absurd heq hlt.ne⟩
      · rw [if_neg hchanged]
        simp only [ne_eq, not_or, not_not] at hchanged
        exact ⟨le_rfl, fun _ => ⟨rfl, hchanged.2⟩⟩
    · exact ⟨p, by simpa [hk] using hp, le_rfl, fun _ => ⟨rfl, rfl⟩⟩

theorem perform_advances {runtime runtime' : Runtime V} {key : RealmIdentity} {call : Call V}
    (h : runtime.Unsaturated) (hstep : runtime.perform call = some runtime') :
    Advances key runtime runtime' := by
  cases call with
  | retireOtherRealms => cases hstep; exact advances_retireOtherRealms
  | beginObservation => cases hstep; exact advances_beginObservation
  | advanceObservationGeneration =>
    cases hstep
    exact advances_advanceObservationGeneration
  | reconcile => cases hstep; exact advances_of_eq rfl rfl
  | complete => cases hstep; exact advances_settle
  | expire => cases hstep; exact advances_settle
  | cancelProfile =>
    cases hstep
    exact Advances.of_tables_eq (advances_foldl_invalidateProjection _) rfl rfl
  | publish => cases hstep; exact advances_publish h

theorem run_advances {runtime runtime' : Runtime V} {key : RealmIdentity} {calls : List (Call V)}
    (hC : EveryStep perform (fun r _ => r.Unsaturated) runtime calls)
    (h : run perform runtime calls = some runtime') : Advances key runtime runtime' :=
  run_invariant_of_everyStep (Advances key runtime) (advances_of_eq rfl rfl)
    (fun _ _ _ hadv hsat hstep => hadv.trans (perform_advances hsat hstep)) hC h

omit [DecidableEq V] in
theorem authoritativeProjection_eq_some_iff {runtime : Runtime V} {key : RealmIdentity}
    {p : PublishedProjection V} :
    runtime.authoritativeProjection key = some p ↔ runtime.projections.get key = some p ∧
      ∃ o, runtime.observations.get key = some o ∧
        p.authorityGeneration = o.authorityGeneration := by
  rw [authoritativeProjection]
  cases runtime.observations.get key with
  | none => simp
  | some => simp [Rows.find_eq_some_iff]

end Runtime
end Oxid.Wallet.Realm
