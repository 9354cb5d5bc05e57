import Oxid.Foundation

/-!
# The coordinator of a selected realm

`realm_reconciliation.rs` leases an effect for each family that `plan` chooses, accepts its
completion or expiry, and remembers at most one trigger, which starts the next run when the
last lease ends.
-/

namespace Oxid.Wallet.Realm
open Bool

inductive ReconciliationTrigger
  | initial | manualRefresh | actionPreflight
  deriving DecidableEq

inductive FacetState
  | current | stale | missing | updating | blocked | unsupported
  deriving DecidableEq

structure ReconciliationState where
  (account dust shielded : FacetState)
  deriving DecidableEq

inductive ReconciliationEffect
  | syncAccount | syncDust | syncShielded
  deriving DecidableEq

def familyRequired : ReconciliationTrigger → FacetState → Bool
  | .manualRefresh, .current | .manualRefresh, .stale | .manualRefresh, .missing
  | .manualRefresh, .blocked => true
  | .actionPreflight, .current => true
  | .initial, .stale | .initial, .missing | .actionPreflight, .stale
  | .actionPreflight, .missing => true
  | .initial, .current | .initial, .blocked | .actionPreflight, .blocked => false
  | _, .updating | _, .unsupported => false

def planFamily (trigger : ReconciliationTrigger) (state : FacetState)
    (effect : ReconciliationEffect) (effects : List ReconciliationEffect) :
    List ReconciliationEffect :=
  if familyRequired trigger state then effects ++ [effect] else effects

def plan (trigger : ReconciliationTrigger) (state : ReconciliationState) :
    List ReconciliationEffect :=
  let effects := planFamily trigger state.account .syncAccount []
  let effects := planFamily trigger state.dust .syncDust effects
  planFamily trigger state.shielded .syncShielded effects

/-! ## The coordinator -/

structure LeaseSet where
  (account dust shielded : Bool)
  deriving DecidableEq

def LeaseSet.default : LeaseSet := ⟨false, false, false⟩

def LeaseSet.active (leases : LeaseSet) : ReconciliationEffect → Bool
  | .syncAccount => leases.account
  | .syncDust => leases.dust
  | .syncShielded => leases.shielded

def LeaseSet.set (leases : LeaseSet) (effect : ReconciliationEffect) (value : Bool) : LeaseSet :=
  match effect with
  | .syncAccount => { leases with account := value }
  | .syncDust => { leases with dust := value }
  | .syncShielded => { leases with shielded := value }

def ReconciliationState.facet (facets : ReconciliationState) : ReconciliationEffect → FacetState
  | .syncAccount => facets.account
  | .syncDust => facets.dust
  | .syncShielded => facets.shielded

def ReconciliationState.set (facets : ReconciliationState) (effect : ReconciliationEffect)
    (value : FacetState) : ReconciliationState :=
  match effect with
  | .syncAccount => { facets with account := value }
  | .syncDust => { facets with dust := value }
  | .syncShielded => { facets with shielded := value }

structure CoordinatorState where
  revision : UInt64
  facets : ReconciliationState
  leases : LeaseSet
  leasedFrom : Option ReconciliationState
  pendingTrigger : Option ReconciliationTrigger
  deriving DecidableEq

structure CoordinatorEffect where
  revision : UInt64
  kind : ReconciliationEffect
  deriving DecidableEq

inductive EffectOutcome
  | current | inProgress | stale | missing | blocked | unsupported

def EffectOutcome.facetState : EffectOutcome → FacetState
  | .current => .current
  | .inProgress => .updating
  | .stale => .stale
  | .missing => .missing
  | .blocked => .blocked
  | .unsupported => .unsupported

inductive CoordinatorInput
  | reconcile (trigger : ReconciliationTrigger)
  | effectCompleted (effect : CoordinatorEffect) (outcome : EffectOutcome)
  | effectExpired (effect : CoordinatorEffect)
  | observe (observed : ReconciliationState)
  | cancel

def CoordinatorInput.report : CoordinatorInput → Option (CoordinatorEffect × FacetState)
  | .effectCompleted effect outcome => some (effect, outcome.facetState)
  | .effectExpired effect => some (effect, .stale)
  | .reconcile _ | .observe _ | .cancel => none

structure CoordinatorTransition where
  state : CoordinatorState
  effects : List CoordinatorEffect

namespace CoordinatorState

def new (facets : ReconciliationState) : CoordinatorState :=
  ⟨0, facets, ⟨false, false, false⟩, none, none⟩

def accepts (state : CoordinatorState) (effect : CoordinatorEffect) : Bool :=
  effect.revision == state.revision && state.leases.active effect.kind

def hasActiveLeases (state : CoordinatorState) : Bool :=
  state.leases.account || state.leases.dust || state.leases.shielded

end CoordinatorState

open CoordinatorState

def unchanged (state : CoordinatorState) : CoordinatorTransition := ⟨state, []⟩

def nextRevision (revision : UInt64) : UInt64 :=
  let candidate := revision + 1
  if candidate == 0 then 1 else candidate

def triggerPriority : ReconciliationTrigger → Nat
  | .initial => 0
  | .manualRefresh => 1
  | .actionPreflight => 2

def lease (next : CoordinatorState) (kind : ReconciliationEffect) : CoordinatorState :=
  { next with facets := next.facets.set kind .updating, leases := next.leases.set kind true }

def reconcile (state : CoordinatorState) (trigger : ReconciliationTrigger) :
    CoordinatorTransition :=
  if state.hasActiveLeases then
    -- work is in flight: keep the trigger of the higher priority for later
    let pendingTrigger := match state.pendingTrigger with
      | some pending =>
        if triggerPriority pending ≥ triggerPriority trigger then pending else trigger
      | none => trigger
    unchanged { state with pendingTrigger := some pendingTrigger }
  else
    let kinds := plan trigger state.facets
    if kinds.isEmpty then unchanged state
    else
      let revision := nextRevision state.revision
      let next : CoordinatorState :=
        ⟨revision, state.facets, .default, some state.facets, none⟩
      ⟨kinds.foldl lease next, kinds.map fun kind => ⟨revision, kind⟩⟩

def release (state : CoordinatorState) (kind : ReconciliationEffect) (facet : FacetState) :
    CoordinatorState :=
  { state with facets := state.facets.set kind facet, leases := state.leases.set kind false }

def settleEffect (state : CoordinatorState) (effect : CoordinatorEffect) (facet : FacetState) :
    CoordinatorTransition :=
  if effect.revision ≠ state.revision ∨ state.leases.active effect.kind = false then
    unchanged state
  else
    let state := release state effect.kind facet
    if state.hasActiveLeases then unchanged state
    else
      let state := { state with leasedFrom := none }
      match state.pendingTrigger with
      | some trigger => reconcile { state with pendingTrigger := none } trigger
      | none => unchanged state

def completeEffect (state : CoordinatorState) (effect : CoordinatorEffect)
    (outcome : EffectOutcome) : CoordinatorTransition :=
  settleEffect state effect outcome.facetState

def expireEffect (state : CoordinatorState) (effect : CoordinatorEffect) : CoordinatorTransition :=
  settleEffect state effect .stale

def observe (state : CoordinatorState) (observed : ReconciliationState) : CoordinatorTransition :=
  unchanged { state with facets :=
    { account := if state.leases.account then state.facets.account else observed.account
      dust := if state.leases.dust then state.facets.dust else observed.dust
      shielded := if state.leases.shielded then state.facets.shielded else observed.shielded } }

def restoreLeasedFacet (facet : FacetState) (leased : Bool) (previous : FacetState) : FacetState :=
  if leased then previous else facet

def cancel (state : CoordinatorState) : CoordinatorTransition :=
  if state.hasActiveLeases then
    let facets := match state.leasedFrom with
      | some previous =>
        { account := restoreLeasedFacet state.facets.account state.leases.account previous.account
          dust := restoreLeasedFacet state.facets.dust state.leases.dust previous.dust
          shielded :=
            restoreLeasedFacet state.facets.shielded state.leases.shielded previous.shielded }
      | none => state.facets
    unchanged ⟨nextRevision state.revision, facets, .default, none, none⟩
  else unchanged state

def reduce (state : CoordinatorState) : CoordinatorInput → CoordinatorTransition
  | .reconcile trigger => reconcile state trigger
  | .effectCompleted effect outcome => completeEffect state effect outcome
  | .effectExpired effect => expireEffect state effect
  | .observe observed => Realm.observe state observed
  | .cancel => Realm.cancel state

section Families
variable {facets : ReconciliationState} {leases : LeaseSet} {state next : CoordinatorState}
  {effect kind : ReconciliationEffect} {kinds : List ReconciliationEffect}

@[simp] theorem facet_set {value} :
    (facets.set effect value).facet kind = if kind = effect then value else facets.facet kind := by
  cases effect <;> cases kind <;> rfl

@[simp] theorem active_set {value} : (leases.set effect value).active kind =
      if kind = effect then value else leases.active kind := by
  cases effect <;> cases kind <;> rfl

@[simp] theorem active_default : LeaseSet.default.active kind = false := by cases kind <;> rfl

theorem hasActiveLeases_iff : state.hasActiveLeases ↔ ∃ kind, state.leases.active kind := by
  simp only [hasActiveLeases, or_eq_true]
  constructor
  · rintro ((h | h) | h)
    · exact ⟨.syncAccount, h⟩
    · exact ⟨.syncDust, h⟩
    · exact ⟨.syncShielded, h⟩
  · rintro ⟨kind, h⟩
    cases kind with
    | syncAccount => exact .inl (.inl h)
    | syncDust => exact .inl (.inr h)
    | syncShielded => exact .inr h

theorem hasActiveLeases_eq_false_iff :
    state.hasActiveLeases = false ↔ ∀ kind, state.leases.active kind = false := by
  rw [← not_eq_true, hasActiveLeases_iff]
  simp

theorem plan_nodup (trigger : ReconciliationTrigger) (facets : ReconciliationState) :
    (plan trigger facets).Nodup := by
  simp only [plan, planFamily]
  split_ifs <;> decide

theorem active_foldl_lease : (kinds.foldl lease next).leases.active kind ↔
    kind ∈ kinds ∨ next.leases.active kind := by
  induction kinds generalizing next with
  | nil => simp
  | cons k _ ih =>
    rw [List.foldl_cons, ih, List.mem_cons]
    by_cases h : kind = k <;> simp [lease, h]

theorem hasActiveLeases_foldl_lease (h : kinds ≠ []) :
    (kinds.foldl lease next).hasActiveLeases := by
  obtain ⟨kind, hkind⟩ := List.exists_mem_of_ne_nil kinds h
  exact hasActiveLeases_iff.mpr ⟨kind, active_foldl_lease.mpr (.inl hkind)⟩

theorem facet_foldl_lease : (kinds.foldl lease next).facets.facet kind =
    if kind ∈ kinds then .updating else next.facets.facet kind := by
  induction kinds generalizing next with
  | nil => simp
  | cons k kinds ih =>
    rw [List.foldl_cons, ih]
    by_cases h : kind = k <;> by_cases h' : kind ∈ kinds <;> simp [lease, h, h']

@[simp] theorem frame_foldl_lease : (kinds.foldl lease next).revision = next.revision ∧
    (kinds.foldl lease next).leasedFrom = next.leasedFrom ∧
      (kinds.foldl lease next).pendingTrigger = next.pendingTrigger := by
  induction kinds generalizing next with
  | nil => exact ⟨rfl, rfl, rfl⟩
  | cons k _ ih => exact ih

end Families

section Transitions
variable {state : CoordinatorState} {trigger : ReconciliationTrigger} {effect : CoordinatorEffect}
  {facet : FacetState} {input : CoordinatorInput}

theorem reconcile_cases (h : state.hasActiveLeases = false) (trigger : ReconciliationTrigger) :
    plan trigger state.facets = [] ∧ reconcile state trigger = unchanged state ∨
      plan trigger state.facets ≠ [] ∧ reconcile state trigger =
          ⟨(plan trigger state.facets).foldl lease
              ⟨nextRevision state.revision, state.facets, .default, some state.facets, none⟩,
            (plan trigger state.facets).map fun kind => ⟨nextRevision state.revision, kind⟩⟩ := by
  rw [reconcile, h]
  by_cases hplan : plan trigger state.facets = []
  · exact .inl ⟨hplan, by simp [hplan]⟩
  · exact .inr ⟨hplan, by simp [hplan]⟩

theorem effects_reconcile (h : state.hasActiveLeases = false) (trigger : ReconciliationTrigger) :
    (reconcile state trigger).effects =
      (plan trigger state.facets).map (⟨nextRevision state.revision, ·⟩) := by
  obtain ⟨hplan, hrec⟩ | ⟨-, hrec⟩ := reconcile_cases h trigger
  · simp [hrec, hplan, unchanged]
  · rw [hrec]

/-- After the last lease. -/
def ended (state : CoordinatorState) (kind : ReconciliationEffect) (facet : FacetState) :
    CoordinatorState :=
  { release state kind facet with leasedFrom := none, pendingTrigger := none }

/-- What an input can do: a trigger is planned or remembered; a report is refused, or
releases a lease, which may be the last and then starts what is remembered; or the
facets are observed, or the leases cancelled. -/
inductive Reduction (state : CoordinatorState) : CoordinatorInput → CoordinatorTransition → Prop
  | planned (trigger : ReconciliationTrigger) (idle : state.hasActiveLeases = false) :
      Reduction state (.reconcile trigger) (reconcile state trigger)
  | retained (trigger pending) (active : state.hasActiveLeases)
      (highest : pending = state.pendingTrigger.elim trigger fun pending =>
        if triggerPriority pending ≥ triggerPriority trigger then pending else trigger)
      :
      Reduction state (.reconcile trigger)
        (unchanged { state with pendingTrigger := some pending })
  | refused {input : CoordinatorInput} {effect} {facet : FacetState}
      (report : input.report = some (effect, facet)) (refused : state.accepts effect = false) :
      Reduction state input (unchanged state)
  | released {input : CoordinatorInput} {effect : CoordinatorEffect} {facet : FacetState}
      (report : input.report = some (effect, facet)) (accepted : state.accepts effect)
      (active : (release state effect.kind facet).hasActiveLeases) :
      Reduction state input (unchanged (release state effect.kind facet))
  | ended {input : CoordinatorInput} {effect : CoordinatorEffect} {facet : FacetState}
      (report : input.report = some (effect, facet)) (accepted : state.accepts effect)
      (idle : (ended state effect.kind facet).hasActiveLeases = false) :
      Reduction state input (state.pendingTrigger.elim
        (unchanged (ended state effect.kind facet)) (reconcile (ended state effect.kind facet)))
  | observed (observed : ReconciliationState) :
      Reduction state (.observe observed) (Realm.observe state observed)
  | cancelled : Reduction state .cancel (Realm.cancel state)

theorem settleEffect_of_not_accepts (h : state.accepts effect = false) :
    settleEffect state effect facet = unchanged state := by
  refine if_pos ?_
  rw [accepts, and_eq_false_iff, beq_eq_false_iff_ne] at h
  exact h

theorem reduction_settleEffect (report : input.report = some (effect, facet)) :
    Reduction state input (settleEffect state effect facet) := by
  cases haccept : state.accepts effect with
  | false =>
    rw [settleEffect_of_not_accepts haccept]
    exact .refused report haccept
  | true =>
    have hguard :
        ¬ (effect.revision ≠ state.revision ∨ state.leases.active effect.kind = false) := by
      simp only [accepts, and_eq_true, beq_iff_eq] at haccept
      simp [haccept]
    rw [settleEffect, if_neg hguard]
    cases hactive : (release state effect.kind facet).hasActiveLeases with
    | true => simpa [hactive] using Reduction.released report haccept hactive
    | false =>
      have hended := Reduction.ended report haccept hactive
      simp only [hactive]
      cases hpending : state.pendingTrigger <;> simpa [ended, release, hpending] using hended

theorem reduction_reduce (state : CoordinatorState) (input : CoordinatorInput) :
    Reduction state input (reduce state input) := by
  cases input with
  | reconcile trigger =>
    cases hactive : state.hasActiveLeases with
    | true =>
      rw [reduce, reconcile, hactive]
      refine .retained trigger _ hactive ?_
      cases state.pendingTrigger <;> rfl
    | false => exact .planned trigger hactive
  | effectCompleted => exact reduction_settleEffect rfl
  | effectExpired => exact reduction_settleEffect rfl
  | observe observed => exact .observed observed
  | cancel => exact .cancelled

end Transitions

/-! ## The bookkeeping of the leases -/

/-- A leased family is updating, the facets to restore are kept exactly while a
lease is active, and a trigger is remembered only then. -/
structure CoordinatorState.Coherent (state : CoordinatorState) : Prop where
  updating : ∀ kind, state.leases.active kind → state.facets.facet kind = .updating
  leasedFrom : state.leasedFrom.isSome ↔ state.hasActiveLeases
  pending : state.pendingTrigger.isSome → state.hasActiveLeases

section Coherent
variable {state : CoordinatorState} {trigger : ReconciliationTrigger} {effect : CoordinatorEffect}
  {facet : FacetState}

theorem CoordinatorState.hasActiveLeases_of_accepts (h : state.accepts effect) :
    state.hasActiveLeases := by
  simp only [accepts, and_eq_true] at h
  exact hasActiveLeases_iff.mpr ⟨effect.kind, h.2⟩

theorem coherent_of_inactive (h : state.hasActiveLeases = false) (hfrom : state.leasedFrom = none)
    (hpending : state.pendingTrigger = none) : state.Coherent where
  updating := by
    intro kind hkind
    rw [hasActiveLeases_eq_false_iff.mp h kind] at hkind
    cases hkind
  leasedFrom := by simp [h, hfrom]
  pending := by simp [hpending]

theorem CoordinatorState.Coherent.pendingTrigger_eq_none (h : state.Coherent)
    (hidle : state.hasActiveLeases = false) : state.pendingTrigger = none := by
  cases hpending : state.pendingTrigger with
  | none => rfl
  | some =>
    rw [h.pending (by rw [hpending]; rfl)] at hidle
    cases hidle

theorem new_coherent (facets : ReconciliationState) : (new facets).Coherent :=
  coherent_of_inactive rfl rfl rfl

theorem reconcile_coherent (hidle : state.hasActiveLeases = false) (h : state.Coherent) :
    (reconcile state trigger).state.Coherent := by
  obtain ⟨-, hrec⟩ | ⟨hplan, hrec⟩ := reconcile_cases hidle trigger
  · rw [hrec]
    exact h
  · rw [hrec]
    refine ⟨?_, ?_, fun _ => hasActiveLeases_foldl_lease hplan⟩
    · intro kind hkind
      rw [active_foldl_lease, active_default] at hkind
      rw [facet_foldl_lease, if_pos (hkind.resolve_right false_ne_true)]
    · simp [hasActiveLeases_foldl_lease hplan]

theorem Reduction.coherent {input : CoordinatorInput} {t : CoordinatorTransition}
    (hr : Reduction state input t) (h : state.Coherent) : t.state.Coherent := by
  cases hr with
  | planned trigger idle => exact reconcile_coherent idle h
  | retained trigger pending active => exact ⟨h.updating, h.leasedFrom, fun _ => active⟩
  | refused => exact h
  | released report accepted active =>
    -- the other leases of the run go on
    refine ⟨?_, iff_of_true (h.leasedFrom.mpr ?_) active, fun _ => active⟩
    · intro kind hkind
      simp only [unchanged, release, facet_set, active_set] at hkind ⊢
      split_ifs at hkind ⊢
      exact h.updating kind hkind
    · exact hasActiveLeases_of_accepts accepted
  | ended report accepted idle =>
    have hended := coherent_of_inactive idle rfl rfl
    cases state.pendingTrigger with
    | none => exact hended
    | some => exact reconcile_coherent idle hended
  | observed =>
    refine ⟨?_, h.leasedFrom, h.pending⟩
    intro kind hkind
    have hold := h.updating kind hkind
    cases kind <;> simp only [Realm.observe, unchanged, LeaseSet.active, ReconciliationState.facet]
        at hkind hold ⊢ <;>
      rw [if_pos hkind, hold]
  | cancelled =>
    rw [Realm.cancel]
    split_ifs
    · exact coherent_of_inactive rfl rfl rfl
    · exact h

theorem reduce_coherent (h : state.Coherent) (input : CoordinatorInput) :
    (reduce state input).state.Coherent :=
  (reduction_reduce state input).coherent h

end Coherent

end Oxid.Wallet.Realm
