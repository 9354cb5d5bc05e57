import Oxid.Wire
import Oxid.Transition.Run
import Oxid.Wallet.Domain
import Oxid.Wallet.Realm.Reconciliation

/-!
# When a realm is reconciled

`realm_lifecycle_policy.rs` asks for it at once when the realm is selected or an action needs
it, and otherwise when it is stale, outside the debounce time and, for a periodic tick, the
backoff of a failure.  It also advertises when to wake up.
-/

namespace Oxid.Wallet.Realm
open Foundation Transition Option UInt64 Nat

inductive PolicyConfigError
  | invalidBounds

structure PolicyConfig where
  (debounceMillis staleAgeMillis backoffBaseMillis backoffMaxMillis : UInt64)
  retryCeiling : UInt8
  jitterWindowMillis : UInt64
  debounce_ne_zero : debounceMillis ≠ 0
  staleAge_ne_zero : staleAgeMillis ≠ 0
  backoffBase_ne_zero : backoffBaseMillis ≠ 0
  backoffBase_le_max : backoffBaseMillis ≤ backoffMaxMillis
  retryCeiling_ne_zero : retryCeiling ≠ 0

namespace PolicyConfig

def default : PolicyConfig where
  debounceMillis := 5000
  staleAgeMillis := 30000
  backoffBaseMillis := 1000
  backoffMaxMillis := 60000
  retryCeiling := 5
  jitterWindowMillis := 250
  debounce_ne_zero := by decide
  staleAge_ne_zero := by decide
  backoffBase_ne_zero := by decide
  backoffBase_le_max := by decide
  retryCeiling_ne_zero := by decide

def new (debounceMillis staleAgeMillis backoffBaseMillis backoffMaxMillis : UInt64)
    (retryCeiling : UInt8) (jitterWindowMillis : UInt64) : Except PolicyConfigError PolicyConfig :=
  if h : debounceMillis ≠ 0 ∧ staleAgeMillis ≠ 0 ∧ backoffBaseMillis ≠ 0 ∧
      backoffBaseMillis ≤ backoffMaxMillis ∧ retryCeiling ≠ 0 then
    .ok ⟨debounceMillis, staleAgeMillis, backoffBaseMillis, backoffMaxMillis, retryCeiling,
      jitterWindowMillis, h.1, h.2.1, h.2.2.1, h.2.2.2.1, h.2.2.2.2⟩
  else .error .invalidBounds

end PolicyConfig

/-! ## Inputs and decisions -/

structure LifecycleIdentity where
  profile : WalletProfileId
  realm : ChainNetworkId
  deriving DecidableEq

inductive LifecycleInput
  | initialized (identity : LifecycleIdentity) (now : UInt64) (facets : ReconciliationState)
  | realmSelected (identity : LifecycleIdentity) (now : UInt64) (facets : ReconciliationState)
  | backgrounded (now : UInt64)
  | foreground (now : UInt64) (facets : ReconciliationState)
  | connectivityRestored (now : UInt64) (facets : ReconciliationState)
  | periodicTick (now : UInt64) (facets : ReconciliationState)
  | actionPreflight (now : UInt64) (facets : ReconciliationState)
  | reconciliationFinished (identity : LifecycleIdentity) (sequence now : UInt64)
      (facets : ReconciliationState) (succeeded : Bool)
  | reconciliationObserved (identity : LifecycleIdentity) (now : UInt64)
      (facets : ReconciliationState)
  | reconciliationTimedOut (identity : LifecycleIdentity) (sequence now : UInt64)
      (facets : ReconciliationState)

structure LifecycleRequest where
  identity : LifecycleIdentity
  trigger : ReconciliationTrigger
  sequence : UInt64
  deriving DecidableEq

inductive LifecycleDecision
  | request (request : LifecycleRequest)
  | retained (request : LifecycleRequest)
  | ignored
  | superseded (previous : LifecycleIdentity) (request : LifecycleRequest)
  deriving DecidableEq

structure LifecyclePolicy where
  active : Option LifecycleIdentity
  foreground : Bool
  (inFlight pending : Option LifecycleRequest)
  (lastRequestMillis lastFreshMillis lastFailureMillis : Option UInt64)
  retryCount : UInt8
  sequence : UInt64
  deriving DecidableEq

def isStale (facets : ReconciliationState) : Bool :=
  [facets.account, facets.dust, facets.shielded].any fun facet =>
    facet = .stale || facet = .missing

/-- A spread of the retry delay that is the same in every process: FNV-1a over the
identity and the retry count. -/
def deterministicJitter (identity : LifecycleIdentity) (retryCount : UInt8)
    (windowMillis : UInt64) : UInt64 :=
  if windowMillis = 0 then 0
  else
    let bytes := Wire.utf8Bytes identity.profile.id.asStr ++ [0xff] ++
      Wire.utf8Bytes identity.realm.id.asStr ++ [retryCount]
    let hash := bytes.foldl
      (fun hash byte => (hash ^^^ byte.toUInt64) * 0x00000100000001b3) 0xcbf29ce484222325
    UInt64.ofNat (hash.toNat % (windowMillis.toNat + 1))

def testnetLifecycle : LifecycleIdentity where
  profile := ⟨⟨"profile_lifecycle", by decide, by decide, by decide, by decide⟩⟩
  realm := ⟨⟨"testnet", by decide, by decide, by decide, by decide⟩⟩

def currentFacets : ReconciliationState := ⟨.current, .current, .current⟩

namespace LifecyclePolicy

def default : LifecyclePolicy := ⟨none, false, none, none, none, none, none, 0, 0⟩

def restoreActive (identity : LifecycleIdentity) : LifecyclePolicy :=
  { default with active := some identity }

def owns (policy : LifecyclePolicy) (request : LifecycleRequest) : Bool :=
  policy.active = some request.identity &&
    policy.inFlight.any fun inFlight => inFlight.sequence = request.sequence

def retryDelayMillis (policy : LifecyclePolicy) (config : PolicyConfig) : UInt64 :=
  let exponent := min (policy.retryCount.toNat - 1) 63
  let jitter := policy.active.elim 0 fun identity =>
    deterministicJitter identity policy.retryCount config.jitterWindowMillis
  saturatingAdd64
    (min (saturatingMul64 config.backoffBaseMillis (UInt64.ofNat (2 ^ exponent)))
      config.backoffMaxMillis) jitter

def nextWakeupMillis (policy : LifecyclePolicy) (config : PolicyConfig) : Option UInt64 :=
  if policy.foreground = false ∨ policy.active = none ∨ policy.inFlight.isSome ∨
      policy.retryCount ≥ config.retryCeiling then none
  else
    let freshnessDue := ((policy.lastFreshMillis.map
      fun last => saturatingAdd64 last config.staleAgeMillis).or policy.lastRequestMillis).getD 0
    let debounceDue := (policy.lastRequestMillis.map
      fun last => saturatingAdd64 last config.debounceMillis).getD 0
    let retryDue := policy.lastFailureMillis.elim 0
      fun last => saturatingAdd64 last (policy.retryDelayMillis config)
    some (max (max freshnessDue debounceDue) retryDue)

def observeFreshness (policy : LifecyclePolicy) (now : UInt64) (facets : ReconciliationState) :
    LifecyclePolicy :=
  if isStale facets then policy else { policy with lastFreshMillis := some now }

def outsideDebounce (policy : LifecyclePolicy) (config : PolicyConfig) (now : UInt64) : Bool :=
  policy.lastRequestMillis.all fun last => config.debounceMillis ≤ saturatingSub64 now last

def staleEnough (policy : LifecyclePolicy) (config : PolicyConfig) (now : UInt64)
    (facets : ReconciliationState) : Bool :=
  isStale facets ||
    policy.lastFreshMillis.all fun last => config.staleAgeMillis ≤ saturatingSub64 now last

def retryDue (policy : LifecyclePolicy) (config : PolicyConfig) (now : UInt64) : Bool :=
  let delay := policy.retryDelayMillis config
  (policy.lastFailureMillis.or policy.lastRequestMillis).all
    fun last => delay ≤ saturatingSub64 now last

def nextSequence (policy : LifecyclePolicy) : UInt64 := max (policy.sequence + 1) 1

def resetActive (policy : LifecyclePolicy) : LifecyclePolicy :=
  { policy with
    inFlight := none
    pending := none
    lastRequestMillis := none
    lastFreshMillis := none
    lastFailureMillis := none
    retryCount := 0 }

def admitRequest (policy : LifecyclePolicy) (request : LifecycleRequest) (now : UInt64) :
    LifecycleDecision × LifecyclePolicy :=
  (.request request, { policy with lastRequestMillis := some now, inFlight := some request })

def request (policy : LifecyclePolicy) (identity : LifecycleIdentity)
    (trigger : ReconciliationTrigger) (now : UInt64) : LifecycleDecision × LifecyclePolicy :=
  match policy.inFlight with
  | some inFlight =>
    if trigger ≠ .actionPreflight ∨ inFlight.trigger = .actionPreflight ∨
        policy.pending.isSome then (.ignored, policy)
    else
      let request := ⟨identity, trigger, policy.nextSequence⟩
      (.retained request,
        { policy with sequence := policy.nextSequence, pending := some request })
  | none =>
    admitRequest { policy with sequence := policy.nextSequence }
      ⟨identity, trigger, policy.nextSequence⟩ now

def recordOutcome (policy : LifecyclePolicy) (now : UInt64) (facets : ReconciliationState) :
    Bool → LifecyclePolicy
  | true => observeFreshness { policy with retryCount := 0, lastFailureMillis := none } now facets
  | false => { policy with
      retryCount := if policy.retryCount = 255 then 255 else policy.retryCount + 1
      lastFailureMillis := some now }

def admitPending (policy : LifecyclePolicy) (now : UInt64) : LifecycleDecision × LifecyclePolicy :=
  match policy.pending with
  | some request => admitRequest { policy with pending := none } request now
  | none => (.ignored, policy)

def settle (policy : LifecyclePolicy) (identity : LifecycleIdentity) (sequence now : UInt64)
    (facets : ReconciliationState) (succeeded : Bool) : LifecycleDecision × LifecyclePolicy :=
  if policy.active ≠ some identity ∨ policy.inFlight.map (·.sequence) ≠ some sequence then
    (.ignored, policy)
  else (recordOutcome { policy with inFlight := none } now facets succeeded).admitPending now

def automatic (policy : LifecyclePolicy) (config : PolicyConfig) (now : UInt64)
    (facets : ReconciliationState) (periodic : Bool) : LifecycleDecision × LifecyclePolicy :=
  match policy.active with
  | none => (.ignored, policy)
  | some identity =>
    if policy.foreground = false ∨ policy.staleEnough config now facets = false ∨
        policy.outsideDebounce config now = false then (.ignored, policy)
    else if periodic ∧
        (policy.retryCount ≥ config.retryCeiling ∨ policy.retryDue config now = false) then
      (.ignored, policy)
    else policy.request identity .manualRefresh now

def supersededBy (policy : LifecyclePolicy) (identity : LifecycleIdentity) :
    Option LifecycleIdentity :=
  policy.active.filter (· ≠ identity)

def replaceActive (policy : LifecyclePolicy) (identity : LifecycleIdentity) : LifecyclePolicy :=
  if (policy.supersededBy identity).isSome then
    resetActive { policy with active := some identity }
  else { policy with active := some identity }

def selected (policy : LifecyclePolicy) (identity : LifecycleIdentity) (now : UInt64)
    (facets : ReconciliationState) : LifecycleDecision × LifecyclePolicy :=
  let shown := { policy.replaceActive identity with foreground := true }
  let result := (shown.observeFreshness now facets).request identity .initial now
  match policy.supersededBy identity, result.1 with
  | some previous, .request request => (.superseded previous request, result.2)
  | _, decision => (decision, result.2)

def reduce (policy : LifecyclePolicy) (config : PolicyConfig) :
    LifecycleInput → LifecycleDecision × LifecyclePolicy
  | .initialized identity now facets | .realmSelected identity now facets =>
    policy.selected identity now facets
  | .backgrounded _ =>
    (.ignored, { policy with foreground := false, inFlight := none, pending := none })
  | .foreground now facets => automatic { policy with foreground := true } config now facets false
  | .connectivityRestored now facets => policy.automatic config now facets false
  | .periodicTick now facets => policy.automatic config now facets true
  | .actionPreflight now _ =>
    match policy.active with
    | none => (.ignored, policy)
    | some identity => policy.request identity .actionPreflight now
  | .reconciliationFinished identity sequence now facets succeeded =>
    policy.settle identity sequence now facets succeeded
  | .reconciliationObserved identity now facets =>
    (.ignored,
      if policy.active = some identity then policy.observeFreshness now facets else policy)
  | .reconciliationTimedOut identity sequence now facets =>
    policy.settle identity sequence now facets false

def step (config : PolicyConfig) (policy : LifecyclePolicy) (input : LifecycleInput) :
    Option LifecyclePolicy :=
  some (policy.reduce config input).2

section Elapsed
variable {since : Option UInt64} {span now : UInt64}

def Elapsed (since : Option UInt64) (span now : UInt64) : Prop :=
  ∀ last ∈ since, last.toNat + span.toNat ≤ now.toNat

instance instDecidableElapsed :
    ∀ (since : Option UInt64) (span now : UInt64), Decidable (Elapsed since span now)
  | none, _, _ => isTrue (by simp [Elapsed])
  | some last, span, now =>
    decidable_of_iff (last.toNat + span.toNat ≤ now.toNat) (by simp [Elapsed])

def Fits (since : Option UInt64) (span : UInt64) : Prop :=
  ∀ last ∈ since, last.toNat + span.toNat < u64Max.toNat

instance instDecidableFits : ∀ (since : Option UInt64) (span : UInt64), Decidable (Fits since span)
  | none, _ => isTrue (by simp [Fits])
  | some last, span => decidable_of_iff (last.toNat + span.toNat < u64Max.toNat) (by simp [Fits])

theorem all_le_saturatingSub64_iff (hspan : span ≠ 0) :
    (since.all fun last => decide (span ≤ saturatingSub64 now last)) ↔ Elapsed since span now := by
  cases since with
  | none => simp [Elapsed]
  | some => simp [Elapsed, le_saturatingSub64_iff hspan]

theorem elim_saturatingAdd64_le (h : Elapsed since span now) :
    since.elim 0 (fun last => saturatingAdd64 last span) ≤ now := by
  cases since with
  | none => exact UInt64.zero_le
  | some last => exact saturatingAdd64_le (h last rfl)

theorem Elapsed.of_elim_le (hfit : Fits since span)
    (h : since.elim 0 (fun last => saturatingAdd64 last span) ≤ now) : Elapsed since span now := by
  intro last hlast
  refine add_le_of_saturatingAdd64_le (hfit last hlast) ?_
  rw [mem_def.mp hlast] at h
  exact h

end Elapsed

section Backoff
variable {policy : LifecyclePolicy}

theorem deterministicJitter_le (identity : LifecycleIdentity) (retryCount : UInt8)
    (windowMillis : UInt64) :
    (deterministicJitter identity retryCount windowMillis).toNat ≤ windowMillis.toNat := by
  have hlt := windowMillis.toNat_lt
  rw [deterministicJitter]
  split_ifs with h
  · simp
  · dsimp only
    generalize List.foldl _ _ _ = hash
    have hmod : hash.toNat % (windowMillis.toNat + 1) < windowMillis.toNat + 1 :=
      mod_lt _ (succ_pos _)
    rw [toNat_ofNat', mod_eq_of_lt (by omega)]
    omega

theorem toNat_min64 (a b : UInt64) : (min a b).toNat = min a.toNat b.toNat := by
  rcases le_total a b with h | h
  · rw [min_eq_left h, min_eq_left (le_iff_toNat_le.mp h)]
  · rw [min_eq_right h, min_eq_right (le_iff_toNat_le.mp h)]

theorem toNat_retryDelayMillis (policy : LifecyclePolicy) (config : PolicyConfig) :
    (policy.retryDelayMillis config).toNat =
      min (min (min (config.backoffBaseMillis.toNat * 2 ^ min (policy.retryCount.toNat - 1) 63)
          (2 ^ 64 - 1)) config.backoffMaxMillis.toNat +
        (policy.active.elim 0 fun identity =>
          deterministicJitter identity policy.retryCount config.jitterWindowMillis).toNat)
        (2 ^ 64 - 1) := by
  have hpow : 2 ^ min (policy.retryCount.toNat - 1) 63 < 2 ^ 64 :=
    Nat.pow_lt_pow_right (by decide) (by omega)
  rw [retryDelayMillis, toNat_saturatingAdd64, toNat_min64, toNat_saturatingMul64,
    toNat_ofNat', mod_eq_of_lt hpow]

theorem retryDelayMillis_ne_zero (policy : LifecyclePolicy) (config : PolicyConfig) :
    policy.retryDelayMillis config ≠ 0 := by
  intro h
  have hzero := toNat_retryDelayMillis policy config
  rw [h, UInt64.toNat_zero] at hzero
  have hbase : config.backoffBaseMillis.toNat ≠ 0 := fun hz =>
    config.backoffBase_ne_zero (UInt64.toNat_inj.mp hz)
  have hmax := UInt64.le_iff_toNat_le.mp config.backoffBase_le_max
  have hprod : config.backoffBaseMillis.toNat * 2 ^ min (policy.retryCount.toNat - 1) 63 ≠ 0 :=
    Nat.mul_ne_zero hbase (Nat.pos_iff_ne_zero.mp (Nat.two_pow_pos _))
  omega

theorem retryDelayMillis_le (config : PolicyConfig) (h : policy.retryCount = 0) :
    (policy.retryDelayMillis config).toNat ≤
      config.backoffBaseMillis.toNat + config.jitterWindowMillis.toNat := by
  have hjitter : (policy.active.elim 0 fun identity =>
      deterministicJitter identity policy.retryCount config.jitterWindowMillis).toNat ≤
        config.jitterWindowMillis.toNat := by
    cases policy.active with
    | none => simp
    | some identity => exact deterministicJitter_le identity _ _
  have hexp : 2 ^ min (policy.retryCount.toNat - 1) 63 = 1 := by simp [h]
  rw [toNat_retryDelayMillis, hexp, Nat.mul_one]
  omega

end Backoff

section Tick
variable {policy : LifecyclePolicy} {config : PolicyConfig} {now t : UInt64}
  {facets : ReconciliationState}

structure SumsFit (policy : LifecyclePolicy) (config : PolicyConfig) : Prop where
  fresh : Fits policy.lastFreshMillis config.staleAgeMillis
  request : Fits policy.lastRequestMillis config.debounceMillis
  failure : Fits policy.lastFailureMillis (policy.retryDelayMillis config)

structure Ready (policy : LifecyclePolicy) (config : PolicyConfig) : Prop where
  foreground : policy.foreground
  active : policy.active ≠ none
  idle : policy.inFlight = none
  attempts : policy.retryCount < config.retryCeiling

theorem ready_of_nextWakeupMillis (h : policy.nextWakeupMillis config = some t) :
    policy.Ready config := by
  rw [nextWakeupMillis] at h
  split_ifs at h with hc
  simp only [not_or, Bool.not_eq_false, not_isSome_iff_eq_none] at hc
  exact ⟨hc.1, hc.2.1, hc.2.2.1, UInt8.not_le.mp hc.2.2.2⟩

theorem nextWakeupMillis_le_iff (h : policy.nextWakeupMillis config = some t) :
    t ≤ now ↔
      (((policy.lastFreshMillis.map fun last =>
          saturatingAdd64 last config.staleAgeMillis).or policy.lastRequestMillis).getD 0 ≤ now ∧
        (policy.lastRequestMillis.map fun last =>
          saturatingAdd64 last config.debounceMillis).getD 0 ≤ now) ∧
      (policy.lastFailureMillis.elim 0 fun last =>
        saturatingAdd64 last (policy.retryDelayMillis config)) ≤ now := by
  rw [nextWakeupMillis] at h
  split_ifs at h with hc
  rw [← some.inj h, max_le_iff, max_le_iff]

theorem nextWakeupMillis_le (h : policy.nextWakeupMillis config = some t)
    (hfresh : Elapsed policy.lastFreshMillis config.staleAgeMillis now)
    (hrequest : Elapsed policy.lastRequestMillis config.debounceMillis now)
    (hfailure : Elapsed policy.lastFailureMillis (policy.retryDelayMillis config) now) :
    t ≤ now := by
  have hdebounce := elim_saturatingAdd64_le hrequest
  refine (nextWakeupMillis_le_iff h).mpr ⟨⟨?_, ?_⟩, elim_saturatingAdd64_le hfailure⟩
  · cases hlast : policy.lastFreshMillis with
    | some last => exact saturatingAdd64_le (hfresh last hlast)
    | none =>
      -- without an observation of freshness the last request stands in for it
      cases hreq : policy.lastRequestMillis with
      | none => exact UInt64.zero_le
      | some last =>
        rw [hreq] at hdebounce
        exact (le_saturatingAdd64 last config.debounceMillis).trans hdebounce
  · cases hreq : policy.lastRequestMillis with
    | none => exact UInt64.zero_le
    | some last => exact saturatingAdd64_le (hrequest last hreq)

theorem elapsed_of_nextWakeupMillis_le (hfit : policy.SumsFit config)
    (h : policy.nextWakeupMillis config = some t) (hnow : t ≤ now) :
    Elapsed policy.lastFreshMillis config.staleAgeMillis now ∧
      Elapsed policy.lastRequestMillis config.debounceMillis now ∧
      Elapsed policy.lastFailureMillis (policy.retryDelayMillis config) now := by
  obtain ⟨⟨hfresh, hrequest⟩, hfailure⟩ := (nextWakeupMillis_le_iff h).mp hnow
  refine ⟨?_, ?_, .of_elim_le hfit.failure hfailure⟩
  · intro last hlast
    refine add_le_of_saturatingAdd64_le (hfit.fresh last hlast) ?_
    rw [mem_def.mp hlast] at hfresh
    exact hfresh
  · intro last hlast
    refine add_le_of_saturatingAdd64_le (hfit.request last hlast) ?_
    rw [mem_def.mp hlast] at hrequest
    exact hrequest

theorem outsideDebounce_iff : policy.outsideDebounce config now ↔
      Elapsed policy.lastRequestMillis config.debounceMillis now :=
  all_le_saturatingSub64_iff config.debounce_ne_zero

theorem staleEnough_iff : policy.staleEnough config now facets ↔
      isStale facets ∨ Elapsed policy.lastFreshMillis config.staleAgeMillis now := by
  rw [staleEnough, Bool.or_eq_true, all_le_saturatingSub64_iff config.staleAge_ne_zero]

theorem retryDue_iff : policy.retryDue config now ↔
      Elapsed (policy.lastFailureMillis.or policy.lastRequestMillis)
        (policy.retryDelayMillis config) now :=
  all_le_saturatingSub64_iff (retryDelayMillis_ne_zero policy config)

structure TickDue (policy : LifecyclePolicy) (config : PolicyConfig) (now : UInt64)
    (facets : ReconciliationState) : Prop where
  stale : isStale facets ∨ Elapsed policy.lastFreshMillis config.staleAgeMillis now
  debounce : Elapsed policy.lastRequestMillis config.debounceMillis now
  backoff : Elapsed (policy.lastFailureMillis.or policy.lastRequestMillis)
    (policy.retryDelayMillis config) now

theorem periodicTick_request (hready : policy.Ready config)
    (hdue : policy.TickDue config now facets) :
    ∃ r, (policy.reduce config (.periodicTick now facets)).1 = .request r := by
  obtain ⟨identity, hidentity⟩ := ne_none_iff_exists'.mp hready.active
  have hattempts : ¬ config.retryCeiling ≤ policy.retryCount := UInt8.not_le.mpr hready.attempts
  have hstale := staleEnough_iff.mpr hdue.stale
  have hdebounce := outsideDebounce_iff.mpr hdue.debounce
  have hretry := retryDue_iff.mpr hdue.backoff
  refine ⟨⟨identity, .manualRefresh, policy.nextSequence⟩, ?_⟩
  simp [reduce, automatic, request, admitRequest, hidentity, hready.foreground, hready.idle, hstale,
    hdebounce, hretry, hattempts]

theorem periodicTick_ignored_of_not_due (hdue : ¬ policy.TickDue config now facets) :
    (policy.reduce config (.periodicTick now facets)).1 = .ignored := by
  have hnot : policy.staleEnough config now facets →
      policy.outsideDebounce config now → policy.retryDue config now = false := by
    intro hstale hdebounce
    rw [← Bool.not_eq_true]
    exact fun hretry => hdue
      ⟨staleEnough_iff.mp hstale, outsideDebounce_iff.mp hdebounce, retryDue_iff.mp hretry⟩
  simp only [reduce, automatic]
  cases policy.active with
  | none => rfl
  | some =>
    dsimp only
    split_ifs with h h'
    · rfl
    · rfl
    · simp only [not_or, Bool.not_eq_false] at h
      exact absurd ⟨trivial, .inr (hnot h.2.1 h.2.2)⟩ h'

theorem tickDue_iff_of_nextWakeupMillis_le (facets : ReconciliationState)
    (hfit : policy.SumsFit config) (hwake : policy.nextWakeupMillis config = some t)
    (hnow : t ≤ now) : policy.TickDue config now facets ↔ (policy.lastFailureMillis = none →
        Elapsed policy.lastRequestMillis (policy.retryDelayMillis config) now) := by
  obtain ⟨hfresh, hrequest, hfailure⟩ := elapsed_of_nextWakeupMillis_le hfit hwake hnow
  constructor
  · intro hdue hnone
    have hbackoff := hdue.backoff
    rwa [hnone, none_or] at hbackoff
  · intro h
    refine ⟨.inr hfresh, hrequest, ?_⟩
    cases hlast : policy.lastFailureMillis with
    | none => exact h hlast
    | some =>
      rw [hlast] at hfailure
      exact hfailure

theorem TickDue.nextWakeupMillis_le (hdue : policy.TickDue config now facets)
    (hwake : policy.nextWakeupMillis config = some t) (hcurrent : isStale facets = false) :
    t ≤ now := by
  have hfresh := hdue.stale.resolve_left (by rw [hcurrent]; decide)
  refine LifecyclePolicy.nextWakeupMillis_le hwake hfresh hdue.debounce ?_
  intro last hlast
  refine hdue.backoff last ?_
  rw [mem_def.mp hlast]
  rfl

end Tick

section Runs
variable {policy : LifecyclePolicy} {config : PolicyConfig}

def Counted (policy : LifecyclePolicy) : Prop :=
  policy.lastFailureMillis = none → policy.retryCount = 0

theorem Counted.observeFreshness {now : UInt64} {facets : ReconciliationState}
    (h : policy.Counted) : (policy.observeFreshness now facets).Counted := by
  rw [LifecyclePolicy.observeFreshness]
  split_ifs
  · exact h
  · exact h

theorem Counted.request {identity : LifecycleIdentity} {trigger : ReconciliationTrigger}
    {now : UInt64} (h : policy.Counted) : (policy.request identity trigger now).2.Counted := by
  rw [LifecyclePolicy.request]
  split
  · split_ifs
    · exact h
    · exact h
  · exact h

section
variable {facets : ReconciliationState}

theorem Counted.selected {identity : LifecycleIdentity} {now : UInt64} (h : policy.Counted) :
    (policy.selected identity now facets).2.Counted := by
  have hshown : Counted { policy.replaceActive identity with foreground := true } := by
    rw [replaceActive]
    split_ifs
    · exact fun _ => rfl
    · exact h
  rw [LifecyclePolicy.selected]
  split
  · exact (Counted.observeFreshness hshown).request
  · exact (Counted.observeFreshness hshown).request

theorem counted_recordOutcome {now : UInt64} {succeeded : Bool} :
    (policy.recordOutcome now facets succeeded).Counted := by
  cases succeeded with
  | true => exact Counted.observeFreshness fun _ => rfl
  | false => exact fun hnone => absurd hnone (some_ne_none now)

theorem Counted.settle {identity : LifecycleIdentity} {sequence now : UInt64} {succeeded : Bool}
    (h : policy.Counted) : (policy.settle identity sequence now facets succeeded).2.Counted := by
  rw [LifecyclePolicy.settle]
  split_ifs with hother
  · exact h
  · rw [admitPending]
    split
    · exact counted_recordOutcome
    · exact counted_recordOutcome

theorem Counted.automatic {now : UInt64} {periodic : Bool}
    (h : policy.Counted) : (policy.automatic config now facets periodic).2.Counted := by
  rw [LifecyclePolicy.automatic]
  split
  · exact h
  · split_ifs
    · exact h
    · exact h
    · exact h.request

end

theorem Counted.reduce (h : policy.Counted) (input : LifecycleInput) :
    (policy.reduce config input).2.Counted := by
  cases input with
  | initialized | realmSelected => exact h.selected
  | backgrounded => exact h
  | foreground => exact Counted.automatic h
  | connectivityRestored | periodicTick => exact h.automatic
  | actionPreflight =>
    rw [LifecyclePolicy.reduce]
    split
    · exact h
    · exact h.request
  | reconciliationFinished | reconciliationTimedOut => exact h.settle
  | reconciliationObserved =>
    dsimp only [LifecyclePolicy.reduce]
    split_ifs
    · exact h.observeFreshness
    · exact h

theorem Counted.of_reachable (h : Reachable (step config) default policy) : policy.Counted := by
  refine h.invariant (fun _ => rfl) ?_
  intro p input q hp hstep
  rw [step, some.injEq] at hstep
  exact hstep ▸ hp.reduce input

/-- From the advertised time on a tick is a request, for every state if the backoff without failures
is within the debounce time; before it a tick without a stale family is ignored. -/
theorem periodicTick_agrees_with_wakeup (config : PolicyConfig) (policy : LifecyclePolicy)
    (t : UInt64) (hreach : Reachable (step config) default policy)
    (hfit : policy.SumsFit config) (hwake : policy.nextWakeupMillis config = some t) :
    (∀ now facets, t ≤ now →
      ((∃ r, (policy.reduce config (.periodicTick now facets)).1 = .request r) ↔
        (policy.lastFailureMillis = none →
          Elapsed policy.lastRequestMillis (policy.retryDelayMillis config) now))) ∧
    (config.backoffBaseMillis.toNat + config.jitterWindowMillis.toNat ≤
        config.debounceMillis.toNat → ∀ now facets, t ≤ now →
        ∃ r, (policy.reduce config (.periodicTick now facets)).1 = .request r) ∧
    (∀ now facets, now < t → isStale facets = false →
      (policy.reduce config (.periodicTick now facets)).1 = .ignored) := by
  have hready := ready_of_nextWakeupMillis hwake
  refine ⟨?_, ?_, ?_⟩
  · intro now facets hnow
    rw [← tickDue_iff_of_nextWakeupMillis_le facets hfit hwake hnow]
    constructor
    · rintro ⟨r, hr⟩
      by_contra hdue
      rw [periodicTick_ignored_of_not_due hdue] at hr
      cases hr
    · exact periodicTick_request hready
  · intro hconfig now facets hnow
    obtain ⟨-, hrequest, -⟩ := elapsed_of_nextWakeupMillis_le hfit hwake hnow
    refine periodicTick_request hready
      ((tickDue_iff_of_nextWakeupMillis_le facets hfit hwake hnow).mpr ?_)
    intro hnone last hlast
    have hdelay := retryDelayMillis_le config (Counted.of_reachable hreach hnone)
    have hdebounce := hrequest last hlast
    omega
  · intro now facets hnow hcurrent
    refine periodicTick_ignored_of_not_due fun hdue => ?_
    exact absurd (hdue.nextWakeupMillis_le hwake hcurrent) (not_le.mpr hnow)

def settledPolicy : LifecyclePolicy where
  active := some testnetLifecycle
  foreground := true
  inFlight := none
  pending := none
  lastRequestMillis := some 0
  lastFreshMillis := some 1
  lastFailureMillis := none
  retryCount := 0
  sequence := 1

theorem periodicTick_request_at_wakeup :
    ∃ r, (settledPolicy.reduce PolicyConfig.default (.periodicTick 30001 currentFacets)).1 =
      .request r :=
  (periodicTick_agrees_with_wakeup PolicyConfig.default settledPolicy 30001
    ⟨[.initialized testnetLifecycle 0 currentFacets,
      .reconciliationFinished testnetLifecycle 1 1 currentFacets true], by decide⟩
    ⟨by decide, by decide, by decide⟩ (by decide)).2.1 (by decide) 30001 currentFacets (by decide)

def slowBackoff : PolicyConfig where
  debounceMillis := 1
  staleAgeMillis := 1
  backoffBaseMillis := 100
  backoffMaxMillis := 100
  retryCeiling := 3
  jitterWindowMillis := 0
  debounce_ne_zero := by decide
  staleAge_ne_zero := by decide
  backoffBase_ne_zero := by decide
  backoffBase_le_max := by decide
  retryCeiling_ne_zero := by decide

/-- A reconciliation that succeeded: the policy asks to be woken at 2 and then ignores
every tick up to 99, because the backoff is counted from the last request. -/
theorem periodicTick_ignored_after_wakeup : PolicyConfig.new 1 1 100 100 3 0 = .ok slowBackoff ∧
    run (step slowBackoff) default [.initialized testnetLifecycle 0 currentFacets,
        .reconciliationFinished testnetLifecycle 1 1 currentFacets true] = some settledPolicy ∧
    settledPolicy.nextWakeupMillis slowBackoff = some 2 ∧ settledPolicy.SumsFit slowBackoff ∧
    (settledPolicy.reduce slowBackoff (.periodicTick 2 currentFacets)).1 = .ignored ∧
    (settledPolicy.reduce slowBackoff (.periodicTick 99 ⟨.stale, .stale, .stale⟩)).1 =
      .ignored := by
  refine ⟨rfl, by decide, by decide, ⟨by decide, by decide, by decide⟩, by decide, by decide⟩

end Runs
end LifecyclePolicy
end Oxid.Wallet.Realm
