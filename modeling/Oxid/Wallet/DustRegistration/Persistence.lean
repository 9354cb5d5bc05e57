import Oxid.Wallet.DustRegistration.Origin
import Oxid.Wallet.DustRegistration.RecordCodec
import Oxid.Wallet.DustRegistration.Runtime

/-!
# What is in flight can be persisted

`from_projection` of `dust_registration_recovery.rs` runs the validator on the record it makes,
so the reducer's invariants have to imply what the validator asks for.  But the validator
takes a followed registration to be one that was not given up.
-/

namespace Oxid.Wallet.DustRegistration

open Projection Result Option Bool

def recordRegistration (value : Registration) : RecoveryRegistration where
  draftId := value.draftId.id.asStr
  authorizationPhase := value.authorizationPhase
  transactionId := value.transactionId.map (·.id.asStr)
  observationRevision := value.observationRevision
  finalityRevision := value.finalityRevision
  reconciliationRevision := value.reconciliationRevision
  dustRevision := value.dustRevision
  dustObservationRevision := value.dustObservationRevision
  dustReady := value.dustReady
  included := value.included
  abandonmentRevision := value.abandonmentRevision

def State.isRecorded : State → Bool
  | .actionRequired | .notEligible | .awaitingAuthorization | .submitting | .confirming
  | .reconciling | .ready => true
  | _ => false

def State.isInFlight : State → Bool
  | .awaitingAuthorization | .submitting | .confirming | .reconciling => true
  | _ => false

namespace RecoveryRecord

def ofProjection (p : Projection) (identity : Identity) (stable : Checkpoint) : RecoveryRecord where
  version := recoveryVersion
  profileId := identity.profile.id.asStr
  realmId := identity.realm.id.asStr
  generation := identity.generation
  eligibilityRevision := stable.revision
  eligible := stable.eligible
  preparationRevision := p.preparationRevision
  recoveryRevision := p.recoveryRevision
  state := p.state
  registration := p.registration.map recordRegistration

def fromProjection (p : Projection) : Except RecoveryError RecoveryRecord := do
  rejectIf (!p.state.isRecorded) .impossibleState
  let identity ← p.identity.elim (.error .impossibleState) .ok
  let stable ← p.checkpoint.elim (.error .impossibleState) .ok
  rejectIf (stable.identity ≠ identity) .impossibleState
  let record := ofProjection p identity stable
  record.validate
  return record

def restoreRuntime (record : RecoveryRecord) (runtimeInstance : UInt64) :
    Except RecoveryError Runtime :=
  record.restore.map fun p => .fresh runtimeInstance (.recovered p)

end RecoveryRecord

open RecoveryRecord

section Registrations
variable {r : Registration}

structure Registration.Recordable (r : Registration) : Prop where
  dust : r.dustReady → r.dustRevision ≠ 0
  inclusion : r.included → r.reconciliationRevision ≠ 0

theorem parse_draft (r : Registration) :
    WalletTransactionDraftId.parse (recordRegistration r).draftId = .ok r.draftId :=
  WalletTransactionDraftId.parse_ok_iff.mpr rfl

theorem mapM_parse_transaction (r : Registration) :
    (recordRegistration r).transactionId.mapM ChainTransactionId.parse = .ok r.transactionId := by
  rw [mapM_ok_iff]
  cases ht : r.transactionId with
  | none => exact .inl ⟨by simp [recordRegistration, ht], rfl⟩
  | some t =>
    refine .inr ⟨t.id.asStr, t, ?_, ChainTransactionId.parse_ok_iff.mpr rfl, rfl⟩
    simp [recordRegistration, ht]

theorem parseRegistration_record (r : Registration) :
    (recordRegistration r).parseRegistration = .ok r := by
  simp only [RecoveryRegistration.parseRegistration, bind_ok_iff, mapError_ok_iff]
  exact ⟨_, parse_draft r, _, mapM_parse_transaction r, rfl⟩

theorem validate_recordRegistration (h : r.WellFormed) (hr : r.Recordable) :
    (recordRegistration r).validate = .ok () := by
  have htransaction : ∃ t, ((recordRegistration r).transactionId.mapM fun id =>
      (ChainTransactionId.parse id).mapError fun _ =>
        RecoveryError.invalidTransactionIdentifier) = .ok t := by
    refine ⟨r.transactionId, ?_⟩
    have := mapM_parse_transaction r
    rw [mapM_ok_iff] at this ⊢
    simpa only [mapError_ok_iff] using this
  obtain ⟨t, ht⟩ := htransaction
  simp only [RecoveryRegistration.validate, bind_ok_iff, mapError_ok_iff, rejectIf_ok_iff,
    exists_const]
  refine ⟨_, parse_draft r, t, ht, ?_⟩
  have hnamed : r.transactionId.isSome = decide (r.authorizationPhase = .submitted) := by
    rw [Bool.eq_iff_iff, decide_eq_true_eq]
    exact h.submitted_iff.symm
  have hnone : (recordRegistration r).transactionId.isNone = !r.transactionId.isSome := by
    cases hx : r.transactionId <;> simp [recordRegistration, hx]
  have hsome : (recordRegistration r).transactionId.isSome = r.transactionId.isSome := by
    simp [recordRegistration]
  rw [hnone, hsome, hnamed]
  simp only [recordRegistration]
  by_cases hphase : r.authorizationPhase = .submitted
  · have hobserved := h.observed
    have hdust := hr.dust
    have hinclusion := hr.inclusion
    simp only [hphase]
    grind
  · have hb := h.blank hphase
    simp [hphase, hb.observation, hb.finality, hb.reconciliation, hb.dust, hb.dustObservation,
      hb.notReady, hb.notIncluded, hb.abandonment]

end Registrations

/-! ## What a run keeps recordable -/

structure Recorded (p : Projection) : Prop where
  holds : ∀ r, p.Holds r → r.Recordable
  followed : p.isIdle = false → ∀ r, p.registration = some r → r.abandonmentRevision = 0

/-- The refresh makes ready a registration that was given up. -/
def Projection.revives (p : Projection) : Event → Bool
  | .dustRefreshed _ transaction revision afterObservationRevision ready =>
    let revived (r : Registration) := r.transactionId = some transaction &&
      r.abandonmentRevision ≠ 0 && (r.refreshDust revision afterObservationRevision ready).isReady
    p.registration.any revived || p.abandonedRegistration.any revived
  | _ => false

section Invariant
variable {p q : Projection} {e : Event} {r : Registration}

theorem Origin.recordable (h : Origin p e r) (hp : ∀ r, p.Holds r → r.Recordable) :
    r.Recordable := by
  have ne_zero : ∀ {u v : UInt64}, u < v → v ≠ 0 := by grind
  cases h with
  | kept held => exact hp r held
  | prepared => constructor <;> simp [pendingRegistration]
  | authorized held => exact ⟨(hp _ held).dust, (hp _ held).inclusion⟩
  | submitted held => exact ⟨(hp _ held).dust, (hp _ held).inclusion⟩
  | finality held => exact ⟨(hp _ held).dust, (hp _ held).inclusion⟩
  | reconciled held newer => exact ⟨(hp _ held).dust, fun _ => ne_zero newer⟩
  | refreshed held newer => exact ⟨fun _ => ne_zero newer, (hp _ held).inclusion⟩
  | abandoned active => exact ⟨(hp _ (.inl active)).dust, (hp _ (.inl active)).inclusion⟩

theorem isIdle_setEffectiveState {s} :
    (q.setEffectiveState s).isIdle ↔ s = .notEligible ∨ s = .actionRequired := by
  rw [isIdle_iff, effectiveState_setEffectiveState]

theorem followed_activeStep (h : Coherent p) (ha : Admits p e) (hp : Recorded p)
    (hkept : p.revives e = false) (hstep : ActiveStep p e q) (hbusy : q.isIdle = false)
    (hr : q.registration = some r) :
    r.abandonmentRevision = 0 := by
  by_cases he : e.recoveryRevision.isSome
  · have hsame := sameWork_of_recovery h ha hstep he
    rw [hsame.registration] at hr
    refine hp.followed ?_ r hr
    rwa [eq_false_iff, ne_eq, isIdle_iff, hsame.effectiveState, ← isIdle_iff, ← ne_eq,
      ← eq_false_iff] at hbusy
  have hsup := h.supported
  have idle : ∀ {q : Projection} {s : State}, (q.setEffectiveState s).isIdle = false →
      s = .notEligible ∨ s = .actionRequired → False := by
    intro q s hbusy hs
    rw [isIdle_setEffectiveState.mpr hs] at hbusy
    cases hbusy
  cases hstep with
  | eligibility i v b =>
    rw [h.applyEligibility_eq] at hbusy hr
    rw [registration_setEffectiveState] at hr
    refine hp.followed ?_ r hr
    rw [eq_false_iff, ne_eq, isIdle_setEffectiveState] at hbusy
    rw [eq_false_iff, ne_eq, isIdle_iff]
    rintro (hs | hs) <;> rw [hs] at hbusy <;> cases b <;> simp [applyEligibilityTo] at hbusy
  | alreadyCurrent => simp at hr
  | prepared =>
    rw [registration_setEffectiveState, some.injEq] at hr
    rw [← hr]
    rfl
  | reprepared =>
    cases hr
    rfl
  | withdrawn => exact (idle hbusy (.inl rfl)).elim
  | rejected => exact (idle hbusy p.latestEligibilityState_eq).elim
  | backedOut => exact (idle hbusy p.latestEligibilityState_eq).elim
  | authorized i d awaiting =>
    rw [awaiting] at hsup
    obtain ⟨⟨x, hx, hphase⟩, -⟩ := hsup
    rw [registration_setEffectiveState, registration_updateActive, hx] at hr
    cases hr
    exact ((h.active x hx).blank (by rw [hphase]; decide)).abandonment
  | submitted i d t submitting =>
    rw [submitting] at hsup
    obtain ⟨⟨x, hx, hphase⟩, -⟩ := hsup
    rw [registration_setEffectiveState, registration_updateActive, hx] at hr
    cases hr
    exact ((h.active x hx).blank (by rw [hphase]; decide)).abandonment
  | finality =>
    rw [registration_applyFinality] at hr
    obtain ⟨x, -, rfl⟩ := map_eq_some_iff.mp hr
    rfl
  | reconciled =>
    rw [registration_applyReconciliation] at hr
    obtain ⟨x, -, rfl⟩ := map_eq_some_iff.mp hr
    rfl
  | refreshed _ _ _ _ _ accepted =>
    rw [registration_applyDust] at hr
    obtain ⟨x, hx, rfl⟩ := map_eq_some_iff.mp hr
    cases hidle : p.isIdle with
    | false => exact hp.followed hidle x hx
    | true =>
      -- an idle flow is left only for readiness
      rw [applyDust_of_idle hx hidle] at hbusy
      split_ifs at hbusy with hready
      · obtain ⟨y, hy, htransaction, -⟩ := acceptsDust_registration accepted
        rw [hx, some.injEq] at hy
        subst hy
        have hfirst := (or_eq_false_iff.mp hkept).1
        change x.abandonmentRevision = 0
        simpa [hx, htransaction, hready] using hfirst
      · have : p.isIdle = false := hbusy
        rw [hidle] at this
        cases this
  | abandoned i t a asked =>
    have : p.isIdle = false := hbusy
    rw [isIdle_iff.mpr (.inr asked)] at this
    cases this
  | cancelled | superseded => cases hr
  | outage e k v _ revision => exact absurd (by rw [revision]; rfl) he
  | resumed | acknowledged | retried | retryParked => exact absurd rfl he

/-- **One step keeps everything recordable**, unless it makes ready what was given up. -/
theorem recorded_reduceSettlement (h : Coherent p) (hp : Recorded p)
    (hkept : p.revives e = false) (hq : reduceSettlement p e = some q) : Recorded q := by
  refine ⟨fun r hr => (origin_of_reduceSettlement h hq hr).recordable hp.holds, ?_⟩
  intro hbusy r hr
  cases reduceSettlement_cases h.fresh hq with
  | ignored => exact hp.followed hbusy r hr
  | selected => cases hr
  | parked q _ hq =>
    obtain ⟨parked, rfl⟩ := (reduceParked_cases hq).exists_eq
    exact hp.followed hbusy r hr
  | active q ha _ hstep => exact followed_activeStep h ha hp hkept hstep hbusy hr
  | restored q ha hs _ hstep =>
    have hrestored : Recorded p.restoreAbandoned := by
      refine ⟨fun r hr => hp.holds r (holds_restoreAbandoned.mp hr), fun hbusy => ?_⟩
      rw [isIdle_iff.mpr (by
        rw [effectiveState_restoreAbandoned]
        exact p.latestEligibilityState_eq)] at hbusy
      cases hbusy
    have hkept' : p.restoreAbandoned.revives e = false := by
      cases e with
      | dustRefreshed =>
        rw [revives, registration_restoreAbandoned, abandonedRegistration_restoreAbandoned,
          Bool.or_comm]
        exact hkept
      | _ => rfl
    exact followed_activeStep (h.restoreAbandoned ha.identity_ne_none hs)
      (ha.restoreAbandoned hs) hrestored hkept' hstep hbusy hr

end Invariant

section Records
variable {p : Projection}

theorem State.isRecorded_of_isInFlight {s : State} (h : s.isInFlight) :
    s.isRecorded ∧ s.isRecoverable = false ∧ s ≠ .notEligible ∧ s ≠ .actionRequired := by
  cases s <;> simp_all [State.isInFlight, State.isRecorded, State.isRecoverable]

open RecoveryRecord

theorem validateState_ofProjection (h : Coherent p) (hp : Recorded p)
    (hs : p.state.isInFlight) (i : Identity) (c : Checkpoint) :
    (ofProjection p i c).validateState = .ok () := by
  obtain ⟨-, hshown, hne, hna⟩ := State.isRecorded_of_isInFlight hs
  have heffective := effectiveState_of_not_recoverable hshown
  have hsup := h.supported
  have hbusy : p.isIdle = false := by
    rw [eq_false_iff, ne_eq, isIdle_iff, heffective]
    exact fun hidle => hidle.elim hne hna
  rw [heffective] at hsup
  have recorded : ∀ {r : Registration} {phase : AuthorizationPhase}, p.registration = some r →
      r.authorizationPhase = phase → requirePhase (ofProjection p i c).registration
        phase = .ok (recordRegistration r) := by
    intro r phase hr hphase
    refine requirePhase_ok_iff.mpr ⟨?_, hphase⟩
    simp [ofProjection, hr]
  cases hstate : p.state <;> rw [hstate] at hs hsup <;>
    simp only [State.isInFlight, false_eq_true] at hs <;>
    simp only [validateState, ofProjection, hstate, bind_ok_iff, rejectIf_ok_iff]
  case awaitingAuthorization =>
    obtain ⟨⟨r, hr, hphase⟩, -⟩ := hsup
    exact ⟨_, recorded hr hphase, rfl⟩
  case submitting =>
    obtain ⟨⟨r, hr, hphase⟩, -⟩ := hsup
    exact ⟨_, recorded hr hphase, rfl⟩
  case confirming =>
    obtain ⟨r, hr, hphase, htracked⟩ := hsup
    refine ⟨_, recorded hr hphase, ?_⟩
    have hobserved := (h.active r hr).observed
    have habandoned := hp.followed hbusy r hr
    have hprogress := r.progressed_of_confirming htracked
    simp only [recordRegistration, Registration.finalityIsCurrent] at hprogress ⊢
    grind
  case reconciling =>
    obtain ⟨r, hr, hphase, htracked⟩ := hsup
    refine ⟨_, recorded hr hphase, ?_⟩
    have hobserved := (h.active r hr).observed
    have habandoned := hp.followed hbusy r hr
    have hready : ¬ r.isReady := by
      rw [← Registration.trackedState_eq_ready, htracked]
      decide
    have hprogress := r.progressed_of_reconciling htracked
    simp only [recordRegistration, Registration.finalityIsCurrent, Registration.isReady]
      at hprogress hready ⊢
    grind

theorem validate_ofProjection (h : Coherent p) (hp : Recorded p)
    (hs : p.state.isInFlight) (i : Identity) (c : Checkpoint) :
    (ofProjection p i c).validate = .ok () := by
  simp only [validate, bind_ok_iff, mapError_ok_iff, rejectIf_ok_iff, exists_const]
  refine ⟨by simp [ofProjection], i.profile, WalletProfileId.parse_ok_iff.mpr rfl,
    i.realm, ChainNetworkId.parse_ok_iff.mpr rfl, ?_⟩
  cases hr : p.registration with
  | none =>
    refine ⟨none, ?_, validateState_ofProjection h hp hs i c⟩
    simp [ofProjection, hr, pure, Except.pure]
  | some r =>
    refine ⟨some (), ?_, validateState_ofProjection h hp hs i c⟩
    exact mapM_ok_iff.mpr (.inr ⟨recordRegistration r, (), by simp [ofProjection, hr],
      validate_recordRegistration (h.active r hr) (hp.holds r (.inl hr)), rfl⟩)

theorem restore_ofProjection {i c} (hi : p.identity = some i) (hc : p.checkpoint = some c)
    (hci : c.identity = i) (hresume : p.resumeState = none)
    (hv : (ofProjection p i c).validate = .ok ()) : (ofProjection p i c).restore =
      .ok { p with abandonedRegistration := none, pendingRetryRevision := none } := by
  refine restore_ok_iff.mpr ⟨hv, i.profile, i.realm, p.registration,
    WalletProfileId.parse_ok_iff.mpr rfl, ChainNetworkId.parse_ok_iff.mpr rfl, ?_, ?_⟩
  · rw [mapM_ok_iff]
    cases hr : p.registration with
    | none => exact .inl ⟨by simp [ofProjection, hr], rfl⟩
    | some r =>
      exact .inr ⟨recordRegistration r, r, by simp [ofProjection, hr],
        parseRegistration_record r, rfl⟩
  · subst hci
    simp [recoveredProjection, ofProjection, hi, hc, hresume]

end Records

/-- **What is in flight is persisted and comes back**, in a run in which no refresh makes ready a
registration that was given up: the restored runtime continues with the same projection, but for
the parked registration and an early retry. -/
theorem in_flight_persisted (es : List Event) (p : Projection)
    (hr : runEvents Projection.default es = some p)
    (hkept : Transition.EveryStep reduceSettlement (fun p e => p.revives e = false)
      Projection.default es) (hs : p.state.isInFlight) (runtimeInstance : UInt64) :
    ∃ record bs runtime, fromProjection p = .ok record ∧
      record.encode = .ok bs ∧ decode bs = .ok record ∧
      record.restoreRuntime runtimeInstance = .ok runtime ∧ runtime.coordinator.projection =
        { p with abandonedRegistration := none, pendingRetryRevision := none } := by
  obtain ⟨h, hp⟩ : Coherent p ∧ Recorded p := by
    refine Transition.run_invariant_of_everyStep (fun p => Coherent p ∧ Recorded p)
      ⟨coherent_default, ?_, ?_⟩ ?_ hkept hr
    · rintro r (hr | hr) <;> cases hr
    · intro _ r hr
      cases hr
    · rintro p e q ⟨h, hp⟩ hkept hq
      exact ⟨coherent_reduceSettlement h hq, recorded_reduceSettlement h hp hkept hq⟩
  obtain ⟨hrecorded, hshown, -⟩ := State.isRecorded_of_isInFlight hs
  have hid : p.identity ≠ none := by
    intro hnone
    rw [h.fresh hnone] at hs
    cases hs
  obtain ⟨i, hi⟩ := ne_none_iff_exists'.mp hid
  obtain ⟨c, hc, hci⟩ := h.checkpointed i hi
  have hv := validate_ofProjection h hp hs i c
  obtain ⟨bs, hw, hlen⟩ := exists_write hv
  have hencode := encode_ok_iff.mpr ⟨hv, hw, hlen⟩
  have hrestore := restore_ofProjection hi hc hci (h.resumeState_eq_none hshown) hv
  refine ⟨_, bs, .fresh runtimeInstance (.recovered _), ?_, hencode, decode_ok_iff.mpr hencode, ?_,
    rfl⟩
  · simp only [fromProjection, bind_ok_iff, rejectIf_ok_iff, exists_const]
    exact ⟨by simp [hrecorded], i, by rw [hi]; rfl, c, by rw [hc]; rfl, by simp [hci], (), hv, rfl⟩
  · rw [restoreRuntime, hrestore]
    rfl

theorem in_flight_persisted_confirming : (Sample.after Sample.confirming).state = .confirming ∧
    ∃ record bs runtime, fromProjection (Sample.after Sample.confirming) =
        .ok record ∧ record.encode = .ok bs ∧ decode bs = .ok record ∧
      record.restoreRuntime 1 = .ok runtime ∧
      runtime.coordinator.projection = Sample.after Sample.confirming :=
  ⟨by decide +kernel,
    in_flight_persisted Sample.confirming (Sample.after Sample.confirming)
      (by decide +kernel) (by decide +kernel) (by decide +kernel) 1⟩

namespace Sample

def abandonedInclusion : List Event :=
  includedParked ++
    [.dustRefreshed identity otherTransaction 1 6 false,
      .droppedRegistrationAbandoned identity otherTransaction 7,
      .dustRefreshed identity otherTransaction 2 4 true,
      .dustRefreshed identity otherTransaction 3 4 false]

end Sample

open Sample

/-- A registration that is being reconciled and cannot be persisted. -/
theorem reconciling_not_persisted : Reachable (after abandonedInclusion) ∧
    (after abandonedInclusion).state = .reconciling ∧
    fromProjection (after abandonedInclusion) = .error .impossibleState :=
  ⟨reachable_after _ (by decide +kernel), by decide +kernel, by decide +kernel⟩

end Oxid.Wallet.DustRegistration
