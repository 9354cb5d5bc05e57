import Oxid.Wallet.DustRegistration.Coherence

/-!
# Stale and duplicate deliveries

An event of an older generation of the selected realm is ignored, except that a retired
projection takes any eligibility observation of another identity.  An event that is delivered
again finds nothing left to do.
-/

namespace Oxid.Wallet.DustRegistration

open Projection Option Bool

/-! ## Older generations -/

/-- **Generation fencing.**  An event of an older generation changes nothing, in any projection,
unless it is an eligibility observation and the projection has been retired. -/
theorem stale_generation_ignored_iff {p : Projection} {e : Event} {active : Identity}
    (hid : p.identity = some active) (hgen : e.identity.generation < active.generation) :
    reduceSettlement p e = some p ↔ ¬ (p.state = .unavailable ∧ e.isEligibility) := by
  have hne : e.identity ≠ active := by
    intro heq
    rw [heq] at hgen
    exact lt_irrefl _ hgen
  constructor
  · rintro hq ⟨hstate, helig⟩
    have hsel : Selects p e := ⟨helig, active, hid, hne, .inl hstate⟩
    cases e <;> simp only [Event.isEligibility, false_eq_true] at helig
    case eligibility i r b =>
      rw [reduceSettlement, reduceWithin_of_selects hsel, some.injEq] at hq
      rw [← hq] at hid
      exact hne (some.inj hid)
  · intro hfenced
    refine reduceWithin_of_ignored (fun ha => ?_) (fun hs => ?_) (by simp [hid]) 1
    · rw [ha.identity_eq, some.injEq] at hid
      exact hne hid
    · obtain ⟨active', hactive', -, hstate | hnewer⟩ := hs.other
      · exact hfenced ⟨hstate, hs.eligibility⟩
      · rw [hid, some.injEq] at hactive'
        exact lt_asymm hgen (hactive' ▸ hnewer)

namespace Sample

def nextIdentity : Identity := { identity with generation := 2 }

def retired : List Event := [.eligibility nextIdentity 1 true, .superseded nextIdentity]

end Sample

open Sample

/-- A late submission of the older generation leaves the retired projection alone. -/
theorem stale_generation_ignored_iff_submission : reduceSettlement (after retired)
      (.submissionAccepted identity draft transaction) = some (after retired) := by
  have hid : (after retired).identity = some nextIdentity := by
    decide +kernel
  refine (stale_generation_ignored_iff hid (by decide)).mpr ?_
  simp [Event.isEligibility]

/-- A late eligibility observation of the older generation revives it. -/
theorem stale_eligibility_replaces_retired : Reachable (after retired) ∧
    (after retired).identity = some nextIdentity ∧ identity.profile = nextIdentity.profile ∧
    identity.realm = nextIdentity.realm ∧ identity.generation < nextIdentity.generation ∧
    reduceSettlement (after retired) (.eligibility identity 1 true) =
      some (after [.eligibility identity 1 true]) ∧
    reduceSettlement (after retired) (.eligibility identity 1 true) ≠ some (after retired) :=
  ⟨reachable_after _ (by decide +kernel), by decide +kernel, rfl, rfl, by decide,
    by decide +kernel, by decide +kernel⟩

/-! ## Duplicate deliveries -/

structure Spent (q : Projection) (e : Event) : Prop where
  identity : q.identity = some e.identity
  parked : q.reduceParked e = none
  kept : q.supersedesAbandonedRegistration e = false
  noop : q.reduceActive e false = q

section Duplicates
variable {p q : Projection} {e : Event}

theorem Spent.reduceSettlement_eq (h : Spent q e) : reduceSettlement q e = some q := by
  by_cases ha : Admits q e
  · rw [reduceSettlement, reduceWithin_of_admits ha, h.parked, none_or, h.kept,
      if_neg Bool.false_ne_true, h.noop]
  · refine reduceWithin_of_ignored ha (fun hs => ?_) (by simp [h.identity]) 1
    obtain ⟨active, hactive, hne, -⟩ := hs.other
    rw [h.identity, some.injEq] at hactive
    exact hne hactive

theorem noop_of_applyEvent (he : e.recoveryRevision = none) (h : q.applyEvent q e = none) :
    q.reduceActive e false = q := by
  rw [reduceActive_of_plain he, h, getD_none]

theorem spent_of_watermark {r} (hid : q.identity = some e.identity)
    (he : e.recoveryRevision = some r) (hr : r ≤ q.recoveryRevision) : Spent q e := by
  refine ⟨hid, ?_, ?_, reduceActive_of_stale he hr⟩
  · cases e <;> first | rfl | cases he
  · cases e <;> first | simp [supersedesAbandonedRegistration]; done | cases he

theorem kept_of_finality {r i t v} (hr : q.registration = some r) (hv : v ≤ r.observationRevision) :
    q.supersedesAbandonedRegistration (.finalityObserved i t v) = false := by
  rw [eq_false_iff]
  intro hs
  simp only [supersedesAbandonedRegistration, hr, any_eq_true, map_some,
    getD_some, and_eq_true, decide_eq_true_eq, max_lt_iff] at hs
  obtain ⟨parked, -, -, ⟨⟨hlt, -⟩, -⟩, -⟩ := hs
  exact absurd hlt (not_lt.mpr hv)

theorem kept_of_reconciliation {r i t v c} (hr : q.registration = some r)
    (hv : v ≤ r.observationRevision) :
    q.supersedesAbandonedRegistration (.registrationReconciled i t v c) = false := by
  rw [eq_false_iff]
  intro hs
  simp only [supersedesAbandonedRegistration, hr, any_eq_true, map_some,
    getD_some, and_eq_true, decide_eq_true_eq, max_lt_iff] at hs
  obtain ⟨parked, -, ⟨-, ⟨hlt, -⟩, -⟩, -⟩ := hs
  exact absurd hlt (not_lt.mpr hv)

theorem parkedIn_eq_false (h : p.ParkedSubmitted) (d : WalletTransactionDraftId) {phase}
    (hphase : phase ≠ .submitted) : p.parkedIn d phase = false := by
  rw [eq_false_iff]
  intro hd
  obtain ⟨r, hr, -, rfl⟩ := parkedIn_iff.mp hd
  exact hphase (h r hr)

theorem spent_of_activeStep (h : Coherent p) (ha : Admits p e)
    (hs : p.supersedesAbandonedRegistration e = false) (hstep : ActiveStep p e q) :
    reduceSettlement q e = some q := by
  have hid : q.identity = some e.identity := hstep.identity_eq.trans ha.identity_eq
  have hsup := h.supported
  -- an event that is no chain observation, and that no arm takes
  have plain : e.recoveryRevision = none → q.reduceParked e = none →
      q.supersedesAbandonedRegistration e = false → q.applyEvent q e = none →
      reduceSettlement q e = some q := fun he hp hk happly =>
    Spent.reduceSettlement_eq ⟨hid, hp, hk, noop_of_applyEvent he happly⟩
  have unparked : ∀ d phase, q.abandonedRegistration = none → q.parkedIn d phase = false := by
    intro d phase hnone
    simp [parkedIn, hnone]
  cases hstep with
  | eligibility =>
    rw [h.applyEligibility_eq] at hid plain ⊢
    exact plain rfl rfl (by simp [supersedesAbandonedRegistration])
      (by simp [applyEvent, ha.identity_eq])
  | alreadyCurrent =>
    exact plain rfl rfl (by simp [supersedesAbandonedRegistration]) (by simp [applyEvent])
  | prepared =>
    exact plain rfl rfl (by simp [supersedesAbandonedRegistration])
      (by simp [applyEvent])
  | reprepared =>
    exact plain rfl rfl (by simp [supersedesAbandonedRegistration])
      (by simp [applyEvent])
  | withdrawn i d =>
    refine plain rfl ?_ (by simp [supersedesAbandonedRegistration]) (by simp [applyEvent])
    simp [reduceParked, unparked d]
  | authorized i d awaiting =>
    rw [awaiting] at hsup
    refine plain rfl ?_ (by simp [supersedesAbandonedRegistration]) (by simp [applyEvent])
    have hp := parkedIn_eq_false (p := (p.updateActive (·.authorize)).setEffectiveState .submitting)
      (by simpa [ParkedSubmitted] using hsup.2) d (by decide : .awaitingAuthorization ≠ _)
    simp [reduceParked, hp]
  | rejected i d =>
    have hidle : p.latestEligibilityState ≠ .awaitingAuthorization := by
      rcases p.latestEligibilityState_eq with hl | hl <;> simp [hl]
    refine plain rfl ?_ (by simp [supersedesAbandonedRegistration])
      (by simp [applyEvent, hidle])
    simp [reduceParked, unparked d]
  | submitted i d t submitting =>
    rw [submitting] at hsup
    refine plain rfl ?_ (by simp [supersedesAbandonedRegistration]) (by simp [applyEvent])
    have hp := parkedIn_eq_false (p := (p.updateActive (·.submit t)).setEffectiveState .confirming)
      (by simpa [ParkedSubmitted] using hsup.2) d (by decide : .submitting ≠ _)
    simp [reduceParked, hp]
  | finality i t v accepted =>
    obtain ⟨r, hr, -⟩ := acceptsFinality_registration accepted
    have hreg : (p.applyFinality p v).registration = some (r.observeFinality v) := by simp [hr]
    have hstale : (p.applyFinality p v).acceptsFinality t v = false :=
      acceptsFinality_of_le hreg le_rfl
    exact plain rfl rfl (kept_of_finality hreg (le_max_right _ _)) (by simp [applyEvent, hstale])
  | reconciled i t v c accepted =>
    obtain ⟨r, hr, -⟩ := acceptsReconciliation_registration accepted
    have hreg : (p.applyReconciliation p v c).registration = some (r.reconcile v c) := by
      simp [hr]
    have hstale : (p.applyReconciliation p v c).acceptsReconciliation t v c = false :=
      acceptsReconciliation_of_le hreg le_rfl
    exact plain rfl rfl (kept_of_reconciliation hreg (le_max_right _ _))
      (by simp [applyEvent, hstale])
  | refreshed i t v a b accepted =>
    obtain ⟨r, hr, -⟩ := acceptsDust_registration accepted
    have hreg : (p.applyDust p v a b).registration = some (r.refreshDust v a b) := by simp [hr]
    have hstale : (p.applyDust p v a b).acceptsDust t v = false := acceptsDust_of_le hreg le_rfl
    refine plain rfl rfl ?_ (by simp [applyEvent, hstale])
    -- a refresh moves neither of the watermarks the swap is decided by
    simpa [supersedesAbandonedRegistration, hr, Registration.refreshDust] using hs
  | abandoned i t a _ transaction =>
    obtain ⟨r, hr, ht⟩ := hasTransaction_iff.mp transaction
    refine Spent.reduceSettlement_eq ⟨hid, rfl, by simp [supersedesAbandonedRegistration], ?_⟩
    -- the guard still holds, and the revision is written a second time
    rw [reduceActive_of_plain rfl]
    simp only [applyEvent]
    split_ifs
    · simp [updateActive, hr, Registration.abandon]
    · rfl
  | backedOut i d cancellable draft parked =>
    rw [h.awaiting_of_canCancel cancellable draft] at hsup
    obtain ⟨r, hr⟩ := isSome_iff_exists.mp parked
    have hsub := (h.parked r hr).submitted_iff.mp (hsup.2 r hr)
    refine plain rfl ?_ (by simp [supersedesAbandonedRegistration]) ?_
    · simp [reduceParked, unparked d]
    · simp [applyEvent, canCancel, hasSubmittedRegistration, hr, hsub]
  | cancelled i d _ _ hnone =>
    refine plain rfl ?_ (by simp [supersedesAbandonedRegistration]) ?_
    · rw [reduceParked, unparked d _ hnone]
      rfl
    · simp [applyEvent, hasDraft, setState]
  | outage e k r announces revision =>
    have hk := Event.isRecoverable_of_outage announces
    have hset := h.isSettled_of_admits ha (Event.isSuperseded_of_recovery (by rw [revision]; rfl))
    rcases h.outage_cases hk hset r with ⟨m, hlt, hout⟩ | hshown
    · rw [hout] at hid ⊢
      exact (spent_of_watermark hid revision hlt.le).reduceSettlement_eq
    · rw [hshown] at hid ⊢
      exact (spent_of_watermark hid revision le_rfl).reduceSettlement_eq
  | resumed i r _ hidden =>
    rw [h.resume_hidden hidden] at hid ⊢
    exact (spent_of_watermark hid rfl le_rfl).reduceSettlement_eq
  | acknowledged i r _ shown =>
    rw [h.resume_shown shown] at hid ⊢
    exact (spent_of_watermark hid rfl le_rfl).reduceSettlement_eq
  | retried i r _ hidden =>
    rw [h.resume_hidden hidden] at hid ⊢
    exact (spent_of_watermark hid rfl le_rfl).reduceSettlement_eq
  | retryParked i r _ shown =>
    refine Spent.reduceSettlement_eq ⟨hid, rfl, by simp [supersedesAbandonedRegistration], ?_⟩
    simp [reduceActive, Event.recoveryRevision, Event.isRetry, shown]
  | superseded =>
    refine reduceWithin_of_ignored (fun hadmits => hadmits.available rfl) (fun hsel => ?_) ?_ 1
    · exact false_ne_true hsel.eligibility
    · rw [hid]
      simp

theorem spent_of_reduceParked (h : Coherent p) (ha : Admits p e) (hq : p.reduceParked e = some q) :
    reduceSettlement q e = some q := by
  have hsup := h.supported
  -- a draft parked before its submission leaves no room for one in front of it
  have busy : ∀ d phase, p.parkedIn d phase → phase ≠ .submitted →
      p.effectiveState ≠ .awaitingAuthorization ∧ p.effectiveState ≠ .submitting := by
    intro d phase hd hphase
    constructor <;> intro hstate <;> rw [hstate] at hsup <;>
      exact false_ne_true ((parkedIn_eq_false hsup.2 d hphase).symm.trans hd)
  have spent : ∀ q : Projection, q.identity = p.identity → q.reduceParked e = none →
      q.supersedesAbandonedRegistration e = false → e.recoveryRevision = none →
      q.applyEvent q e = none → reduceSettlement q e = some q := fun q hid hp hk he happly =>
    Spent.reduceSettlement_eq ⟨hid.trans ha.identity_eq, hp, hk, noop_of_applyEvent he happly⟩
  cases reduceParked_cases hq with
  | submitted i d t hd =>
    obtain ⟨-, hstate⟩ := busy d _ hd (by decide)
    obtain ⟨r, hr, -⟩ := parkedIn_iff.mp hd
    refine spent _ rfl ?_ (by simp [supersedesAbandonedRegistration]) rfl ?_
    · simp [reduceParked, parkedIn, updateParked, hr, Registration.submit]
    · have : (p.updateParked (·.submit t)).effectiveState ≠ .submitting := hstate
      simp [applyEvent, this]
  | authorized i d hd =>
    obtain ⟨hstate, -⟩ := busy d _ hd (by decide)
    obtain ⟨r, hr, -⟩ := parkedIn_iff.mp hd
    refine spent _ rfl ?_ (by simp [supersedesAbandonedRegistration]) rfl ?_
    · simp [reduceParked, parkedIn, updateParked, hr, Registration.authorize]
    · have : (p.updateParked (·.authorize)).effectiveState ≠ .awaitingAuthorization := hstate
      simp [applyEvent, this]
  | withdrawn i d hd | rejected i d hd =>
    obtain ⟨hstate, -⟩ := busy d _ hd (by decide)
    refine spent _ rfl rfl (by simp [supersedesAbandonedRegistration]) rfl ?_
    have : { p with abandonedRegistration := none }.effectiveState ≠ .awaitingAuthorization :=
      hstate
    simp [applyEvent, this]
  | backedOut i d hd =>
    obtain ⟨hstate, -⟩ := busy d _ hd (by decide)
    refine spent _ rfl rfl (by simp [supersedesAbandonedRegistration]) rfl ?_
    have hkeep : ¬ (p.canCancel ∧ p.hasDraft d) := fun hc =>
      hstate (h.awaiting_of_canCancel hc.1 hc.2)
    exact if_neg hkeep

end Duplicates

/-- **Duplicate delivery is a no-op.** -/
theorem duplicate_ignored {p q : Projection} {e : Event} (h : Reachable p)
    (hq : reduceSettlement p e = some q) : reduceSettlement q e = some q := by
  have hc := coherent_of_reachable h
  cases reduceSettlement_cases hc.fresh hq with
  | ignored => exact hq
  | selected i r b he =>
    subst he
    refine Spent.reduceSettlement_eq ⟨rfl, rfl, rfl, noop_of_applyEvent rfl ?_⟩
    simp [applyEvent, selected, setState]
  | parked q ha hp => exact spent_of_reduceParked hc ha hp
  | active q ha hs hstep => exact spent_of_activeStep hc ha hs hstep
  | restored q ha hs hs' hstep =>
    have hid : p.identity ≠ none := ha.identity_ne_none
    exact spent_of_activeStep (hc.restoreAbandoned hid hs) (ha.restoreAbandoned hs) hs' hstep

theorem duplicate_ignored_swap : reduceSettlement (after includedParked)
      (.finalityObserved identity transaction 5) = some (after includedParked) :=
  duplicate_ignored (p := after (resubmitted otherTransaction ++
      [.registrationReconciled identity otherTransaction 4 .included]))
    (reachable_after _ (by decide +kernel)) (by decide +kernel)

end Oxid.Wallet.DustRegistration
