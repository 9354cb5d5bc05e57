import Mathlib.Data.List.Pairwise
import Oxid.Wallet.DustRegistration.Coherence

/-!
# Chain observations commute

While one submitted registration is followed and none is parked, a chain observation only
updates that registration, and each kind keeps its latest revision.  Of two observations of
one kind and revision the reducer keeps the first.
-/

namespace Oxid.Wallet.DustRegistration

open Projection Option List

/-- What the chain reports of a followed registration.  A reconciliation is one
that is pending or included; a drop ends the following. -/
inductive Observation
  | finality (revision : UInt64)
  | reconciled (revision : UInt64) (included : Bool)
  | dust (revision afterObservationRevision : UInt64) (ready : Bool)

namespace Observation

def event (i : Identity) (t : ChainTransactionId) : Observation → Event
  | finality v => .finalityObserved i t v
  | reconciled v b => .registrationReconciled i t v (if b then .included else .pending)
  | dust v a b => .dustRefreshed i t v a b

def isNewer (r : Registration) : Observation → Bool
  | finality v => r.finalityRevision < v
  | reconciled v _ => r.reconciliationRevision < v
  | dust v _ _ => r.dustRevision < v

def record (r : Registration) : Observation → Registration
  | finality v => r.observeFinality v
  | reconciled v b => r.reconcile v (if b then .included else .pending)
  | dust v a b => r.refreshDust v a b

def observe (r : Registration) (o : Observation) : Registration :=
  if o.isNewer r then o.record r else r

def Apart : Observation → Observation → Prop
  | finality v, finality v' => v ≠ v'
  | reconciled v _, reconciled v' _ => v ≠ v'
  | dust v _ _, dust v' _ _ => v ≠ v'
  | _, _ => True

variable {r : Registration}

@[simp] theorem transactionId_observe (o : Observation) :
    (observe r o).transactionId = r.transactionId := by
  simp only [observe]
  split_ifs
  · cases o <;> rfl
  · rfl

theorem abandonmentRevision_observe (h : r.abandonmentRevision = 0) (o : Observation) :
    (observe r o).abandonmentRevision = 0 := by
  simp only [observe]
  split_ifs
  · cases o
    · rfl
    · rfl
    · exact h
  · exact h

theorem observe_comm {a b} (h : a.Apart b) (r : Registration) :
    observe (observe r a) b = observe (observe r b) a := by
  cases a <;> cases b <;>
    simp only [observe, isNewer, record, Registration.observeFinality, Registration.reconcile,
      Registration.refreshDust, Apart] at h ⊢ <;>
    grind

end Observation

structure Follows (p : Projection) (i : Identity) (t : ChainTransactionId) (r : Registration) :
    Prop where
  coherent : Coherent p
  identity : p.identity = some i
  registration : p.registration = some r
  transaction : r.transactionId = some t
  notAbandoned : r.abandonmentRevision = 0
  unparked : p.abandonedRegistration = none
  tracked : p.effectiveState = r.trackedState

namespace Projection

def following (p : Projection) (r : Registration) : Projection :=
  { p with registration := some r }.setEffectiveState r.trackedState

end Projection

namespace Follows
variable {p : Projection} {i : Identity} {t : ChainTransactionId} {r : Registration}

theorem observesChain (h : Follows p i t r) : p.observesChain ∧ p.isIdle = false := by
  simp only [Projection.observesChain, isIdle, h.tracked]
  rcases r.trackedState_cases with hs | hs | hs <;> simp [hs]

theorem admits (h : Follows p i t r) (o : Observation) : Admits p (o.event i t) := by
  have visible : ∀ s : State, s.isRecoverable = false → s.isSettled = false → p.state ≠ s := by
    rintro s hrec hset rfl
    have := isSettled_trackedState r
    rw [← h.tracked, effectiveState_of_not_recoverable hrec, hset] at this
    cases this
  refine ⟨?_, visible _ rfl rfl, fun hc => absurd hc (visible _ rfl rfl)⟩
  rw [h.identity]
  cases o <;> rfl

theorem following_self (h : Follows p i t r) : p.following r = p := by
  have hp : { p with registration := some r } = p := by rw [← h.registration]
  rw [following, ← h.tracked, hp]
  exact h.coherent.setEffectiveState_same ⟨rfl, rfl, rfl, rfl, rfl⟩

theorem following_following (p : Projection) (r r' : Registration) :
    (p.following r).following r' = p.following r' := by
  cases hs : p.state.isRecoverable with
  | true => simp [following, setEffectiveState, hs]
  | false =>
    have hrec := State.not_recoverable_of_isSettled (isSettled_trackedState r)
    simp [following, setEffectiveState, setState, hs, hrec]

section
variable (h : Follows p i t r)
include h

open Observation

theorem applyEvent_eq (o : Observation) (hnewer : o.isNewer r) :
    p.applyEvent p (o.event i t) = some (p.following (o.record r)) := by
  obtain ⟨hobs, hidle⟩ := h.observesChain
  have htx : p.hasTransaction t := hasTransaction_iff.mpr ⟨r, h.registration, h.transaction⟩
  cases o with
  | finality v =>
    have hv : r.finalityRevision < v := by simpa [isNewer] using hnewer
    have hpos : 0 < v := by grind
    have hacc : p.acceptsFinality t v := by
      simp [acceptsFinality, hobs, htx, h.registration, hv, h.notAbandoned, hidle, hpos]
    rw [event, applyEvent, if_pos hacc, h.coherent.applyFinality_eq h.registration hacc]
    rfl
  | reconciled v b =>
    have hv : r.reconciliationRevision < v := by simpa [isNewer] using hnewer
    have hpos : 0 < v := by grind
    have hkept : (if b then Reconciliation.included else .pending) ≠ .dropped := by
      cases b <;> decide
    have hacc : p.acceptsReconciliation t v (if b then .included else .pending) := by
      simp [acceptsReconciliation, hobs, htx, h.registration, hv, h.notAbandoned, hkept, hpos]
    rw [event, applyEvent, if_pos hacc, applyReconciliation_eq h.registration hacc hkept]
    rfl
  | dust v =>
    have hv : r.dustRevision < v := by simpa [isNewer] using hnewer
    have hacc : p.acceptsDust t v := by
      simp [acceptsDust, hobs, htx, h.registration, hv]
    rw [event, applyEvent, if_pos hacc, h.coherent.applyDust_eq h.registration hacc hidle]
    rfl

theorem applyEvent_eq_none (o : Observation) (hstale : o.isNewer r = false) :
    p.applyEvent p (o.event i t) = none := by
  cases o <;> simp only [isNewer, decide_eq_false_iff_not, not_lt] at hstale
  · simp [event, applyEvent, acceptsFinality_of_le h.registration hstale]
  · simp [event, applyEvent, acceptsReconciliation_of_le h.registration hstale]
  · simp [event, applyEvent, acceptsDust_of_le h.registration hstale]

theorem reduceSettlement_eq (o : Observation) :
    reduceSettlement p (o.event i t) = some (p.following (o.observe r)) := by
  have hparked : p.reduceParked (o.event i t) = none := by cases o <;> rfl
  have hkept : p.supersedesAbandonedRegistration (o.event i t) = false := by
    simp [supersedesAbandonedRegistration, h.unparked]
  have hplain : (o.event i t).recoveryRevision = none := by cases o <;> rfl
  rw [reduceSettlement, reduceWithin_of_admits (h.admits o), hparked, none_or, hkept,
    if_neg Bool.false_ne_true, reduceActive_of_plain hplain, observe]
  split_ifs with hnewer
  · rw [h.applyEvent_eq o hnewer, getD_some]
  · rw [h.applyEvent_eq_none o (Bool.eq_false_iff.mpr hnewer), getD_none, h.following_self]

theorem observe (o : Observation) : Follows (p.following (o.observe r)) i t (o.observe r) where
  coherent := coherent_reduceSettlement h.coherent (h.reduceSettlement_eq o)
  identity := by simpa [following] using h.identity
  registration := by simp [following]
  transaction := by simpa using h.transaction
  notAbandoned := abandonmentRevision_observe h.notAbandoned o
  unparked := by simpa [following] using h.unparked
  tracked := by simp [following]

theorem runEvents_eq (os : List Observation) :
    runEvents p (os.map (·.event i t)) = some (p.following (os.foldl Observation.observe r)) := by
  -- the induction follows the registration through the list
  induction os generalizing p r with
  | nil => rw [map_nil, foldl_nil, h.following_self]; rfl
  | cons o _ ih =>
    rw [map_cons, runEvents, Transition.run_cons, h.reduceSettlement_eq, bind_some, foldl_cons]
    have hrest := ih (h.observe o)
    rwa [following_following] at hrest

end

end Follows

theorem follows_of_reachable {p i t r} (h : Reachable p) (hid : p.identity = some i)
    (hr : p.registration = some r) (ht : r.transactionId = some t)
    (habandon : r.abandonmentRevision = 0) (hparked : p.abandonedRegistration = none)
    (hstate : p.effectiveState = .confirming ∨ p.effectiveState = .reconciling ∨
      p.effectiveState = .ready) : Follows p i t r := by
  have hcoherent := coherent_of_reachable h
  have hobs : p.observesChain ∧ p.isIdle = false := by
    simp only [observesChain, isIdle]
    rcases hstate with hs | hs | hs <;> simp [hs]
  refine ⟨hcoherent, hid, hr, ht, habandon, hparked, ?_⟩
  exact ((hcoherent.idle_or_tracked hr hobs.1).resolve_left (by simp [hobs.2])).2

/-- **Chain observations commute.**  Two observations of a followed registration, of different kinds
or revisions, give one projection in either order, visible or behind an outage. -/
theorem chain_observations_commute {p : Projection} {i : Identity} {t : ChainTransactionId}
    {r : Registration} (h : Reachable p) (hid : p.identity = some i)
    (hparked : p.abandonedRegistration = none) (hr : p.registration = some r)
    (ht : r.transactionId = some t) (habandon : r.abandonmentRevision = 0)
    (hstate : p.effectiveState = .confirming ∨ p.effectiveState = .reconciling ∨
      p.effectiveState = .ready) {a b : Observation} (hab : a.Apart b) :
    ∃ q, runEvents p [a.event i t, b.event i t] = some q ∧
      runEvents p [b.event i t, a.event i t] = some q := by
  have hfollows := follows_of_reachable h hid hr ht habandon hparked hstate
  refine ⟨_, hfollows.runEvents_eq [a, b], ?_⟩
  rw [foldl_cons, foldl_cons, foldl_nil, Observation.observe_comm hab]
  exact hfollows.runEvents_eq [b, a]

open Sample

theorem chain_observations_commute_offline :
    ∃ q, runEvents (after (confirming ++ [.offline identity 1]))
        [.finalityObserved identity transaction 2,
          .registrationReconciled identity transaction 3 .included] = some q ∧
      runEvents (after (confirming ++ [.offline identity 1]))
        [.registrationReconciled identity transaction 3 .included,
          .finalityObserved identity transaction 2] = some q :=
  chain_observations_commute (a := .finality 2) (b := .reconciled 3 true)
    (r := ((pendingRegistration draft).authorize).submit transaction)
    (reachable_after _ (by decide +kernel)) (by decide +kernel) (by decide +kernel)
    (by decide +kernel) rfl rfl (by decide +kernel) trivial

end Oxid.Wallet.DustRegistration
