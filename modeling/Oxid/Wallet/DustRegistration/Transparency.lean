import Oxid.Wallet.DustRegistration.Outage

/-!
# Outages are transparent

Events during an outage do to the hidden state what they would have done to the visible one:
a simulation between two runs over the same events, one of them behind an outage.
-/

namespace Oxid.Wallet.DustRegistration

open Projection Transition Option Bool

inductive Hidden (k : State) (w : UInt64) (x : Projection) : Projection → Prop
  | covered (live : x.state.isSettled) (calm : x.pendingRetryRevision = none) :
      Hidden k w x (x.covered k w)
  | closed (terminal : x.state = .cancelled ∨ x.state = .unavailable)
      (calm : x.pendingRetryRevision = none) : Hidden k w x { x with recoveryRevision := w }

section Covered
variable {k : State} {w : UInt64} {x y : Projection} {e : Event}

/-! ## Guards and writes behind an outage -/

section
variable (hk : k.isRecoverable)
include hk

section
variable (hx : x.state.isRecoverable = false)
include hx

theorem covered_setEffectiveState (s : State) :
    (x.covered k w).setEffectiveState s = (x.setEffectiveState s).covered k w := by
  simp [covered, Projection.setEffectiveState, hk, hx, setState, effectiveState]

theorem canCancel_covered : (x.covered k w).canCancel = x.canCancel := by
  have hpre : canCancel.isPreSubmission k = false := by
    cases k <;> first | rfl | cases hk
  simp [canCancel, covered, hk, hx, hpre, effectiveState_of_not_recoverable hx,
    hasSubmittedRegistration]

theorem covered_restoreAbandoned :
    (x.covered k w).restoreAbandoned = x.restoreAbandoned.covered k w := by
  rw [restoreAbandoned, restoreAbandoned, ← covered_setEffectiveState hk (by exact hx)]
  rfl

theorem hidden_setEffectiveState (hm : x.pendingRetryRevision = none) {s} (hs : s.isSettled) :
    Hidden k w (x.setEffectiveState s) ((x.covered k w).setEffectiveState s) := by
  rw [covered_setEffectiveState hk hx]
  refine .covered ?_ (by simpa using hm)
  simpa [Projection.setEffectiveState, hx, setState] using hs

end

theorem hidden_applyEvent (h : Coherent x)
    (hlive : x.state.isSettled) (hm : x.pendingRetryRevision = none)
    (hid : x.identity ≠ none) (he : e.recoveryRevision = none) :
    Option.Rel (Hidden k w) (x.applyEvent x e) ((x.covered k w).applyEvent (x.covered k w) e) := by
  have hx := State.not_recoverable_of_isSettled hlive
  have heff : (x.covered k w).effectiveState = x.effectiveState := effectiveState_covered hk
  have hcov : Coherent (x.covered k w) :=
    h.cover hid hk (by rwa [effectiveState_of_not_recoverable hx]) w
  have hidle : (x.covered k w).isIdle = x.isIdle := by simp only [isIdle, heff]
  have hobs : (x.covered k w).observesChain = x.observesChain := by simp only [observesChain, heff]
  have hcancel := canCancel_covered (w := w) hk hx
  -- the arms that write the effective state
  have writes : ∀ (y : Projection) (s : State), y.state = x.state → y.pendingRetryRevision = none →
      s.isSettled →
      Option.Rel (Hidden k w) (some (y.setEffectiveState s))
        (some ((y.covered k w).setEffectiveState s)) := fun y s hy hmy hs =>
    .some (hidden_setEffectiveState hk (by rwa [hy]) hmy hs)
  have keeps : ∀ y : Projection, y.state = x.state → y.pendingRetryRevision = none →
      Option.Rel (Hidden k w) (some y) (some (y.covered k w)) := fun y hy hmy =>
    .some (.covered (by rwa [hy]) hmy)
  have closes : ∀ (y : Projection) (s : State), s = .cancelled ∨ s = .unavailable →
      y.pendingRetryRevision = none →
      Option.Rel (Hidden k w) (some (y.setState s)) (some ((y.covered k w).setState s)) := by
    intro y s hs hmy
    have heq : (y.covered k w).setState s = { y.setState s with recoveryRevision := w } := by
      simp [covered, setState, hmy]
    rw [heq]
    exact .some (.closed hs hmy)
  cases e with
  | eligibility i r b =>
    refine rel_ite Iff.rfl (fun hn => absurd hn hid) fun _ =>
      rel_ite Iff.rfl (fun _ => .none) fun _ => ?_
    rw [h.applyEligibility_eq, hcov.applyEligibility_eq, heff]
    refine writes { x with checkpoint := some ⟨i, r, b⟩ } _ rfl hm ?_
    exact isSettled_applyEligibilityTo (by rwa [effectiveState_of_not_recoverable hx]) b
  | registrationAlreadyCurrent i r =>
    refine rel_ite (by rw [heff]; rfl) (fun _ => ?_) fun _ => .none
    exact writes { x with preparationRevision := r, registration := none } .ready rfl hm rfl
  | authorizationRequested i d r =>
    refine rel_ite (by rw [heff]; rfl) (fun _ => ?_) fun _ =>
      rel_ite (by rw [heff]; rfl) (fun _ => ?_) fun _ => .none
    · exact writes { x with
        preparationRevision := r
        abandonedRegistration :=
          if x.registrationIsAbandoned then x.registration else x.abandonedRegistration
        registration := some (pendingRegistration d) } .awaitingAuthorization rfl hm rfl
    · exact keeps { x with
        preparationRevision := r
        registration := some (pendingRegistration d) } rfl hm
  | authorizationSucceeded =>
    refine rel_ite (by rw [heff]; rfl) (fun _ => ?_) fun _ =>
      rel_ite (by rw [heff]; rfl) (fun _ => ?_) fun _ => .none
    · exact writes x.takeParked .notEligible rfl hm rfl
    · exact writes (x.updateActive (·.authorize)) .submitting rfl hm rfl
  | authorizationRejected =>
    refine rel_ite (by rw [heff]; rfl) (fun _ => ?_) fun _ => .none
    exact writes x.takeParked _ rfl hm (isSettled_latestEligibilityState x)
  | submissionAccepted i d t =>
    refine rel_ite (by rw [heff]; rfl) (fun _ => ?_) fun _ => .none
    exact writes (x.updateActive (·.submit t)) .confirming rfl hm rfl
  | finalityObserved i t v =>
    have hacc : (x.covered k w).acceptsFinality t v = x.acceptsFinality t v := by
      rw [acceptsFinality, hobs, hidle]
      rfl
    refine rel_ite (by rw [hacc]) (fun accepted => ?_) fun _ => .none
    obtain ⟨r, hr, -⟩ := acceptsFinality_registration accepted
    rw [h.applyFinality_eq hr accepted,
      hcov.applyFinality_eq (p := x.covered k w) hr (hacc.trans accepted)]
    exact writes { x with registration := some (r.observeFinality v) } _ rfl hm
      (isSettled_trackedState _)
  | registrationReconciled i t v c =>
    have hacc : (x.covered k w).acceptsReconciliation t v c = x.acceptsReconciliation t v c := by
      rw [acceptsReconciliation, hobs]
      rfl
    refine rel_ite (by rw [hacc]) (fun accepted => ?_) fun _ => .none
    obtain ⟨r, hr, -⟩ := acceptsReconciliation_registration accepted
    by_cases hc : c = .dropped
    · subst hc
      rw [applyReconciliation_dropped hr, applyReconciliation_dropped (p := x.covered k w) hr]
      exact writes { x with registration := some (r.reconcile v .dropped) } _ rfl hm
        (isSettled_latestEligibilityState x)
    · rw [applyReconciliation_eq hr accepted hc,
        applyReconciliation_eq (p := x.covered k w) hr (hacc.trans accepted) hc]
      exact writes { x with registration := some (r.reconcile v c) } _ rfl hm
        (isSettled_trackedState _)
  | dustRefreshed i t v a b =>
    have hacc : (x.covered k w).acceptsDust t v = x.acceptsDust t v := by
      rw [acceptsDust, hobs]
      rfl
    refine rel_ite (by rw [hacc]) (fun accepted => ?_) fun _ => .none
    obtain ⟨r, hr, -⟩ := acceptsDust_registration accepted
    cases hi : x.isIdle with
    | false =>
      rw [h.applyDust_eq hr accepted hi,
        hcov.applyDust_eq (p := x.covered k w) hr (hacc.trans accepted) (hidle.trans hi)]
      exact writes { x with registration := some (r.refreshDust v a b) } _ rfl hm
        (isSettled_trackedState _)
    | true =>
      rw [applyDust_of_idle hr hi, applyDust_of_idle (p := x.covered k w) hr (hidle.trans hi)]
      split_ifs
      · exact writes { x with registration := some (r.refreshDust v a b) } .ready rfl hm rfl
      · exact keeps { x with registration := some (r.refreshDust v a b) } rfl hm
  | droppedRegistrationAbandoned i t a =>
    refine rel_ite (by rw [heff]; rfl) (fun _ => ?_) fun _ => .none
    exact keeps (x.updateActive (·.abandon a)) rfl hm
  | cancelled =>
    refine rel_ite (by rw [hcancel]; rfl) (fun _ => ?_) fun _ => .none
    refine rel_ite Iff.rfl (fun _ => ?_) fun _ => ?_
    · exact writes x.takeParked _ rfl hm (isSettled_latestEligibilityState x)
    · exact closes { x with registration := none } .cancelled (.inl rfl) hm
  | superseded =>
    exact closes { x with registration := none, abandonedRegistration := none } .unavailable
      (.inr rfl) hm
  | offline | timedOut | degraded | suspended | resumed | retry => cases he

/-! ## One step behind an outage -/

theorem hidden_reduceActive (h : Coherent x)
    (hlive : x.state.isSettled) (hm : x.pendingRetryRevision = none)
    (hid : x.identity ≠ none) (he : e.recoveryRevision = none) :
    Hidden k w (x.reduceActive e false) ((x.covered k w).reduceActive e false) := by
  rw [reduceActive_of_plain he, reduceActive_of_plain he]
  have hrel := hidden_applyEvent (w := w) hk h hlive hm hid he
  revert hrel
  cases x.applyEvent x e <;> cases (x.covered k w).applyEvent (x.covered k w) e <;> intro hrel
  · exact .covered hlive hm
  · cases hrel
  · cases hrel
  · cases hrel with
    | some hhidden => exact hhidden

end

theorem hidden_reduceParked (hlive : x.state.isSettled) (hm : x.pendingRetryRevision = none) :
    Option.Rel (Hidden k w) (x.reduceParked e) ((x.covered k w).reduceParked e) := by
  have keeps : ∀ parked, Option.Rel (Hidden k w) (some { x with abandonedRegistration := parked })
      (some ({ x with abandonedRegistration := parked }.covered k w)) := fun parked =>
    .some (.covered hlive hm)
  cases e with
  | submissionAccepted => exact rel_ite Iff.rfl (fun _ => keeps _) fun _ => .none
  | authorizationSucceeded =>
    refine rel_ite Iff.rfl (fun _ => ?_) fun _ => .none
    exact rel_ite Iff.rfl (fun _ => keeps none) fun _ => keeps _
  | authorizationRejected i d | cancelled i d =>
    exact rel_ite Iff.rfl (fun _ => keeps none) fun _ => .none
  | _ => exact .none

theorem admits_covered_iff (hk : k.isRecoverable) (hlive : x.state.isSettled) :
    Admits (x.covered k w) e ↔ Admits x e := by
  have recoverable : k ≠ .unavailable ∧ k ≠ .cancelled := by
    constructor <;> rintro rfl <;> cases hk
  have live : x.state ≠ .unavailable ∧ x.state ≠ .cancelled := by
    constructor <;> intro hs <;> rw [hs] at hlive <;> cases hlive
  constructor
  · exact fun ha => ⟨ha.identity_eq, live.1, fun hc => absurd hc live.2⟩
  · exact fun ha => ⟨ha.identity_eq, recoverable.1, fun hc => absurd hc recoverable.2⟩

theorem selects_covered_iff (hk : k.isRecoverable) (hlive : x.state.isSettled) :
    Selects (x.covered k w) e ↔ Selects x e := by
  have hne : k ≠ .unavailable := by rintro rfl; cases hk
  have live : x.state ≠ .unavailable := by intro hs; rw [hs] at hlive; cases hlive
  constructor
  · rintro ⟨helig, active, hactive, hother, hs | hgen⟩
    · exact absurd hs hne
    · exact ⟨helig, active, hactive, hother, .inr hgen⟩
  · rintro ⟨helig, active, hactive, hother, hs | hgen⟩
    · exact absurd hs live
    · exact ⟨helig, active, hactive, hother, .inr hgen⟩

theorem hidden_reduceSettlement_closed (hterminal : x.state = .cancelled ∨ x.state = .unavailable)
    (hm : x.pendingRetryRevision = none) (hid : x.identity ≠ none) (hs : ¬ Selects x e) :
    Option.Rel (Hidden k w) (reduceSettlement x e)
      (reduceSettlement { x with recoveryRevision := w } e) := by
  have hs' : ¬ Selects { x with recoveryRevision := w } e := fun h => hs ⟨h.eligibility, h.other⟩
  by_cases ha : Admits x e
  · have ha' : Admits { x with recoveryRevision := w } e :=
      ⟨ha.identity_eq, ha.available, ha.open_unless_superseded⟩
    have hsup := ha.open_unless_superseded (hterminal.resolve_right ha.available)
    cases e <;> simp only [Event.isSuperseded, false_eq_true] at hsup
    rw [reduceSettlement, reduceSettlement, reduceWithin_of_admits ha, reduceWithin_of_admits ha']
    have hkept : ∀ (y : Projection) (i : Identity),
        y.supersedesAbandonedRegistration (.superseded i) = false := by
      simp [supersedesAbandonedRegistration]
    simp only [reduceParked, none_or, hkept, false_eq_true, if_false]
    exact .some (.closed
      (x := { x with registration := none, abandonedRegistration := none }.setState .unavailable)
      (.inr rfl) hm)
  · have ha' : ¬ Admits { x with recoveryRevision := w } e := fun h =>
      ha ⟨h.identity_eq, h.available, h.open_unless_superseded⟩
    rw [reduceSettlement, reduceSettlement, reduceWithin_of_ignored ha hs hid,
      reduceWithin_of_ignored ha' hs' hid]
    exact .some (.closed hterminal hm)

theorem hidden_reduceSettlement (hk : k.isRecoverable) (h : Coherent x)
    (hxy : Hidden k w x y) (hid : x.identity ≠ none) (he : e.recoveryRevision = none)
    (hs : ¬ Selects x e) :
    Option.Rel (Hidden k w) (reduceSettlement x e) (reduceSettlement y e) := by
  cases hxy with
  | closed hterminal hm => exact hidden_reduceSettlement_closed hterminal hm hid hs
  | covered hlive hm =>
    have hx := State.not_recoverable_of_isSettled hlive
    by_cases ha : Admits x e
    · rw [reduceSettlement, reduceSettlement, reduceWithin_of_admits ha,
        reduceWithin_of_admits ((admits_covered_iff hk hlive).mpr ha)]
      have hparked := hidden_reduceParked (k := k) (w := w) (e := e) hlive hm
      revert hparked
      cases x.reduceParked e <;> cases (x.covered k w).reduceParked e <;> intro hparked
      · rw [none_or, none_or]
        refine rel_ite Iff.rfl (fun hsup => ?_) fun _ => ?_
        · -- the swap happens in front of the outage and behind it
          have hr := ha.restoreAbandoned hsup
          have hlive' : x.restoreAbandoned.state.isSettled := by
            simpa [restoreAbandoned, Projection.setEffectiveState, hx, setState] using
              isSettled_latestEligibilityState x
          rw [covered_restoreAbandoned hk hx, reduceWithin_of_admits hr,
            reduceWithin_of_admits ((admits_covered_iff hk hlive').mpr hr),
            reduceParked_of_supersedes hsup, reduceParked_of_supersedes hsup, none_or,
            none_or]
          refine rel_ite Iff.rfl (fun _ => .none) fun _ => .some ?_
          exact hidden_reduceActive hk (h.restoreAbandoned hid hsup) hlive'
            (by simpa [restoreAbandoned] using hm) (by simpa using hid) he
        · exact .some (hidden_reduceActive hk h hlive hm hid he)
      · cases hparked
      · cases hparked
      · cases hparked with
        | some hhidden => exact .some hhidden
    · rw [reduceSettlement, reduceSettlement, reduceWithin_of_ignored ha hs hid,
        reduceWithin_of_ignored (mt (admits_covered_iff hk hlive).mp ha)
          (mt (selects_covered_iff hk hlive).mp hs) hid]
      exact .some (.covered hlive hm)

theorem Hidden.selects (hk : k.isRecoverable) (hxy : Hidden k w x y) (hs : Selects x e) :
    reduceSettlement y e = reduceSettlement x e := by
  have hs' : Selects y e := by
    cases hxy with
    | covered hlive => exact (selects_covered_iff hk hlive).mpr hs
    | closed => exact ⟨hs.eligibility, hs.other⟩
  have helig := hs.eligibility
  cases e <;> simp only [Event.isEligibility, false_eq_true] at helig
  rw [reduceSettlement, reduceSettlement, reduceWithin_of_selects hs, reduceWithin_of_selects hs']

end Covered

/-! ## Whole runs behind an outage -/

structure Calm (x : Projection) : Prop where
  shown : x.state.isRecoverable = false
  unparked : x.pendingRetryRevision = none

def Reselects (p : Projection) (es : List Event) : Prop :=
  ∃ fs m, fs <+: es ∧ runEvents p fs = some m ∧ m.identity ≠ p.identity

section Runs
variable {k : State} {w : UInt64} {p x y : Projection} {e : Event} {es : List Event}

theorem Hidden.calm (h : Hidden k w x y) : Calm x := by
  cases h with
  | covered hlive hm => exact ⟨State.not_recoverable_of_isSettled hlive, hm⟩
  | closed hterminal hm =>
    refine ⟨?_, hm⟩
    rcases hterminal with hs | hs <;> rw [hs] <;> rfl

theorem Calm.exists_hidden (h : Calm x) (k : State) (w : UInt64) : ∃ y, Hidden k w x y := by
  cases hlive : x.state.isSettled with
  | true => exact ⟨_, .covered hlive h.unparked⟩
  | false =>
    refine ⟨_, .closed ?_ h.unparked⟩
    have := h.shown
    revert this hlive
    cases x.state <;> simp [State.isSettled, State.isRecoverable]

theorem calm_selected (i : Identity) (r : UInt64) (b : Bool) :
    Calm (selected Projection.default i r b) := by
  cases b
  · exact ⟨rfl, rfl⟩
  · exact ⟨rfl, rfl⟩

theorem identity_reduceSettlement {q} (h : Coherent x) (hq : reduceSettlement x e = some q) :
    q.identity = x.identity ∨ ∃ i r b, e = .eligibility i r b ∧
      q = selected Projection.default i r b ∧ (x = Projection.default ∨ Selects x e) := by
  cases reduceSettlement_cases h.fresh hq with
  | ignored => exact .inl rfl
  | selected i r b he hsel => exact .inr ⟨i, r, b, he, rfl, hsel⟩
  | parked q _ hp =>
    left
    cases e <;> simp only [reduceParked, reduceCtorEq] at hp <;> split_ifs at hp <;> cases hp <;>
      rfl
  | active q _ _ hstep => exact .inl hstep.identity_eq
  | restored q _ _ _ hstep => exact .inl (hstep.identity_eq.trans (identity_restoreAbandoned x))

theorem calm_reduceSettlement {q} (h : Coherent x) (hx : Calm x) (hid : x.identity ≠ none)
    (he : e.recoveryRevision = none) (hq : reduceSettlement x e = some q) : Calm q := by
  by_cases hs : Selects x e
  · have helig := hs.eligibility
    cases e <;> simp only [Event.isEligibility, false_eq_true] at helig
    rw [reduceSettlement, reduceWithin_of_selects hs, some.injEq] at hq
    exact hq ▸ calm_selected _ _ _
  · obtain ⟨y, hy⟩ := hx.exists_hidden .offline 0
    have hrel := hidden_reduceSettlement rfl h hy hid he hs
    rw [hq] at hrel
    generalize reduceSettlement y e = z at hrel
    cases hrel with
    | some hhidden => exact hhidden.calm

def InStep (k : State) (w : UInt64) (p : Projection) (es : List Event) (x y : Projection) : Prop :=
  Hidden k w x y ∧ x.identity = p.identity ∨ y = x ∧ Calm x ∧ x.identity ≠ none ∧ Reselects p es

theorem Reselects.concat (h : Reselects p es) (e : Event) : Reselects p (es ++ [e]) := by
  obtain ⟨fs, m, hfs, hm, hne⟩ := h
  exact ⟨fs, m, hfs.trans (List.prefix_append es [e]), hm, hne⟩

theorem inStep_reduceSettlement (hk : k.isRecoverable) (hid : p.identity ≠ none)
    (hx : runEvents p es = some x) (h : Coherent x) (hxy : InStep k w p es x y)
    (he : e.recoveryRevision = none) :
    Option.Rel (InStep k w p (es ++ [e])) (reduceSettlement x e) (reduceSettlement y e) := by
  rcases hxy with ⟨hhidden, hsame⟩ | ⟨rfl, hcalm, hne, hreselects⟩
  · rw [← hsame] at hid
    by_cases hs : Selects x e
    · rw [hhidden.selects hk hs]
      obtain ⟨active, hactive, hother, -⟩ := hs.other
      have helig := hs.eligibility
      cases e <;> simp only [Event.isEligibility, false_eq_true] at helig
      case eligibility i r b =>
        have hq : reduceSettlement x (.eligibility i r b) =
            some (selected Projection.default i r b) := reduceWithin_of_selects hs 1
        rw [hq]
        refine .some (.inr ⟨rfl, calm_selected i r b, by simp [selected, setState], ?_⟩)
        refine ⟨_, _, List.prefix_rfl, run_concat_eq_some.mpr ⟨x, hx, hq⟩, ?_⟩
        rw [← hsame, hactive]
        exact fun heq => hother (some.inj heq)
    · have hrel := hidden_reduceSettlement hk h hhidden hid he hs
      cases hq : reduceSettlement x e with
      | none =>
        rw [hq] at hrel
        generalize reduceSettlement y e = z at hrel
        cases hrel
        exact .none
      | some q =>
        have hkept : q.identity = x.identity := by
          rcases identity_reduceSettlement h hq with heq | ⟨_, _, _, _, _, rfl | hsel⟩
          · exact heq
          · exact absurd rfl hid
          · exact absurd hsel hs
        rw [hq] at hrel
        generalize reduceSettlement y e = z at hrel
        cases hrel with
        | some hhidden' => exact .some (.inl ⟨hhidden', hkept.trans hsame⟩)
  · cases hq : reduceSettlement y e with
    | none => exact .none
    | some =>
      refine .some (.inr ⟨rfl, calm_reduceSettlement h hcalm hne he hq, ?_, hreselects.concat e⟩)
      rcases identity_reduceSettlement h hq with heq | ⟨i, r, b, -, rfl, -⟩
      · rwa [heq]
      · simp [selected, setState]

theorem inStep_runEvents (hk : k.isRecoverable) (h : Coherent p)
    (hlive : p.state.isSettled) (hm : p.pendingRetryRevision = none)
    (hid : p.identity ≠ none) (hes : ∀ e ∈ es, e.recoveryRevision = none) :
    Option.Rel (InStep k w p es) (runEvents p es) (runEvents (p.covered k w) es) :=
  run_rel (.inl ⟨.covered hlive hm, rfl⟩)
    (fun _ _ _ _ hx hxy he =>
      inStep_reduceSettlement hk hid hx (coherent_runEvents h hx) hxy he) es hes

/-! ## The end of the outage -/

theorem reduceSettlement_of_recovery_ignored {r} (ha : ¬ Admits x e) (hid : x.identity ≠ none)
    (he : e.recoveryRevision = some r) : reduceSettlement x e = some x := by
  refine reduceWithin_of_ignored ha (fun hs => ?_) hid 1
  have helig := hs.eligibility
  cases e <;> first | (cases helig; done) | cases he

theorem Calm.resumed (hx : Calm x) (h : Coherent x) (hid : x.identity ≠ none) (i : Identity)
    (r : UInt64) :
    ∃ v, reduceSettlement x (.resumed i r) = some { x with recoveryRevision := v } := by
  by_cases ha : Admits x (.resumed i r)
  · rw [reduceSettlement_of_recovery ha rfl]
    by_cases hstale : r ≤ x.recoveryRevision
    · exact ⟨x.recoveryRevision, by rw [reduceActive_of_stale rfl hstale]⟩
    · refine ⟨r, ?_⟩
      have hfilter : x.pendingRetryRevision.filter (r < ·) = none := by
        rw [hx.unparked, filter_none]
      rw [h.reduceActive_resumed (not_le.mp hstale), hfilter,
        h.uncovered_of_shown hx.shown hx.unparked]
  · exact ⟨x.recoveryRevision, reduceSettlement_of_recovery_ignored ha hid rfl⟩

theorem Calm.retry (hx : Calm x) (hid : x.identity ≠ none) (i : Identity) (r : UInt64) :
    reduceSettlement x (.retry i r) = some x ∨ x.identity = some i ∧
      reduceSettlement x (.retry i r) = some { x with pendingRetryRevision := some r } := by
  by_cases ha : Admits x (.retry i r)
  · rw [reduceSettlement_of_recovery ha rfl]
    by_cases hstale : r ≤ x.recoveryRevision
    · exact .inl (by rw [reduceActive_of_stale rfl hstale])
    · refine .inr ⟨ha.identity_eq, ?_⟩
      rw [reduceActive_retry_shown (not_le.mp hstale) hx.shown, hx.unparked]
      rfl
  · exact .inl (reduceSettlement_of_recovery_ignored ha hid rfl)

theorem reduceSettlement_covered (hk : k.isRecoverable) (h : Coherent x)
    (hlive : x.state.isSettled) (hm : x.pendingRetryRevision = none) {i}
    (hid : x.identity = some i) {r} (hr : w < r) :
    reduceSettlement (x.covered k w) (.resumed i r) = some { x with recoveryRevision := r } ∧
      reduceSettlement (x.covered k w) (.retry i r) = some { x with recoveryRevision := r } := by
  have hx := State.not_recoverable_of_isSettled hlive
  have hcov : Coherent (x.covered k w) :=
    h.cover (by simp [hid]) hk (by rwa [effectiveState_of_not_recoverable hx]) w
  have admits : ∀ e : Event, e.identity = i → Admits (x.covered k w) e := by
    rintro e rfl
    refine ⟨hid, ?_, ?_⟩ <;> rintro (rfl : k = _) <;> cases hk
  have hshow := h.uncovered_of_shown hx hm r
  constructor
  · rw [reduceSettlement_of_recovery (admits _ rfl) rfl, hcov.reduceActive_resumed hr,
      uncovered_covered hk, ← hshow]
    rfl
  · rw [reduceSettlement_of_recovery (admits _ rfl) rfl, hcov.reduceActive_retry_hidden hr hk,
      uncovered_covered hk, hshow]

theorem reduceSettlement_closed (hterminal : x.state = .cancelled ∨ x.state = .unavailable)
    (hid : x.identity ≠ none) {r} (he : e.recoveryRevision = some r) :
    reduceSettlement { x with recoveryRevision := w } e =
      some { x with recoveryRevision := w } := by
  refine reduceSettlement_of_recovery_ignored (fun ha => ?_) hid he
  rcases hterminal with hs | hs
  · have := ha.open_unless_superseded hs
    rw [Event.isSuperseded_of_recovery (by rw [he]; rfl)] at this
    cases this
  · exact ha.available hs

end Runs

def Projection.forgetRevision (x : Projection) : Projection := { x with recoveryRevision := 0 }

/-- **Recoverable outages are transparent.**  The same events with and without an outage around them
give one projection, up to the recovery watermark, if a resume ends the outage; if a retry does,
unless they replaced the identity and selected it again. -/
theorem outage_transparent {p : Projection} {i : Identity} (h : Reachable p)
    (hid : p.identity = some i) (hshown : p.state.isRecoverable = false)
    (hcancelled : p.state ≠ .cancelled) (hunavailable : p.state ≠ .unavailable)
    (hpending : p.pendingRetryRevision = none) {o : Event} {k : State}
    (hoi : o.identity = i) (hok : o.outage = some k) {r r' : UInt64}
    (hor : o.recoveryRevision = some r) (hr : p.recoveryRevision < r) (hr' : r < r')
    (es : List Event) (hes : ∀ e ∈ es, e.recoveryRevision = none) :
    (runEvents p (o :: es ++ [.resumed i r'])).map forgetRevision =
        (runEvents p es).map forgetRevision ∧
      Option.Rel (fun x y => y.forgetRevision = x.forgetRevision ∨
          x.identity = p.identity ∧ Reselects p es ∧
            y.forgetRevision = { x with pendingRetryRevision := some r' }.forgetRevision)
        (runEvents p es) (runEvents p (o :: es ++ [.retry i r'])) := by
  have hcoherent := coherent_of_reachable h
  have hk := Event.isRecoverable_of_outage hok
  have hlive : p.state.isSettled := by
    have := hcoherent.isSettled_effectiveState hunavailable hcancelled
    rwa [effectiveState_of_not_recoverable hshown] at this
  have hne : p.identity ≠ none := by simp [hid]
  have houtage : reduceSettlement p o = some (p.covered k r) := by
    have ha : Admits p o := ⟨by rw [hid, hoi], hunavailable, fun hc => absurd hc hcancelled⟩
    rw [reduceSettlement_of_recovery ha hor, reduceActive_outage hok hor hr,
      hcoherent.outage_shown k (by simp [hpending])]
  -- the outage comes first, and what ends it meets the run behind it
  have split : ∀ e, runEvents p (o :: es ++ [e]) =
      (runEvents (p.covered k r) es).bind fun y => reduceSettlement y e := by
    intro e
    simp only [runEvents, List.cons_append, run_cons, houtage, bind_some,
      run_append, run_nil, bind_fun_some]
  rw [split, split]
  have hrel := inStep_runEvents (w := r) hk hcoherent hlive hpending hne hes
  cases hx : runEvents p es with
  | none =>
    rw [hx] at hrel
    generalize runEvents (p.covered k r) es = z at hrel
    cases hrel
    exact ⟨rfl, .none⟩
  | some x =>
    rw [hx] at hrel
    have hxc := coherent_runEvents hcoherent hx
    generalize runEvents (p.covered k r) es = z at hrel
    cases hrel with
    | some hstep =>
      rw [bind_some, bind_some]
      rcases hstep with ⟨hhidden, hsame⟩ | ⟨rfl, hcalm, hxid, hreselects⟩
      · have hxi : x.identity = some i := hsame.trans hid
        cases hhidden with
        | covered hlive' hm' =>
          obtain ⟨hresumed, hretried⟩ := reduceSettlement_covered hk hxc hlive' hm' hxi hr'
          rw [hresumed, hretried]
          exact ⟨rfl, .some (.inl rfl)⟩
        | closed hterminal =>
          have hxid : x.identity ≠ none := by simp [hxi]
          rw [reduceSettlement_closed hterminal hxid rfl,
            reduceSettlement_closed hterminal hxid rfl]
          exact ⟨rfl, .some (.inl rfl)⟩
      · constructor
        · obtain ⟨v, hv⟩ := hcalm.resumed hxc hxid i r'
          rw [hv]
          rfl
        · rcases hcalm.retry hxid i r' with hv | ⟨hxi, hv⟩
          · rw [hv]
            exact .some (.inl rfl)
          · rw [hv]
            exact .some (.inr ⟨hxi.trans hid.symm, hreselects, rfl⟩)

theorem outage_transparent_included :
    (runEvents (Sample.after Sample.confirming) [.offline Sample.identity 1,
        .finalityObserved Sample.identity Sample.transaction 2,
        .registrationReconciled Sample.identity Sample.transaction 3 .included,
        .resumed Sample.identity 2]).map forgetRevision =
      (runEvents (Sample.after Sample.confirming)
        [.finalityObserved Sample.identity Sample.transaction 2,
          .registrationReconciled Sample.identity Sample.transaction 3 .included]).map
        forgetRevision :=
  (outage_transparent (p := Sample.after Sample.confirming) (i := Sample.identity)
    (o := .offline Sample.identity 1) (Sample.reachable_after _ (by decide +kernel))
    (by decide +kernel) (by decide +kernel) (by decide +kernel) (by decide +kernel)
    (by decide +kernel) rfl rfl rfl (by decide +kernel) (by decide)
    [.finalityObserved Sample.identity Sample.transaction 2,
      .registrationReconciled Sample.identity Sample.transaction 3 .included]
    (by decide)).1

namespace Sample

def otherRealm : Identity :=
  { identity with realm := ⟨"preprod", by decide, by decide, by decide, by decide⟩ }

def roundTrip : List Event :=
  [.superseded identity, .eligibility otherRealm 1 true, .superseded otherRealm,
    .eligibility identity 1 true]

end Sample

open Sample hiding identity

/-- An outage during which the wallet leaves its realm and comes back: the retry
that answers the outage stays parked. -/
theorem retry_left_parked_after_round_trip :
    Reachable (after [.eligibility Sample.identity 1 true]) ∧
    (after [.eligibility Sample.identity 1 true]).identity = some Sample.identity ∧
    (after [.eligibility Sample.identity 1 true]).state = .actionRequired ∧
    (after [.eligibility Sample.identity 1 true]).pendingRetryRevision = none ∧
    (after [.eligibility Sample.identity 1 true]).recoveryRevision < 1 ∧
    (∀ e ∈ roundTrip, e.recoveryRevision = none) ∧
    (runEvents (after [.eligibility Sample.identity 1 true])
        (.offline Sample.identity 1 :: roundTrip ++ [.retry Sample.identity 2])).map
        forgetRevision ≠ (runEvents (after [.eligibility Sample.identity 1 true]) roundTrip).map
        forgetRevision :=
  ⟨reachable_after _ (by decide +kernel), by decide +kernel, by decide +kernel,
    by decide +kernel, by decide +kernel, by decide, by decide +kernel⟩

end Oxid.Wallet.DustRegistration
