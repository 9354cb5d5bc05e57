import Mathlib.Data.List.MinMax
import Mathlib.Data.List.Pairwise
import Oxid.Wallet.DustRegistration.Coherence

/-!
# Outages, resumes and retries in any order

They share one sequence of revisions.  A retry that arrives before the outage it answers is
parked, and settled when that outage arrives.  What is shown is decided by the event of the
largest revision so far.
-/

namespace Oxid.Wallet.DustRegistration

open Projection Option List

namespace Event

def revision (e : Event) : UInt64 := e.recoveryRevision.getD 0

theorem revision_eq {e : Event} {r : UInt64} (h : e.recoveryRevision = some r) :
    e.revision = r := by
  rw [revision, h, getD_some]

theorem recovery_cases {e : Event} {r : UInt64} (h : e.recoveryRevision = some r) :
    (∃ k, e.outage = some k) ∨ (∃ i, e = .resumed i r) ∨ ∃ i, e = .retry i r := by
  cases e <;> simp only [recoveryRevision, reduceCtorEq, some.injEq] at h <;> simp [outage, h]

end Event

open Event

section Arms
variable {p : Projection} {e : Event} {r : UInt64}

theorem reduceSettlement_of_recovery (ha : Admits p e) (he : e.recoveryRevision = some r) :
    reduceSettlement p e = some (p.reduceActive e false) := by
  have hparked : p.reduceParked e = none := by cases e <;> first | rfl | cases he
  have hkept : p.supersedesAbandonedRegistration e = false := by
    cases e <;> first | simp [supersedesAbandonedRegistration]; done | cases he
  rw [reduceSettlement, reduceWithin_of_admits ha, hparked, none_or, hkept,
    if_neg Bool.false_ne_true]

theorem Coherent.reduceActive_resumed (h : Coherent p) (hnew : p.recoveryRevision < r)
    (i : Identity) : p.reduceActive (.resumed i r) false =
      p.uncovered r (p.pendingRetryRevision.filter (r < ·)) := by
  rw [reduceActive_of_newer rfl hnew (by simp [Event.isRetry])]
  cases hrec : p.state.isRecoverable with
  | false =>
    rw [← h.resume_shown hrec]
    simp [finish, applyEvent, hrec, Event.recoveryRevision, Event.isRetry]
  | true =>
    have hfilter : p.pendingRetryRevision.filter (r < ·) = none := by
      rw [h.pendingRetryRevision_eq_none hrec, filter_none]
    rw [hfilter]
    simp only [finish, applyEvent, hrec, if_true, h.resume_hidden hrec, Event.recoveryRevision,
      Event.isRetry, isSome_some, Bool.not_false, Bool.and_self]
    rfl

theorem Coherent.reduceActive_retry_hidden (h : Coherent p) (hnew : p.recoveryRevision < r)
    (hrec : p.state.isRecoverable) (i : Identity) :
    p.reduceActive (.retry i r) false = p.uncovered r none := by
  rw [reduceActive_of_newer rfl hnew (by simp [hrec]), ← h.resume_hidden hrec]
  simp [finish, applyEvent, hrec, isRetry]

theorem reduceActive_retry_shown (hnew : p.recoveryRevision < r)
    (hrec : p.state.isRecoverable = false) (i : Identity) : p.reduceActive (.retry i r) false =
      if p.pendingRetryRevision.any (r ≤ ·) then p
      else { p with pendingRetryRevision := some r } := by
  simp [reduceActive, Event.recoveryRevision, Event.isRetry, not_le.mpr hnew, hrec]

end Arms

section Compose
variable {p : Projection} {k k' : State} {r r' : UInt64} {m m' : Option UInt64}

theorem covered_covered (hk : k.isRecoverable) :
    (p.covered k r).covered k' r' = p.covered k' r' := by
  rw [covered, effectiveState_covered hk]
  rfl

theorem uncovered_covered (hk : k.isRecoverable) :
    (p.covered k r).uncovered r' m = p.uncovered r' m := by
  rw [uncovered, effectiveState_covered hk]
  rfl

theorem covered_uncovered (hp : p.effectiveState.isRecoverable = false) :
    (p.uncovered r m).covered k r' = p.covered k r' := by
  rw [covered, effectiveState_uncovered hp]
  rfl

theorem uncovered_uncovered (hp : p.effectiveState.isRecoverable = false) :
    (p.uncovered r m).uncovered r' m' = p.uncovered r' m' := by
  rw [uncovered, effectiveState_uncovered hp]
  rfl

theorem Coherent.uncovered_of_shown (h : Coherent p) (hrec : p.state.isRecoverable = false)
    (hm : p.pendingRetryRevision = none) (r : UInt64) :
    p.uncovered r none = { p with recoveryRevision := r } := by
  rw [uncovered, effectiveState_of_not_recoverable hrec, ← h.resumeState_eq_none hrec, ← hm]

end Compose

/-! ## What recovery events lead to -/

inductive Behind (p : Projection) (m : UInt64) : Projection → Prop
  | covered (k w) (recoverable : k.isRecoverable) (bound : w ≤ m) :
      Behind p m (p.covered k w)
  | uncovered (w pending) (bound : w ≤ m) (pendingBound : ∀ n, pending = some n → n ≤ m) :
      Behind p m (p.uncovered w pending)

inductive After (p : Projection) : Event → Projection → Prop
  | outage (e k) (announces : e.outage = some k) : After p e (p.covered k e.revision)
  | resumed (i r) : After p (.resumed i r) (p.uncovered r none)
  | retried (i r) : After p (.retry i r) (p.uncovered r none)
  | waiting (i r w) (early : w < r) : After p (.retry i r) (p.uncovered w (some r))

section Sequence
variable {p q : Projection} {e f : Event} {r m : UInt64}

theorem After.behind (h : After p e q) : Behind p e.revision q := by
  cases h with
  | outage e k announces => exact .covered k _ (isRecoverable_of_outage announces) le_rfl
  | resumed i r => exact .uncovered r none le_rfl (by simp)
  | retried i r => exact .uncovered r none le_rfl (by simp)
  | waiting i r w early =>
    refine .uncovered w (some r) early.le ?_
    intro n hn
    exact (some.inj hn).ge

theorem Behind.admits (h : Behind p m q) (hset : p.effectiveState.isSettled)
    (hid : p.identity = some e.identity) : Admits q e := by
  cases h with
  | covered k w recoverable => refine ⟨hid, ?_, ?_⟩ <;> rintro (rfl : k = _) <;> cases recoverable
  | uncovered =>
    refine ⟨hid, ?_, ?_⟩ <;> intro hs <;>
      rw [show p.effectiveState = _ from hs] at hset <;> cases hset

theorem after_of_newer (hset : p.effectiveState.isSettled) (hb : Behind p m q)
    (hq : Coherent q) (hid : p.identity = some e.identity) (he : e.recoveryRevision = some r)
    (hm : m < r) : ∃ q', reduceSettlement q e = some q' ∧ After p e q' := by
  refine ⟨_, reduceSettlement_of_recovery (hb.admits hset hid) he, ?_⟩
  have hrec := State.not_recoverable_of_isSettled hset
  have hrev := revision_eq he
  cases hb with
  | covered k w recoverable bound =>
    have hnew : (p.covered k w).recoveryRevision < r := lt_of_le_of_lt bound hm
    rcases recovery_cases he with ⟨k', ho⟩ | ⟨i, rfl⟩ | ⟨i, rfl⟩
    · rw [reduceActive_outage ho he hnew, hq.outage_shown k' (by simp [covered]),
        covered_covered recoverable, ← hrev]
      exact .outage e k' ho
    · rw [hq.reduceActive_resumed hnew, uncovered_covered recoverable]
      exact .resumed i r
    · rw [hq.reduceActive_retry_hidden hnew recoverable, uncovered_covered recoverable]
      exact .retried i r
  | uncovered w pending bound pendingBound =>
    have hnew : (p.uncovered w pending).recoveryRevision < r := lt_of_le_of_lt bound hm
    have hpending : ∀ n, pending = some n → n < r := fun n hn =>
      lt_of_le_of_lt (pendingBound n hn) hm
    rcases recovery_cases he with ⟨k', ho⟩ | ⟨i, rfl⟩ | ⟨i, rfl⟩
    · rw [reduceActive_outage ho he hnew,
        hq.outage_shown k' (fun n hn => (hpending n hn).le), covered_uncovered hrec, ← hrev]
      exact .outage e k' ho
    · have hfilter : (p.uncovered w pending).pendingRetryRevision.filter (r < ·) = none := by
        rw [filter_eq_none_iff]
        intro n hn
        simpa using (hpending n hn).le
      rw [hq.reduceActive_resumed hnew, hfilter, uncovered_uncovered hrec]
      exact .resumed i r
    · have hlatest : (p.uncovered w pending).pendingRetryRevision.any (r ≤ ·) = false := by
        rw [Bool.eq_false_iff]
        intro hany
        obtain ⟨n, hn, hle⟩ := (any_eq_true _ _).mp hany
        exact absurd (hpending n hn) (not_lt.mpr (by simpa using hle))
      rw [reduceActive_retry_shown hnew hrec, if_neg (by rw [hlatest]; decide)]
      exact .waiting i r w (lt_of_le_of_lt bound hm)

theorem after_of_older (hset : p.effectiveState.isSettled) (ha : After p e q)
    (hq : Coherent q) (hid : p.identity = some f.identity) (hf : f.recoveryRevision = some r)
    (hr : r < e.revision) : ∃ q', reduceSettlement q f = some q' ∧ After p e q' := by
  refine ⟨_, reduceSettlement_of_recovery (ha.behind.admits hset hid) hf, ?_⟩
  have hrec := State.not_recoverable_of_isSettled hset
  cases ha with
  | outage e k announces =>
    rw [reduceActive_of_stale hf hr.le]
    exact .outage e k announces
  | resumed i m =>
    rw [reduceActive_of_stale hf hr.le]
    exact .resumed i m
  | retried i m =>
    rw [reduceActive_of_stale hf hr.le]
    exact .retried i m
  | waiting i m w early =>
    replace hr : r < m := hr
    by_cases hstale : r ≤ w
    · rw [reduceActive_of_stale hf hstale]
      exact .waiting i m w early
    have hnew : (p.uncovered w (some m)).recoveryRevision < r := not_le.mp hstale
    rcases recovery_cases hf with ⟨k, ho⟩ | ⟨j, rfl⟩ | ⟨j, rfl⟩
    · -- the outage the retry was waiting for
      have hk := isRecoverable_of_outage ho
      have hset' : (p.uncovered w (some m)).effectiveState.isSettled := by
        rwa [effectiveState_uncovered hrec]
      rw [reduceActive_outage ho hf hnew, hq.outage_outrun hk hset' rfl hr,
        uncovered_uncovered hrec]
      exact .retried i m
    · have hfilter : (p.uncovered w (some m)).pendingRetryRevision.filter (r < ·) = some m := by
        simp [uncovered, hr]
      rw [hq.reduceActive_resumed hnew, hfilter, uncovered_uncovered hrec]
      exact .waiting i m r hr
    · have hlatest : (p.uncovered w (some m)).pendingRetryRevision.any (r ≤ ·) := by
        simp [uncovered, hr.le]
      rw [reduceActive_retry_shown hnew hrec, if_pos hlatest]
      exact .waiting i m w early

end Sequence

/-! ## Any order of delivery -/

structure Recoveries (p : Projection) (es : List Event) : Prop where
  identity : ∀ e ∈ es, p.identity = some e.identity
  recovery : ∀ e ∈ es, e.recoveryRevision.isSome
  newer : ∀ e ∈ es, p.recoveryRevision < e.revision
  distinct : es.Pairwise fun a b => a.revision ≠ b.revision

def latestOutage (es : List Event) : Option State :=
  (es.argmax Event.revision).bind Event.outage

section Order
variable {p q : Projection} {e : Event} {es fs : List Event}

theorem Recoveries.of_append (h : Recoveries p (es ++ fs)) : Recoveries p es where
  identity := fun e he => h.identity e (mem_append_left fs he)
  recovery := fun e he => h.recovery e (mem_append_left fs he)
  newer := fun e he => h.newer e (mem_append_left fs he)
  distinct := (pairwise_append.mp h.distinct).1

theorem Recoveries.perm (h : Recoveries p es) (hperm : fs.Perm es) : Recoveries p fs where
  identity := fun e he => h.identity e (hperm.mem_iff.mp he)
  recovery := fun e he => h.recovery e (hperm.mem_iff.mp he)
  newer := fun e he => h.newer e (hperm.mem_iff.mp he)
  distinct := h.distinct.perm hperm.symm fun hne => hne.symm

theorem Recoveries.argmax_eq (h : Recoveries p es) (he : e ∈ es)
    (hlatest : ∀ f ∈ es, f.revision ≤ e.revision) : es.argmax revision = some e := by
  refine mem_def.mp (mem_argmax_iff.mpr ⟨he, hlatest, fun f hf hle => ?_⟩)
  have heq : f.revision = e.revision := le_antisymm (hlatest f hf) hle
  have : f = e := by
    by_contra hne
    have : Std.Symm fun a b : Event => a.revision ≠ b.revision := ⟨fun _ _ => Ne.symm⟩
    exact h.distinct.forall hf he hne heq
  rw [this]

/-- **Recovery events delivered in some order** lead to what the latest of them
leads to. -/
theorem Coherent.runEvents_recoveries (h : Coherent p)
    (hset : p.effectiveState.isSettled) (hshown : p.state.isRecoverable = false)
    (hpending : p.pendingRetryRevision = none) (hes : Recoveries p es) :
    ∃ q, runEvents p es = some q ∧ (es = [] ∧ q = p ∨
      ∃ e ∈ es, (∀ f ∈ es, f.revision ≤ e.revision) ∧ After p e q) := by
  -- the induction delivers the last event to what the others led to
  induction es using reverseRecOn with
  | nil => exact ⟨p, rfl, .inl ⟨rfl, rfl⟩⟩
  | append_singleton fs e ih =>
    obtain ⟨q, hq, hafter⟩ := ih hes.of_append
    have hcoherent := coherent_runEvents h hq
    have hmem : e ∈ fs ++ [e] := mem_append_right fs mem_cons_self
    have hid := hes.identity e hmem
    obtain ⟨r, hr⟩ := isSome_iff_exists.mp (hes.recovery e hmem)
    have hrev := revision_eq hr
    have latest : ∀ a : Event, (∀ f ∈ fs, f.revision ≤ a.revision) → e.revision ≤ a.revision →
        ∀ f ∈ fs ++ [e], f.revision ≤ a.revision := by
      intro a hfs hle f hf
      rcases mem_append.mp hf with hf | hf
      · exact hfs f hf
      · rwa [mem_singleton.mp hf]
    rcases hafter with ⟨rfl, rfl⟩ | ⟨e₀, he₀, hlatest, hafter⟩
    · have hbehind : Behind q q.recoveryRevision q := by
        have := Behind.uncovered (p := q) (m := q.recoveryRevision) q.recoveryRevision none
          le_rfl (by simp)
        rwa [h.uncovered_of_shown hshown hpending] at this
      obtain ⟨q', hq', hafter'⟩ := after_of_newer hset hbehind h hid hr (hrev ▸ hes.newer e hmem)
      exact ⟨q', Transition.run_concat_eq_some.mpr ⟨q, hq, hq'⟩,
        .inr ⟨e, hmem, latest e (by simp) le_rfl, hafter'⟩⟩
    · have hne : e₀.revision ≠ e.revision :=
        (pairwise_append.mp hes.distinct).2.2 e₀ he₀ e mem_cons_self
      rcases lt_or_gt_of_ne hne with hlt | hgt
      · obtain ⟨q', hq', hafter'⟩ := after_of_newer hset hafter.behind hcoherent hid hr (hrev ▸ hlt)
        exact ⟨q', Transition.run_concat_eq_some.mpr ⟨q, hq, hq'⟩,
          .inr ⟨e, hmem, latest e (fun f hf => (hlatest f hf).trans hlt.le) le_rfl, hafter'⟩⟩
      · obtain ⟨q', hq', hafter'⟩ := after_of_older hset hafter hcoherent hid hr (hrev ▸ hgt)
        exact ⟨q', Transition.run_concat_eq_some.mpr ⟨q, hq, hq'⟩,
          .inr ⟨e₀, mem_append_left _ he₀, latest e₀ hlatest hgt.le, hafter'⟩⟩

theorem After.shown (h : After p e q) (hshown : p.state.isRecoverable = false) :
    q.state = e.outage.getD p.state ∧ q.resumeState = e.outage.map (fun _ => p.state) ∧
      q.registration = p.registration ∧ q.abandonedRegistration = p.abandonedRegistration ∧
      q.checkpoint = p.checkpoint := by
  have heff := effectiveState_of_not_recoverable hshown
  cases h with
  | outage e k announces => simp [covered, announces, heff]
  | resumed | retried | waiting => simp [uncovered, Event.outage, heff]

end Order

/-- **Outage and retry events are order independent.**  What is shown in the end is the outage of
the latest event if it is one, hiding the state shown before, and that state itself otherwise. -/
theorem recovery_order_independent {p : Projection} (h : Reachable p)
    (hshown : p.state.isRecoverable = false) (hcancelled : p.state ≠ .cancelled)
    (hunavailable : p.state ≠ .unavailable) (hpending : p.pendingRetryRevision = none)
    (es : List Event) (hes : Recoveries p es) : ∀ fs, fs.Perm es → ∃ q, runEvents p fs = some q ∧
      q.state = (latestOutage es).getD p.state ∧
      q.resumeState = (latestOutage es).map (fun _ => p.state) ∧
      q.registration = p.registration ∧ q.abandonedRegistration = p.abandonedRegistration ∧
      q.checkpoint = p.checkpoint := by
  intro fs hperm
  have hcoherent := coherent_of_reachable h
  have hset := hcoherent.isSettled_effectiveState hunavailable hcancelled
  obtain ⟨q, hq, hafter⟩ :=
    hcoherent.runEvents_recoveries hset hshown hpending (hes.perm hperm)
  refine ⟨q, hq, ?_⟩
  rcases hafter with ⟨rfl, rfl⟩ | ⟨e, he, hlatest, hafter⟩
  · obtain rfl := hperm.nil_eq
    exact ⟨rfl, hcoherent.resumeState_eq_none hshown, rfl, rfl, rfl⟩
  · have hmax := hes.argmax_eq (hperm.mem_iff.mp he) fun f hf => hlatest f (hperm.mem_iff.mpr hf)
    rw [latestOutage, hmax, bind_some]
    exact hafter.shown hshown

open Sample

theorem recovery_order_independent_early_retry :
    ∃ q, runEvents (after confirming) [.retry identity 3,
        .degraded identity 2, .offline identity 1] = some q ∧ q.state = .confirming := by
  obtain ⟨q, hq, hs, -⟩ := recovery_order_independent
    (p := after confirming) (reachable_after _ (by decide +kernel))
    (by decide +kernel) (by decide +kernel) (by decide +kernel) (by decide +kernel)
    [.offline identity 1, .degraded identity 2, .retry identity 3]
    ⟨by decide +kernel, by decide +kernel, by decide +kernel, by decide +kernel⟩
    _ (reverse_perm _)
  refine ⟨q, hq, hs.trans ?_⟩
  decide +kernel

end Oxid.Wallet.DustRegistration
