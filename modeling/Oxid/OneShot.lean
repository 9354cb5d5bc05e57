import Mathlib.Data.List.Basic
import Oxid.Transition.Run

/-!
# Attempts at something done at most once

Something may be attempted several times, one attempt after the other, until an attempt
*fires*; after that it is not attempted again unless it is renewed.
-/

namespace Oxid.OneShot
open Transition Option List

universe u
variable {ω : Type u}

/-- Ready for an attempt, in the middle of one, or spent. -/
inductive Shot (ω : Type u)
  | ready
  | running (attempt : ω) (fired : Bool)
  | spent

inductive Move (ω : Type u)
  | start (attempt : ω)
  | fire (attempt : ω)
  | stop (attempt : ω)
  | renew
  deriving DecidableEq

variable [DecidableEq ω]

/-- One attempt at a time; one that stops after it fired leaves nothing to attempt. -/
def step : Shot ω → Move ω → Option (Shot ω)
  | .ready, .start a => some (.running a false)
  | .running a _, .fire b => if b = a then some (.running a true) else none
  | .running a fired, .stop b =>
    if b = a then some (if fired then .spent else .ready) else none
  | _, .renew => some .ready
  | _, _ => none

def Shot.fired : Shot ω → Bool
  | .ready => false
  | .running _ fired => fired
  | .spent => true

variable {a b : ω} {fired : Bool} {s t : Shot ω} {m : Move ω} {ms ns ls : List (Move ω)}

theorem step_start_eq_some : step s (.start a) = some t ↔ s = .ready ∧ t = .running a false := by
  cases s <;> simp [step, eq_comm]

theorem step_fired (h : step s m = some t) (hrenew : m ≠ .renew)
    (hs : s.fired ∨ ∃ a, m = .fire a) : t.fired := by
  cases s with
  | ready => cases m <;> simp_all [step, Shot.fired]
  | spent => cases m <;> simp_all [step]
  | running a fired =>
    cases m with
    | renew => exact absurd rfl hrenew
    | start => simp [step] at h
    | fire =>
      rw [step] at h
      split_ifs at h
      cases h
      rfl
    | stop =>
      have hfired : fired := by simpa [Shot.fired] using hs
      rw [step, hfired, if_pos rfl] at h
      split_ifs at h
      cases h
      rfl

theorem run_fired (h : run step s ms = some t) (hrenew : .renew ∉ ms)
    (hs : s.fired ∨ ∃ a, .fire a ∈ ms) : t.fired := by
  induction ms generalizing s with
  | nil =>
    rw [run_nil, some.injEq] at h
    simpa [h] using hs
  | cons m _ ih =>
    rw [mem_cons, not_or] at hrenew
    rw [run_cons, bind_eq_some_iff] at h
    obtain ⟨p, hp, h⟩ := h
    have hnext := step_fired hp (Ne.symm hrenew.1)
    refine ih h hrenew.2 ?_
    rcases hs with hs | ⟨a, ha⟩
    · exact .inl (hnext (.inl hs))
    · rcases mem_cons.mp ha with rfl | ha
      · exact .inl (hnext (.inr ⟨a, rfl⟩))
      · exact .inr ⟨a, ha⟩

theorem stop_mem_of_run (h : run step (.running a fired) ms = some .ready)
    (hrenew : .renew ∉ ms) : .stop a ∈ ms := by
  induction ms generalizing fired with
  | nil => simp at h
  | cons m _ ih =>
    rw [mem_cons, not_or] at hrenew
    rw [run_cons, bind_eq_some_iff] at h
    obtain ⟨p, hp, h⟩ := h
    cases m with
    | renew => exact absurd rfl hrenew.1
    | start => simp [step] at hp
    | fire =>
      rw [step] at hp
      split_ifs at hp
      cases hp
      exact mem_cons_of_mem _ (ih h hrenew.2)
    | stop b =>
      by_cases hb : b = a
      · rw [hb]
        exact mem_cons_self
      · rw [step, if_neg hb] at hp
        cases hp

/-- **One after the other.**  Of two attempts, with no renewal between them, the first
stopped before the second started, and none fired in between. -/
theorem stopped_before_start (h : run step s (ms ++ .start a :: (ns ++ .start b :: ls)) = some t)
    (hrenew : .renew ∉ ns) : .stop a ∈ ns ∧ ∀ c, .fire c ∉ ns := by
  rw [run_append, bind_eq_some_iff] at h
  obtain ⟨p, -, h⟩ := h
  rw [run_cons, bind_eq_some_iff] at h
  obtain ⟨q, hq, h⟩ := h
  rw [run_append, bind_eq_some_iff] at h
  obtain ⟨r, hr, h⟩ := h
  rw [run_cons, bind_eq_some_iff] at h
  obtain ⟨q', hr', -⟩ := h
  -- both starts find the machine ready
  rw [(step_start_eq_some.mp hq).2, (step_start_eq_some.mp hr').1] at hr
  refine ⟨stop_mem_of_run hr hrenew, fun c hc => ?_⟩
  exact Bool.false_ne_true (run_fired hr hrenew (.inr ⟨c, hc⟩))

end Oxid.OneShot
