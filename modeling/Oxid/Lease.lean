import Mathlib.Data.Set.Insert
import Mathlib.Data.List.Nodup
import Oxid.Transition.Run

/-!
# Leases with a generation

The live leases were issued together and carry the pool's generation; each is redeemed by
itself, or all are revoked.  New ones are issued only when none is live, under a new
generation, so a ticket (a generation and a key) names one lease for ever.
-/

namespace Oxid.Lease
open Transition Option List

universe u
variable {κ : Type u}

/-- The generation of the live leases, and their keys. -/
@[ext] structure Pool (κ : Type u) where
  generation : Nat
  live : Set κ

structure Ticket (κ : Type u) where
  generation : Nat
  key : κ

inductive Move (κ : Type u)
  | issue (keys : List κ)
  | redeem (key : κ)
  | revoke

open Classical in
/-- Leases are issued when none is live, each key once; a live lease is redeemed;
revoking ends the leases and their generation. -/
noncomputable def step (p : Pool κ) : Move κ → Option (Pool κ)
  | .issue keys =>
    if p.live = ∅ ∧ keys.Nodup then some ⟨p.generation + 1, {k | k ∈ keys}⟩ else none
  | .redeem key => if key ∈ p.live then some { p with live := p.live \ {key} } else none
  | .revoke => some ⟨p.generation + 1, ∅⟩

def issued (p : Pool κ) : Move κ → List (Ticket κ)
  | .issue keys => keys.map (⟨p.generation + 1, ·⟩)
  | .redeem _ | .revoke => []

def redeemed (p : Pool κ) : Move κ → List (Ticket κ)
  | .redeem key => [⟨p.generation, key⟩]
  | .issue _ | .revoke => []

variable {p q r : Pool κ} {m : Move κ} {ms : List (Move κ)} {t : Ticket κ}

theorem step_issue {keys} (hlive : p.live = ∅) (hkeys : keys.Nodup) :
    step p (.issue keys) = some ⟨p.generation + 1, {k | k ∈ keys}⟩ :=
  if_pos ⟨hlive, hkeys⟩

theorem step_redeem {key} (h : key ∈ p.live) :
    step p (.redeem key) = some { p with live := p.live \ {key} } :=
  if_pos h

theorem step_revoke : step p .revoke = some ⟨p.generation + 1, ∅⟩ := rfl

theorem step_cases (h : step p m = some q) : (∃ keys, m = .issue keys ∧ p.live = ∅ ∧ keys.Nodup ∧
      q = ⟨p.generation + 1, {k | k ∈ keys}⟩) ∨
    (∃ key ∈ p.live, m = .redeem key ∧ q = { p with live := p.live \ {key} }) ∨
    (m = .revoke ∧ q = ⟨p.generation + 1, ∅⟩) := by
  cases m with
  | issue keys =>
    simp only [step, ite_none_right_eq_some, some.injEq] at h
    exact .inl ⟨keys, rfl, h.1.1, h.1.2, h.2.symm⟩
  | redeem key =>
    simp only [step, ite_none_right_eq_some, some.injEq] at h
    exact .inr (.inl ⟨key, h.1, rfl, h.2.symm⟩)
  | revoke =>
    simp only [step, some.injEq] at h
    exact .inr (.inr ⟨rfl, h.symm⟩)

theorem generation_le_of_step (h : step p m = some q) : p.generation ≤ q.generation := by
  obtain ⟨_, _, _, _, rfl⟩ | ⟨_, _, _, rfl⟩ | ⟨_, rfl⟩ := step_cases h <;> simp

section
variable (h : run step p ms = some q)
include h

theorem generation_le_of_run : p.generation ≤ q.generation :=
  run_induction (motive := fun _ r => p.generation ≤ r.generation) le_rfl
    (fun _ _ _ _ _ hr hstep => hr.trans (generation_le_of_step hstep)) ms q h

theorem issued_le (ht : t ∈ outputs step issued p ms) : t.generation ≤ q.generation := by
  refine run_induction (motive := fun ms q => ∀ t ∈ outputs step issued p ms,
    t.generation ≤ q.generation) (by simp) ?_ ms q h t ht
  intro ms r m q hr ih hstep t ht
  rw [outputs_concat hr, mem_append] at ht
  rcases ht with ht | ht
  · exact (ih t ht).trans (generation_le_of_step hstep)
  · obtain ⟨keys, rfl, _, _, rfl⟩ | ⟨_, _, rfl, rfl⟩ | ⟨rfl, rfl⟩ := step_cases hstep
    · obtain ⟨k, _, rfl⟩ := mem_map.mp ht
      exact le_rfl
    · simp [issued] at ht
    · simp [issued] at ht

theorem redeemed_spent : ∀ t ∈ outputs step redeemed p ms, t.generation < q.generation ∨
      t.generation = q.generation ∧ t.key ∉ q.live := by
  refine run_induction (motive := fun ms q => ∀ t ∈ outputs step redeemed p ms,
    t.generation < q.generation ∨ t.generation = q.generation ∧ t.key ∉ q.live)
    (by simp) ?_ ms q h
  intro ms r m q hr ih hstep t ht
  rw [outputs_concat hr, mem_append] at ht
  obtain ⟨keys, rfl, _, _, rfl⟩ | ⟨key, _, rfl, rfl⟩ | ⟨rfl, rfl⟩ := step_cases hstep
  · have := ih t (by simpa [redeemed] using ht)
    exact .inl (by dsimp only; omega)
  · rcases ht with ht | ht
    · rcases ih t ht with hlt | ⟨heq, hdead⟩
      · exact .inl hlt
      · exact .inr ⟨heq, fun hmem => hdead hmem.1⟩
    · obtain rfl := mem_singleton.mp ht
      exact .inr ⟨rfl, fun hmem => hmem.2 rfl⟩
  · have := ih t (by simpa [redeemed] using ht)
    exact .inl (by dsimp only; omega)

/-- **At most once.**  No ticket is redeemed twice. -/
theorem redeemed_nodup : (outputs step redeemed p ms).Nodup := by
  refine run_induction (motive := fun ms _ => (outputs step redeemed p ms).Nodup)
    (by simp) ?_ ms q h
  intro ms r m q hr ih hstep
  rw [outputs_concat hr]
  refine nodup_append.mpr ⟨ih, ?_, ?_⟩
  · cases m <;> simp [redeemed]
  · intro t ht t' ht' heq
    subst heq
    obtain ⟨keys, rfl, _, _, rfl⟩ | ⟨key, hkey, rfl, rfl⟩ | ⟨rfl, rfl⟩ := step_cases hstep
    · simp [redeemed] at ht'
    · obtain rfl := mem_singleton.mp ht'
      rcases redeemed_spent hr _ ht with hlt | ⟨_, hdead⟩
      · exact absurd hlt (lt_irrefl _)
      · exact hdead hkey
    · simp [redeemed] at ht'

end

theorem live_issued (hp : p.live = ∅) (h : run step p ms = some q) :
    ∀ k ∈ q.live, ⟨q.generation, k⟩ ∈ outputs step issued p ms := by
  refine run_induction (motive := fun ms q => ∀ k ∈ q.live,
    ⟨q.generation, k⟩ ∈ outputs step issued p ms) (by simp [hp]) ?_ ms q h
  intro ms r m q hr ih hstep k hk
  rw [outputs_concat hr, mem_append]
  obtain ⟨keys, rfl, _, _, rfl⟩ | ⟨key, _, rfl, rfl⟩ | ⟨rfl, rfl⟩ := step_cases hstep
  · exact .inr (mem_map.mpr ⟨k, hk, rfl⟩)
  · exact .inl (ih k hk.1)
  · exact absurd hk (Set.notMem_empty k)

theorem redeemed_subset_issued (hp : p.live = ∅) (h : run step p ms = some q) :
    outputs step redeemed p ms ⊆ outputs step issued p ms := by
  refine run_induction (motive := fun ms _ =>
    outputs step redeemed p ms ⊆ outputs step issued p ms) (by simp) ?_ ms q h
  intro ms r m q hr ih hstep t ht
  rw [outputs_concat hr, mem_append] at ht ⊢
  rcases ht with ht | ht
  · exact .inl (ih ht)
  · obtain ⟨keys, rfl, _, _, rfl⟩ | ⟨key, hkey, rfl, rfl⟩ | ⟨rfl, rfl⟩ := step_cases hstep
    · simp [redeemed] at ht
    · obtain rfl := mem_singleton.mp ht
      exact .inl (live_issued hp hr key hkey)
    · simp [redeemed] at ht

end Oxid.Lease
