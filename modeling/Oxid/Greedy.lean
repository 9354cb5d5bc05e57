import Mathlib.Algebra.BigOperators.Group.List.Basic
import Mathlib.Algebra.GroupWithZero.Nat
import Mathlib.Data.List.Perm.Subperm
import Mathlib.Data.Nat.Find
import Mathlib.Order.Lattice

/-!
# Taking the heaviest first

A target is to be reached with as few items as possible.  In descending order the first so
many items weigh at least as much as any so many, so the shortest prefix that reaches the
target is as short as any choice can be.
-/

namespace Oxid.Greedy
open List Nat

variable {α : Type*} {weight : α → ℕ} {items chosen : List α} {a : α} {target n : ℕ}

/-- What the items weigh together. -/
def total (weight : α → ℕ) (items : List α) : ℕ := (items.map weight).sum

@[simp] theorem total_nil : total weight [] = 0 := rfl

@[simp] theorem total_cons : total weight (a :: items) = weight a + total weight items := by
  simp [total]

theorem total_append (l l' : List α) :
    total weight (l ++ l') = total weight l + total weight l' := by
  simp [total]

theorem total_perm {l l'} (h : l.Perm l') : total weight l = total weight l' :=
  (h.map weight).sum_eq

theorem total_take_le (items : List α) (n : ℕ) :
    total weight (items.take n) ≤ total weight items := by
  conv_rhs => rw [← take_append_drop n items, total_append]
  exact le_add_right _ _

/-- Heaviest first. -/
def Descending (weight : α → ℕ) (items : List α) : Prop :=
  items.Pairwise fun a b => weight b ≤ weight a

theorem total_take_le_total_take_cons (h : Descending weight (a :: items)) (n : ℕ) :
    total weight (items.take n) ≤ total weight ((a :: items).take n) := by
  induction items generalizing a n with
  | nil => simp
  | cons b _ ih =>
    rw [Descending, pairwise_cons] at h
    cases n with
    | zero => simp
    | succ n =>
      have hba : weight b ≤ weight a := h.1 b mem_cons_self
      have htail := ih h.2 n
      rw [take_succ_cons, take_succ_cons, total_cons, total_cons]
      omega

/-- **The heaviest choice of a length** is the prefix of that length. -/
theorem total_le_total_take (h : Descending weight items) (hchosen : chosen.Sublist items) :
    total weight chosen ≤ total weight (items.take chosen.length) := by
  induction hchosen with
  | slnil => exact le_refl _
  | cons a _ ih =>
    have htail := ih (pairwise_cons.mp h).2
    have hearlier := total_take_le_total_take_cons h
    exact htail.trans (hearlier _)
  | cons_cons a _ ih =>
    have htail := ih (pairwise_cons.mp h).2
    rw [length_cons, take_succ_cons, total_cons, total_cons]
    omega

/-- The first `n` items reach the target, and fewer do not. -/
structure Reaches (weight : α → ℕ) (target : ℕ) (items : List α) (n : ℕ) : Prop where
  le_length : n ≤ items.length
  reached : target ≤ total weight (items.take n)
  least : ∀ m < n, total weight (items.take m) < target

theorem Reaches.le {m} (h : Reaches weight target items n) (h' : Reaches weight target items m) :
    n ≤ m := by
  by_contra hlt
  exact absurd h'.reached (Nat.not_le.mpr (h.least m (Nat.lt_of_not_le hlt)))

/-- **No choice is shorter** than the prefix that reaches the target. -/
theorem Reaches.le_of_subperm (h : Reaches weight target items n)
    (hdescending : Descending weight items) (hchosen : chosen.Subperm items)
    (hreached : target ≤ total weight chosen) : n ≤ chosen.length := by
  by_contra hlt
  obtain ⟨ordered, hperm, hsub⟩ := hchosen
  have hbound := total_le_total_take hdescending hsub
  have hleast := h.least chosen.length (Nat.lt_of_not_le hlt)
  rw [hperm.length_eq, total_perm hperm] at hbound
  omega

theorem exists_reaches (hdescending : Descending weight items) (hchosen : chosen.Subperm items)
    (hreached : target ≤ total weight chosen) : ∃ n, Reaches weight target items n := by
  have hexists : ∃ n, target ≤ total weight (items.take n) := by
    obtain ⟨ordered, hperm, hsub⟩ := hchosen
    refine ⟨ordered.length, hreached.trans ?_⟩
    rw [← total_perm hperm]
    exact total_le_total_take hdescending hsub
  have hfind := Nat.find_spec hexists
  have hmin : ∀ m < Nat.find hexists, total weight (items.take m) < target :=
    fun m hm => Nat.lt_of_not_le (Nat.find_min hexists hm)
  refine ⟨Nat.find hexists, ?_, hfind, hmin⟩
  by_contra hlt
  have hlength := hmin items.length (Nat.lt_of_not_le hlt)
  rw [List.take_of_length_le (by omega)] at hfind
  rw [List.take_length] at hlength
  omega

end Oxid.Greedy
