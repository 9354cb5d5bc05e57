import Mathlib.Algebra.Order.BigOperators.Group.List
import Mathlib.Algebra.Order.Group.Nat
import Oxid.OrderedMap

/-!
# Accounts under a common total

Accounts are numbered in the order they were opened.  Each takes in and gives out, never more
than it took in, and the totals over all of them are kept.
-/

namespace Oxid.Accounts

variable {κ υ : Type} [LinearOrder κ]

/-- The accounts are numbered from zero, each gave out no more than it took in, and the
totals are the sums of what they took in and gave out. -/
structure Balanced (num : κ → ℕ) (credit debit : υ → ℕ) (m : OrderedMap κ υ)
    (count credited debited : ℕ) : Prop where
  numbered : m.Numbered num count
  covered : ∀ k v, m.find? k = some v → debit v ≤ credit v
  credited : credited = (m.values.map credit).sum
  debited : debited = (m.values.map debit).sum

variable {num : κ → ℕ} {credit debit : υ → ℕ} {m : OrderedMap κ υ} {count credited debited : ℕ}
  {k : κ} {v : υ}

theorem balanced_empty : Balanced num credit debit .empty 0 0 0 :=
  ⟨rfl, nofun, rfl, rfl⟩

section
variable (h : Balanced num credit debit m count credited debited)
include h

theorem Balanced.debited_le : debited ≤ credited := by
  rw [h.credited, h.debited]
  refine List.sum_le_sum fun v hv => ?_
  obtain ⟨k, hfound⟩ := OrderedMap.mem_values_iff.mp hv
  exact h.covered k v hfound

theorem Balanced.open_account
    (hk : num k = count) (hmono : ∀ a b, num a < num b → a < b) (hv : debit v ≤ credit v) :
    Balanced num credit debit (m.insert k v) (count + 1) (credited + credit v)
      (debited + debit v) := by
  have hfree := h.numbered.find?_eq_none hk.ge
  have hcredit := m.sum_values_insert k v credit
  have hdebit := m.sum_values_insert k v debit
  rw [hfree, Option.elim_none] at hcredit hdebit
  have hcredited := h.credited
  have hdebited := h.debited
  refine ⟨h.numbered.insert_next hk hmono v, ?_, by omega, by omega⟩
  exact OrderedMap.forall_find?_insert h.covered hv

theorem Balanced.move {w credited' debited'} (hfound : m.find? k = some v)
    (hcovered : debit w ≤ credit w) (hcredited : credited' + credit v = credited + credit w)
    (hdebited : debited' + debit v = debited + debit w) :
    Balanced num credit debit (m.insert k w) count credited' debited' := by
  have hcredit := m.sum_values_insert k w credit
  have hdebit := m.sum_values_insert k w debit
  rw [hfound, Option.elim_some] at hcredit hdebit
  have hc := h.credited
  have hd := h.debited
  refine ⟨h.numbered.insert_existing hfound w, ?_, by omega, by omega⟩
  exact OrderedMap.forall_find?_insert h.covered hcovered

end

end Oxid.Accounts
