import Mathlib.Data.List.Basic

/-!
# Registers that keep their first final value

Once a final value has been written, later writes have no effect; so the value after any
number of writes is the first final one among them.
-/

namespace Oxid.Latch

variable {α : Type} {final : α → Bool} {v c : α} {vs : List α}

/-- Write a value over another one, unless that one is final. -/
def write (final : α → Bool) (old new : α) : α := if final old then old else new

theorem write_of_final (h : final v) (w : α) : write final v w = v := if_pos h

theorem write_of_not_final (h : final v = false) (w : α) : write final v w = w := by
  rw [write, h]
  exact if_neg Bool.false_ne_true

theorem foldl_write_of_final (h : final v) (vs : List α) : vs.foldl (write final) v = v := by
  induction vs with
  | nil => rfl
  | cons w _ ih => rw [List.foldl_cons, write_of_final h, ih]

/-- **The first final write stays.** -/
theorem foldl_write_eq_iff (hv : final v = false) (hc : final c) :
    vs.foldl (write final) v = c ↔ vs.find? final = some c := by
  induction vs generalizing v with
  | nil =>
    have hne : v ≠ c := by
      intro heq
      rw [heq, hc] at hv
      cases hv
    simp [hne]
  | cons w _ ih =>
    rw [List.foldl_cons, write_of_not_final hv]
    by_cases hw : final w
    · rw [foldl_write_of_final hw, List.find?_cons_of_pos hw, Option.some.injEq]
    · rw [List.find?_cons_of_neg hw]
      exact ih (Bool.not_eq_true _ ▸ hw)

end Oxid.Latch
