import Mathlib.Data.List.Basic

/-!
# Lists of slots

The parties of a system, each at its place in a list: one that joins is put at the end, and
one that moves is replaced where it stands.
-/

namespace Oxid.Slots
open List
variable {α : Type} {l : List α} {i : ℕ} {a x : α}

theorem getElem?_concat_cases (l : List α) (x : α) (n : ℕ) :
    (l ++ [x])[n]? = l[n]? ∨ n = l.length ∧ (l ++ [x])[n]? = some x := by
  rcases Nat.lt_trichotomy n l.length with hlt | heq | hgt
  · exact .inl (getElem?_append_left hlt)
  · exact .inr ⟨heq, by rw [heq, getElem?_concat_length]⟩
  · refine .inl ?_
    rw [getElem?_eq_none (by simp; omega), getElem?_eq_none (Nat.le_of_lt hgt)]

theorem getElem?_concat_iff {n} :
    (l ++ [x])[n]? = some a ↔ l[n]? = some a ∨ n = l.length ∧ a = x := by
  grind

theorem getElem?_set_cases (l : List α) (i : ℕ) (x : α) (n : ℕ) :
    (l.set i x)[n]? = l[n]? ∨ n = i ∧ (l.set i x)[n]? = some x := by
  by_cases hn : i = n
  · subst hn
    by_cases hlt : i < l.length
    · exact .inr ⟨rfl, getElem?_set_self hlt⟩
    · refine .inl ?_
      rw [set_eq_of_length_le (Nat.le_of_not_lt hlt)]
  · exact .inl (getElem?_set_ne hn)

theorem mem_set_cases {b} (h : b ∈ l.set i x) : b = x ∨ ∃ j, j ≠ i ∧ l[j]? = some b := by
  obtain ⟨j, hj⟩ := mem_iff_getElem?.mp h
  by_cases hij : i = j
  · rw [← hij, getElem?_set_self'] at hj
    obtain ⟨a, -, ha⟩ := Option.map_eq_some_iff.mp hj
    exact .inl ha.symm
  · rw [getElem?_set_ne hij] at hj
    exact .inr ⟨j, Ne.symm hij, hj⟩

theorem mem_set_or_eq {b} (hi : l[i]? = some a) (hb : b ∈ l) (x : α) : b ∈ l.set i x ∨ b = a := by
  obtain ⟨j, hj⟩ := mem_iff_getElem?.mp hb
  by_cases hij : i = j
  · rw [← hij, hi, Option.some.injEq] at hj
    exact .inr hj.symm
  · refine .inl (mem_of_getElem? (i := j) ?_)
    rw [getElem?_set_ne hij, hj]

theorem mem_set_self (hi : l[i]? = some a) (x : α) : x ∈ l.set i x :=
  List.mem_set (List.getElem?_eq_some_iff.mp hi).1 x

/-- At most one place of the list holds an entry with this property. -/
def AtMostOne (P : α → Prop) (l : List α) : Prop :=
  ∀ (i j : ℕ) (a b : α), l[i]? = some a → l[j]? = some b → P a → P b → i = j

section AtMostOne
variable {P : α → Prop}

theorem atMostOne_nil : AtMostOne P [] := by
  intro i j a b hi
  simp at hi

theorem AtMostOne.set (h : AtMostOne P l) (hi : l[i]? = some a) (ha : P a) (x : α) :
    AtMostOne P (l.set i x) := by
  have hplace : ∀ (j : ℕ) (b : α), (l.set i x)[j]? = some b → P b →
      ∃ b', l[j]? = some b' ∧ P b' := by
    intro j b hj hb
    rcases getElem?_set_cases l i x j with heq | ⟨rfl, -⟩
    · exact ⟨b, by rw [← heq, hj], hb⟩
    · exact ⟨a, hi, ha⟩
  intro j k b c hj hk hb hc
  obtain ⟨b', hj', hb'⟩ := hplace j b hj hb
  obtain ⟨c', hk', hc'⟩ := hplace k c hk hc
  exact h j k b' c' hj' hk' hb' hc'

theorem atMostOne_concat (h : ∀ b ∈ l, ¬ P b) (x : α) : AtMostOne P (l ++ [x]) := by
  have hplace : ∀ (j : ℕ) (b : α), (l ++ [x])[j]? = some b → P b → j = l.length := by
    intro j b hj hb
    rcases getElem?_concat_cases l x j with heq | ⟨hlast, -⟩
    · rw [heq] at hj
      exact absurd hb (h b (mem_of_getElem? hj))
    · exact hlast
  intro j k b c hj hk hb hc
  rw [hplace j b hj hb, hplace k c hk hc]

theorem AtMostOne.not_of_ne (h : AtMostOne P l) (hi : l[i]? = some a) (ha : P a) {j b}
    (hj : l[j]? = some b) (hij : j ≠ i) : ¬ P b :=
  fun hb => hij (h j i b a hj hi hb ha)

end AtMostOne

end Oxid.Slots
