import Oxid.Sorting

/-!
# Bounded vectors that evict

A row is put in place of the one with its key, or at the end; the rows are then sorted by age,
and while there are too many the oldest row that may go is removed.  If none may go, nothing
is stored at all.
-/

namespace Oxid.Retention
open List

variable {κ β : Type} {rows rows' : List (κ × β)} {evictable : β → Bool}

/-- Remove the first row that may go, so many times. -/
def evict (evictable : β → Bool) : ℕ → List (κ × β) → Option (List (κ × β))
  | 0, rows => some rows
  | n + 1, rows =>
    if rows.any fun row => evictable row.2 then
      evict evictable n (rows.eraseP fun row => evictable row.2)
    else none

/-- What is evicted may go; the rest stays, in its order. -/
theorem evict_spec {n} (h : evict evictable n rows = some rows') :
    rows'.Sublist rows ∧ rows'.length + n = rows.length ∧
      ∀ row ∈ rows, evictable row.2 = false → row ∈ rows' := by
  induction n generalizing rows with
  | zero =>
    rw [evict, Option.some.injEq] at h
    subst h
    exact ⟨.refl _, rfl, fun _ hmem _ => hmem⟩
  | succ n ih =>
    rw [evict] at h
    split_ifs at h with hany
    obtain ⟨hsub, hlength, hkept⟩ := ih h
    have herase := length_eraseP (p := fun row : κ × β => evictable row.2) (l := rows)
    rw [if_pos hany] at herase
    have hpos : 0 < rows.length := by
      obtain ⟨row, hmem, -⟩ := any_eq_true.mp hany
      exact length_pos_of_mem hmem
    refine ⟨hsub.trans eraseP_sublist, by omega, ?_⟩
    intro row hmem hrow
    refine hkept row ?_ hrow
    rw [mem_eraseP_of_neg (by simpa using hrow)]
    exact hmem

variable [DecidableEq κ]

/-- Put a row in place of the first one with its key, or at the end. -/
def put (k : κ) (v : β) : List (κ × β) → List (κ × β)
  | [] => [(k, v)]
  | row :: rows => if row.1 = k then (k, v) :: rows else row :: put k v rows

/-- Put a row, sort by age, and make room. -/
def retain (capacity : ℕ) (age : β → ℕ) (evictable : β → Bool) (rows : List (κ × β)) (k : κ)
    (v : β) : Option (List (κ × β)) :=
  let rows := Sorting.sortBy (fun row => age row.2) (put k v rows)
  evict evictable (rows.length - capacity) rows

variable {k : κ} {v : β} {row : κ × β}

theorem mem_keys_put {k'} : k' ∈ (put k v rows).map Prod.fst ↔ k' = k ∨ k' ∈ rows.map Prod.fst := by
  induction rows with
  | nil => simp [put]
  | cons _ _ ih =>
    rw [put]
    split_ifs with h
    · simp only [map_cons, mem_cons, h]
      tauto
    · simp only [map_cons, mem_cons, ih]
      tauto

theorem nodup_keys_put (h : (rows.map Prod.fst).Nodup) : ((put k v rows).map Prod.fst).Nodup := by
  induction rows with
  | nil => simp [put]
  | cons _ _ ih =>
    rw [map_cons, nodup_cons] at h
    rw [put]
    split_ifs with hk
    · rw [map_cons, nodup_cons]
      exact ⟨hk ▸ h.1, h.2⟩
    · rw [map_cons, nodup_cons, mem_keys_put]
      exact ⟨fun hmem => hmem.elim hk h.1, ih h.2⟩

/-- With distinct keys, the row with the key is replaced and the others stay. -/
theorem mem_put_iff (h : (rows.map Prod.fst).Nodup) :
    row ∈ put k v rows ↔ row = (k, v) ∨ row ∈ rows ∧ row.1 ≠ k := by
  induction rows with
  | nil => simp [put]
  | cons _ rows ih =>
    rw [map_cons, nodup_cons] at h
    rw [put]
    split_ifs with hk
    · -- no other row has the key
      have hother : row ∈ rows → row.1 ≠ k := fun hmem heq =>
        h.1 (hk ▸ heq ▸ mem_map_of_mem hmem)
      rw [mem_cons, mem_cons]
      constructor
      · rintro (rfl | hmem)
        · exact .inl rfl
        · exact .inr ⟨.inr hmem, hother hmem⟩
      · rintro (rfl | ⟨rfl | hmem, hne⟩)
        · exact .inl rfl
        · exact absurd hk hne
        · exact .inr hmem
    · rw [mem_cons, mem_cons, ih h.2]
      constructor
      · rintro (rfl | rfl | ⟨hmem, hne⟩)
        · exact .inr ⟨.inl rfl, hk⟩
        · exact .inl rfl
        · exact .inr ⟨.inr hmem, hne⟩
      · rintro (rfl | ⟨rfl | hmem, hne⟩)
        · exact .inr (.inl rfl)
        · exact .inl rfl
        · exact .inr (.inr ⟨hmem, hne⟩)

theorem length_put : (put k v rows).length =
    if k ∈ rows.map Prod.fst then rows.length else rows.length + 1 := by
  induction rows with
  | nil => rfl
  | cons row rows ih =>
    rw [put]
    by_cases hk : row.1 = k
    · simp [hk]
    · simp only [if_neg hk, length_cons, ih, map_cons, mem_cons, Ne.symm hk, false_or]
      split_ifs <;> rfl

structure Kept (capacity : ℕ) (evictable : β → Bool) (rows : List (κ × β)) (k : κ) (v : β)
    (rows' : List (κ × β)) : Prop where
  room : rows'.length ≤ capacity
  distinct : (rows'.map Prod.fst).Nodup
  origin : ∀ row ∈ rows', row = (k, v) ∨ row ∈ rows ∧ row.1 ≠ k
  others : ∀ row ∈ rows, row.1 ≠ k → evictable row.2 = false → row ∈ rows'
  stored : evictable v = false → (k, v) ∈ rows'

/-- **Nothing that may not go is lost.** -/
theorem retain_spec {capacity age} (hdistinct : (rows.map Prod.fst).Nodup)
    (h : retain capacity age evictable rows k v = some rows') :
    Kept capacity evictable rows k v rows' := by
  obtain ⟨hsub, hlength, hkept⟩ := evict_spec h
  have hperm := Sorting.sortBy_perm (fun row => age row.2) (put k v rows)
  have hmem : ∀ row, row ∈ Sorting.sortBy (fun row => age row.2) (put k v rows) ↔
      row = (k, v) ∨ row ∈ rows ∧ row.1 ≠ k := fun row => by
    rw [hperm.mem_iff, mem_put_iff hdistinct]
  refine ⟨by omega, ?_, ?_, ?_, ?_⟩
  · have hsorted := (hperm.map Prod.fst).nodup_iff.mpr (nodup_keys_put (k := k) (v := v) hdistinct)
    exact hsorted.sublist (hsub.map Prod.fst)
  · intro row hrow
    exact (hmem row).mp (hsub.subset hrow)
  · intro row hrow hne hevict
    exact hkept row ((hmem row).mpr (.inr ⟨hrow, hne⟩)) hevict
  · intro hevict
    exact hkept (k, v) ((hmem (k, v)).mpr (.inl rfl)) hevict

/-- **What is evicted.**  A key is lost only to a new one that finds no room, and it is that of the
oldest row that may go. -/
theorem retain_evicts {capacity age} (hdistinct : (rows.map Prod.fst).Nodup)
    (hroom : rows.length ≤ capacity)
    (h : retain capacity age evictable rows k v = some rows') (hrow : row ∈ rows)
    (hgone : row.1 ∉ rows'.map Prod.fst) :
    k ∉ rows.map Prod.fst ∧ rows.length = capacity ∧ evictable row.2 ∧
      ∀ other ∈ rows, evictable other.2 → age row.2 ≤ age other.2 := by
  have hsort := Sorting.pairwise_sortBy (fun row => age row.2) (put k v rows)
  have hperm := Sorting.sortBy_perm (fun row => age row.2) (put k v rows)
  rw [retain] at h
  generalize Sorting.sortBy (fun row => age row.2) (put k v rows) = sorted at h hsort hperm
  have hkeys : row.1 ∈ sorted.map Prod.fst := by
    rw [(hperm.map Prod.fst).mem_iff, mem_keys_put]
    exact .inr (mem_map_of_mem hrow)
  have hlength := hperm.length_eq.trans length_put
  have hfull : k ∉ rows.map Prod.fst ∧ rows.length = capacity := by
    by_contra hnot
    have hzero : sorted.length - capacity = 0 := by
      split_ifs at hlength <;> grind
    rw [hzero, evict, Option.some.injEq] at h
    exact hgone (h ▸ hkeys)
  rw [if_neg hfull.1] at hlength
  have hmem : ∀ {other}, other ∈ rows → other ∈ sorted := by
    intro other hother
    rw [hperm.mem_iff, mem_put_iff hdistinct]
    refine .inr ⟨hother, ?_⟩
    rintro rfl
    exact hfull.1 (mem_map_of_mem hother)
  rw [show sorted.length - capacity = 1 by omega, evict] at h
  split_ifs at h with hany
  cases h
  obtain ⟨oldest, holdest, hevictable⟩ := any_eq_true.mp hany
  obtain ⟨first, before, after, hbefore, hfirst, rfl, herase⟩ :=
    exists_of_eraseP (p := fun row => evictable row.2) holdest hevictable
  rw [herase] at hgone
  have heq : row = first := by
    have hrow := hmem hrow
    have hnot : row ∉ before ++ after := fun hrow => hgone (mem_map_of_mem hrow)
    simp only [mem_append, mem_cons, not_or] at hrow hnot
    tauto
  subst heq
  refine ⟨hfull.1, hfull.2, hfirst, ?_⟩
  intro other hother hevict
  rcases mem_append.mp (hmem hother) with hmem | hmem
  · exact absurd hevict (hbefore other hmem)
  · rcases mem_cons.mp hmem with rfl | hmem
    · exact le_rfl
    · exact (pairwise_cons.mp (pairwise_append.mp hsort).2.1).1 other hmem

end Oxid.Retention
