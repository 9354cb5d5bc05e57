import Mathlib.Data.List.Nodup
import Mathlib.Data.List.Basic

/-!
# Vectors of keyed rows

A small table kept as a vector that is searched from the front.  A row is added only when no
row has its key; that the keys are distinct is a field.
-/

namespace Oxid
open Option List

structure Rows (κ β : Type) where
  list : List (κ × β)
  unique : (list.map Prod.fst).Nodup

namespace Rows

variable {κ β : Type}

def empty : Rows κ β := ⟨[], List.nodup_nil⟩

def keys (rows : Rows κ β) : List κ := rows.list.map Prod.fst

/-- Change the values of the rows whose keys pass the test. -/
def modify (rows : Rows κ β) (p : κ → Bool) (f : β → β) : Rows κ β where
  list := rows.list.map fun row => (row.1, if p row.1 then f row.2 else row.2)
  unique := by
    rw [List.map_map]
    exact rows.unique

variable [DecidableEq κ]

def find (rows : Rows κ β) (k : κ) (q : β → Bool) : Option β :=
  (rows.list.find? fun row => row.1 = k && q row.2).map Prod.snd

def get (rows : Rows κ β) (k : κ) : Option β := rows.find k fun _ => true

variable {rows : Rows κ β} {k k' : κ} {v : β} {q : β → Bool} {p : κ → Bool} {f : β → β}

theorem mem_list_iff : (k, v) ∈ rows.list ↔ rows.get k = some v := by
  obtain ⟨list, unique⟩ := rows
  simp only [get, find, Bool.and_true]
  induction list with
  | nil => simp
  | cons row list ih =>
    rw [map_cons, nodup_cons] at unique
    by_cases hk : row.1 = k
    · -- no other row has this key
      have hrest : (k, v) ∉ list := fun hmem =>
        unique.1 (hk ▸ mem_map.mpr ⟨(k, v), hmem, rfl⟩)
      rw [mem_cons, find?_cons_of_pos (by simpa using hk), map_some,
        some.injEq]
      constructor
      · rintro (heq | hmem)
        · rw [← heq]
        · exact absurd hmem hrest
      · intro heq
        exact .inl (Prod.ext hk.symm heq.symm)
    · rw [mem_cons, find?_cons_of_neg (by simpa using hk), ← ih unique.2]
      constructor
      · rintro (heq | hmem)
        · exact absurd (heq ▸ rfl) hk
        · exact hmem
      · exact .inr

theorem mem_keys_iff : k ∈ rows.keys ↔ ∃ v, rows.get k = some v := by
  simp only [keys, List.mem_map, Prod.exists, ← mem_list_iff]
  constructor
  · rintro ⟨k', v, hmem, rfl⟩
    exact ⟨v, hmem⟩
  · rintro ⟨v, hmem⟩
    exact ⟨k, v, hmem, rfl⟩

theorem find_eq_some_iff : rows.find k q = some v ↔ rows.get k = some v ∧ q v := by
  rw [← mem_list_iff, find, map_eq_some_iff]
  constructor
  · rintro ⟨row, hrow, rfl⟩
    have hpass := find?_some hrow
    simp only [Bool.and_eq_true, decide_eq_true_eq] at hpass
    exact ⟨hpass.1 ▸ mem_of_find?_eq_some hrow, hpass.2⟩
  · rintro ⟨hmem, hq⟩
    cases hrow : rows.list.find? fun row => row.1 = k && q row.2 with
    | none =>
      have hnone := find?_eq_none.mp hrow (k, v) hmem
      simp [hq] at hnone
    | some row =>
      have hpass := find?_some hrow
      simp only [Bool.and_eq_true, decide_eq_true_eq] at hpass
      have hget : rows.get k = some row.2 :=
        mem_list_iff.mp (hpass.1 ▸ mem_of_find?_eq_some hrow)
      rw [mem_list_iff, hget, some.injEq] at hmem
      exact ⟨row, rfl, hmem⟩

@[simp] theorem get_modify :
    (rows.modify p f).get k = if p k then (rows.get k).map f else rows.get k := by
  ext v
  rw [← mem_list_iff]
  simp only [modify, List.mem_map, Prod.exists, Prod.mk.injEq, mem_list_iff]
  constructor
  · rintro ⟨k', w, hw, rfl, rfl⟩
    by_cases hp : p k' <;> simp [hp, hw]
  · intro h
    by_cases hp : p k
    · rw [if_pos hp, map_eq_some_iff] at h
      obtain ⟨w, hw, rfl⟩ := h
      exact ⟨k, w, hw, rfl, if_pos hp⟩
    · rw [if_neg hp] at h
      exact ⟨k, v, h, rfl, if_neg hp⟩

/-- Change the row with this key, or add a new one at the end. -/
def upsert (rows : Rows κ β) (k : κ) (f : β → β) (new : β) : Rows κ β :=
  if h : k ∈ rows.keys then rows.modify (· = k) f
  else
    { list := rows.list ++ [(k, new)]
      unique := by
        rw [List.map_append]
        exact List.Nodup.append rows.unique (List.nodup_singleton k)
          (List.disjoint_singleton.mpr h) }

@[simp] theorem get_upsert {new} : (rows.upsert k f new).get k' =
      if k' = k then some ((rows.get k).elim new f) else rows.get k' := by
  rw [upsert]
  split_ifs with hmem hk hk
  · obtain ⟨v, hv⟩ := mem_keys_iff.mp hmem
    simp [hk, hv]
  · simp [hk]
  · have hnone : rows.get k = none :=
      eq_none_iff_forall_ne_some.mpr fun v hv => hmem (mem_keys_iff.mpr ⟨v, hv⟩)
    rw [← mem_list_iff, hk, hnone]
    simp
  · ext v
    rw [← mem_list_iff, ← mem_list_iff]
    simp [hk]

def erase (rows : Rows κ β) (k : κ) : Rows κ β where
  list := rows.list.filter fun row => row.1 ≠ k
  unique := rows.unique.sublist (List.filter_sublist.map Prod.fst)

theorem get_erase : (rows.erase k).get k' = if k' = k then none else rows.get k' := by
  ext v
  rw [← mem_list_iff]
  by_cases h : k' = k
  · simp [erase, h]
  · simp [erase, h, mem_list_iff]

end Rows
end Oxid
