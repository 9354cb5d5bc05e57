import Mathlib.Data.List.Induction
import Mathlib.Data.List.Pairwise
import Mathlib.Order.Lattice
import Mathlib.Algebra.GroupWithZero.Nat
import Mathlib.Algebra.BigOperators.Group.List.Basic

/-!
# Ordered maps

A map that is iterated in the order of its keys, as `BTreeMap` is: the list of its entries,
with sortedness as a field.  A set is a map to the unit type.
-/

namespace Oxid
open List

/-- The entries of a map, sorted by key. -/
structure OrderedMap (κ υ : Type) [LinearOrder κ] where
  entries : List (κ × υ)
  sorted : entries.Pairwise fun a b => a.1 < b.1

namespace OrderedMap

section Lists
variable {κ υ : Type} [LinearOrder κ]

def insertEntry (k : κ) (v : υ) : List (κ × υ) → List (κ × υ)
  | [] => [(k, v)]
  | (k', v') :: rest =>
    if k < k' then (k, v) :: (k', v') :: rest
    else if k = k' then (k, v) :: rest
    else (k', v') :: insertEntry k v rest

def findEntry (k : κ) : List (κ × υ) → Option υ
  | [] => none
  | (k', v') :: rest => if k = k' then some v' else findEntry k rest

variable {k k' : κ} {v : υ} {l : List (κ × υ)} {a : κ × υ}

theorem mem_insertEntry (h : a ∈ insertEntry k v l) : a = (k, v) ∨ a ∈ l := by
  induction l with
  | nil => simpa [insertEntry] using h
  | cons b _ ih =>
    simp only [insertEntry] at h
    split_ifs at h
    · simpa using h
    · rcases mem_cons.mp h with h | h
      · exact .inl h
      · exact .inr (mem_cons_of_mem b h)
    · rcases mem_cons.mp h with h | h
      · exact .inr (h ▸ mem_cons_self)
      · exact (ih h).imp_right (mem_cons_of_mem b)

theorem pairwise_insertEntry (h : l.Pairwise fun a b => a.1 < b.1) (k : κ) (v : υ) :
    (insertEntry k v l).Pairwise fun a b => a.1 < b.1 := by
  induction l with
  | nil => simp [insertEntry]
  | cons b _ ih =>
    obtain ⟨hb, hrest⟩ := pairwise_cons.mp h
    simp only [insertEntry]
    split_ifs with hlt heq
    · refine pairwise_cons.mpr ⟨fun a ha => ?_, h⟩
      rcases mem_cons.mp ha with rfl | ha
      · exact hlt
      · exact hlt.trans (hb a ha)
    · subst heq
      exact pairwise_cons.mpr ⟨hb, hrest⟩
    · refine pairwise_cons.mpr ⟨fun a ha => ?_, ih hrest⟩
      rcases mem_insertEntry ha with rfl | ha
      · exact lt_of_le_of_ne (not_lt.mp hlt) (Ne.symm heq)
      · exact hb a ha

theorem findEntry_insertEntry (k k' : κ) (v : υ) (l : List (κ × υ)) :
    findEntry k' (insertEntry k v l) = if k' = k then some v else findEntry k' l := by
  induction l with
  | nil => simp [insertEntry, findEntry]
  | cons b _ ih =>
    by_cases hlt : k < b.1
    · by_cases hkey : k' = k
      · simp [insertEntry, findEntry, hlt, hkey]
      · simp [insertEntry, findEntry, hlt, hkey]
    by_cases heq : k = b.1
    · subst heq
      by_cases hkey : k' = b.1
      · simp [insertEntry, findEntry, hkey]
      · simp [insertEntry, findEntry, hkey]
    · by_cases hkey : k' = k
      · subst hkey
        simp [insertEntry, findEntry, hlt, heq, ih]
      · simp [insertEntry, findEntry, hlt, heq, ih, hkey]

theorem findEntry_eq_none (h : ∀ a ∈ l, k < a.1) : findEntry k l = none := by
  induction l with
  | nil => rfl
  | cons b _ ih =>
    rw [findEntry, if_neg (h b mem_cons_self).ne]
    exact ih fun a ha => h a (mem_cons_of_mem b ha)

theorem findEntry_eq_some_iff (h : l.Pairwise fun a b => a.1 < b.1) :
    findEntry k l = some v ↔ (k, v) ∈ l := by
  induction l with
  | nil => simp [findEntry]
  | cons b _ ih =>
    obtain ⟨hb, hrest⟩ := pairwise_cons.mp h
    by_cases hk : k = b.1
    · rw [findEntry, if_pos hk, Option.some.injEq, mem_cons]
      constructor
      · rintro rfl
        exact .inl (by rw [hk])
      · rintro (heq | hmem)
        · rw [← heq]
        · exact absurd hk (hb _ hmem).ne'
    · rw [findEntry, if_neg hk, ih hrest, mem_cons]
      constructor
      · exact .inr
      · rintro (heq | hmem)
        · exact absurd (congrArg Prod.fst heq) hk
        · exact hmem

end Lists

section Maps
variable {κ υ : Type} [LinearOrder κ]

def empty : OrderedMap κ υ := ⟨[], .nil⟩

def find? (m : OrderedMap κ υ) (k : κ) : Option υ := findEntry k m.entries

def contains (m : OrderedMap κ υ) (k : κ) : Bool := (m.find? k).isSome

def insert (m : OrderedMap κ υ) (k : κ) (v : υ) : OrderedMap κ υ :=
  ⟨insertEntry k v m.entries, pairwise_insertEntry m.sorted k v⟩

def retain (m : OrderedMap κ υ) (keep : κ → υ → Bool) : OrderedMap κ υ :=
  ⟨m.entries.filter fun e => keep e.1 e.2, m.sorted.filter _⟩

def keys (m : OrderedMap κ υ) : List κ := m.entries.map Prod.fst

def values (m : OrderedMap κ υ) : List υ := m.entries.map Prod.snd

def size (m : OrderedMap κ υ) : ℕ := m.entries.length

instance instDecidableEq [DecidableEq υ] : DecidableEq (OrderedMap κ υ) := fun m n =>
  decidable_of_iff (m.entries = n.entries) (by cases m; cases n; simp)

variable {m n : OrderedMap κ υ} {k k' : κ} {v w : υ}

theorem ext_entries (h : m.entries = n.entries) : m = n := by
  cases m
  cases n
  congr

@[simp] theorem find?_empty (k : κ) : (empty : OrderedMap κ υ).find? k = none := rfl

@[simp] theorem length_keys (m : OrderedMap κ υ) : m.keys.length = m.size := length_map _

theorem find?_insert (m : OrderedMap κ υ) (k k' : κ) (v : υ) :
    (m.insert k v).find? k' = if k' = k then some v else m.find? k' :=
  findEntry_insertEntry k k' v m.entries

@[simp] theorem find?_insert_self (m : OrderedMap κ υ) (k : κ) (v : υ) :
    (m.insert k v).find? k = some v := by
  rw [find?_insert, if_pos rfl]

theorem find?_insert_of_ne (m : OrderedMap κ υ) (v : υ) (h : k' ≠ k) :
    (m.insert k v).find? k' = m.find? k' := by
  rw [find?_insert, if_neg h]

theorem find?_eq_some_iff : m.find? k = some v ↔ (k, v) ∈ m.entries :=
  findEntry_eq_some_iff m.sorted

theorem find?_retain_eq_some_iff {keep} :
    (m.retain keep).find? k = some v ↔ m.find? k = some v ∧ keep k v := by
  rw [find?_eq_some_iff, find?_eq_some_iff, retain, mem_filter]

theorem mem_keys_iff : k ∈ m.keys ↔ ∃ v, m.find? k = some v := by
  simp only [keys, mem_map, Prod.exists, exists_and_right, exists_eq_right]
  exact exists_congr fun v => find?_eq_some_iff.symm

theorem mem_values_iff : v ∈ m.values ↔ ∃ k, m.find? k = some v := by
  simp only [values, mem_map, Prod.exists, exists_eq_right]
  exact exists_congr fun k => find?_eq_some_iff.symm

theorem contains_iff : m.contains k ↔ k ∈ m.keys := by
  rw [contains, Option.isSome_iff_exists, mem_keys_iff]

theorem keys_insert_of_find? (h : m.find? k = some w) (v : υ) : (m.insert k v).keys = m.keys := by
  have key : ∀ l : List (κ × υ), l.Pairwise (fun a b => a.1 < b.1) → findEntry k l = some w →
      (insertEntry k v l).map Prod.fst = l.map Prod.fst := by
    intro l hl hfind
    induction l with
    | nil => cases hfind
    | cons b _ ih =>
      obtain ⟨hb, hrest⟩ := pairwise_cons.mp hl
      by_cases heq : k = b.1
      · simp [insertEntry, heq]
      · rw [findEntry, if_neg heq] at hfind
        have hlt : ¬ k < b.1 := by
          have hmem := (findEntry_eq_some_iff hrest).mp hfind
          exact (hb _ hmem).not_gt
        simp [insertEntry, hlt, heq, ih hrest hfind]
  exact key m.entries m.sorted h

/-- A total over the values grows by the new value and loses the replaced one. -/
theorem sum_values_insert (m : OrderedMap κ υ) (k : κ) (v : υ) (f : υ → ℕ) :
    ((m.insert k v).values.map f).sum + (m.find? k).elim 0 f = (m.values.map f).sum + f v := by
  have key : ∀ l : List (κ × υ), l.Pairwise (fun a b => a.1 < b.1) →
      (((insertEntry k v l).map Prod.snd).map f).sum + (findEntry k l).elim 0 f =
        ((l.map Prod.snd).map f).sum + f v := by
    intro l hl
    induction l with
    | nil => simp [insertEntry, findEntry]
    | cons b rest ih =>
      obtain ⟨hb, hrest⟩ := pairwise_cons.mp hl
      by_cases hlt : k < b.1
      · have hnone : findEntry k rest = none :=
          findEntry_eq_none fun a ha => hlt.trans (hb a ha)
        simp [insertEntry, findEntry, hlt, hlt.ne, hnone]
        omega
      by_cases heq : k = b.1
      · simp [insertEntry, findEntry, heq]
        omega
      · have := ih hrest
        simp [insertEntry, findEntry, hlt, heq] at this ⊢
        omega
  exact key m.entries m.sorted

theorem entries_insert_of_lt (h : ∀ k' ∈ m.keys, k' < k) (v : υ) :
    (m.insert k v).entries = m.entries ++ [(k, v)] := by
  have key : ∀ l : List (κ × υ), (∀ a ∈ l, a.1 < k) → insertEntry k v l = l ++ [(k, v)] := by
    intro l hl
    induction l with
    | nil => rfl
    | cons b _ ih =>
      have hb := hl b mem_cons_self
      rw [insertEntry, if_neg hb.not_gt, if_neg hb.ne', cons_append,
        ih fun a ha => hl a (mem_cons_of_mem b ha)]
  exact key m.entries fun a ha => h a.1 (mem_map.mpr ⟨a, ha, rfl⟩)

theorem entries_insert_perm (h : m.find? k = none) (v : υ) :
    (m.insert k v).entries.Perm ((k, v) :: m.entries) := by
  have key : ∀ l : List (κ × υ), findEntry k l = none → (insertEntry k v l).Perm ((k, v) :: l) := by
    intro l hfind
    induction l with
    | nil => exact .refl _
    | cons b _ ih =>
      by_cases heq : k = b.1
      · rw [findEntry, if_pos heq] at hfind
        cases hfind
      rw [findEntry, if_neg heq] at hfind
      rw [insertEntry, if_neg heq]
      split_ifs
      · exact .refl _
      · exact ((ih hfind).cons b).trans (.swap (k, v) b _)
  exact key m.entries h

theorem keys_insert_perm (h : m.find? k = none) (v : υ) : (m.insert k v).keys.Perm (k :: m.keys) :=
  (entries_insert_perm h v).map Prod.fst

theorem values_insert_perm (h : m.find? k = none) (v : υ) :
    (m.insert k v).values.Perm (v :: m.values) :=
  (entries_insert_perm h v).map Prod.snd

theorem size_insert_of_find? (h : m.find? k = none) (v : υ) : (m.insert k v).size = m.size + 1 := by
  simpa using (keys_insert_perm h v).length_eq

theorem keys_pairwise (m : OrderedMap κ υ) : m.keys.Pairwise (· < ·) :=
  pairwise_map.mpr m.sorted

theorem nodup_keys (m : OrderedMap κ υ) : m.keys.Nodup :=
  m.keys_pairwise.imp fun h => h.ne

theorem ext_find? (h : ∀ k, m.find? k = n.find? k) : m = n := by
  have nodup : ∀ m : OrderedMap κ υ, m.entries.Nodup := by
    intro m
    exact m.sorted.imp fun hlt heq => hlt.ne (congrArg Prod.fst heq)
  have hperm : m.entries.Perm n.entries := by
    rw [perm_ext_iff_of_nodup (nodup m) (nodup n)]
    intro e
    rw [← find?_eq_some_iff, ← find?_eq_some_iff, h]
  exact ext_entries
    (hperm.eq_of_pairwise (fun _ _ _ _ hlt hgt => absurd hlt hgt.asymm) m.sorted n.sorted)

def erase (m : OrderedMap κ υ) (k : κ) : OrderedMap κ υ := m.retain fun k' _ => k' ≠ k

theorem find?_erase (m : OrderedMap κ υ) (k k' : κ) :
    (m.erase k).find? k' = if k' = k then none else m.find? k' := by
  ext v
  rw [erase, find?_retain_eq_some_iff, decide_eq_true_iff]
  by_cases hk : k' = k
  · simp [hk]
  · simp [hk]

theorem insert_erase (h : m.find? k = some v) : (m.erase k).insert k v = m := by
  refine ext_find? ?_
  intro k'
  rw [find?_insert, find?_erase]
  split_ifs with hk
  · rw [hk, h]
  · rfl

theorem values_erase_perm (h : m.find? k = some v) : m.values.Perm (v :: (m.erase k).values) := by
  have hnone : (m.erase k).find? k = none := by rw [find?_erase, if_pos rfl]
  have hperm := values_insert_perm hnone v
  rwa [insert_erase h] at hperm

/-- The map of some entries, of which a later one replaces an earlier one. -/
def ofEntries (l : List (κ × υ)) : OrderedMap κ υ := l.foldl (fun m e => m.insert e.1 e.2) empty

theorem ofEntries_entries (m : OrderedMap κ υ) : ofEntries m.entries = m := by
  have key : ∀ l : List (κ × υ), l.Pairwise (fun a b => a.1 < b.1) → (ofEntries l).entries = l := by
    intro l
    induction l using reverseRecOn with
    | nil => exact fun _ => rfl
    | append_singleton l e ih =>
      intro hl
      obtain ⟨hinit, -, hlast⟩ := pairwise_append.mp hl
      have hrest := ih hinit
      rw [ofEntries, foldl_append, foldl_cons, foldl_nil]
      change ((ofEntries l).insert e.1 e.2).entries = l ++ [e]
      rw [entries_insert_of_lt, hrest]
      intro k hk
      rw [keys, hrest] at hk
      obtain ⟨a, ha, rfl⟩ := mem_map.mp hk
      exact hlast a ha e (mem_singleton_self e)
  exact ext_entries (key m.entries m.sorted)

theorem eq_of_keys_perm {m m' : OrderedMap κ Unit} (h : m.keys.Perm m'.keys) : m = m' := by
  have hkeys : m.keys = m'.keys :=
    h.eq_of_pairwise (fun _ _ _ _ hlt hgt => absurd hlt hgt.asymm) m.keys_pairwise m'.keys_pairwise
  have hentries : ∀ s : OrderedMap κ Unit, s.entries = s.keys.map (·, ()) := by
    intro s
    rw [keys, map_map]
    exact (map_id s.entries).symm
  exact ext_entries (by rw [hentries m, hentries m', hkeys])

def ofKeys (l : List κ) : OrderedMap κ Unit := l.foldl (fun s k => s.insert k ()) empty

theorem mem_keys_insert : k' ∈ (m.insert k v).keys ↔ k' = k ∨ k' ∈ m.keys := by
  rw [mem_keys_iff, mem_keys_iff, find?_insert]
  by_cases h : k' = k
  · simp [h]
  · simp [h]

@[simp] theorem mem_keys_ofKeys {l} : k ∈ (ofKeys l).keys ↔ k ∈ l := by
  have key : ∀ (l : List κ) (s : OrderedMap κ Unit),
      k ∈ (l.foldl (fun s k => s.insert k ()) s).keys ↔ k ∈ l ∨ k ∈ s.keys := by
    intro l
    induction l with
    | nil => simp
    | cons a l ih =>
      intro s
      rw [foldl_cons, ih, mem_keys_insert, mem_cons]
      tauto
  exact (key l empty).trans (by simp [keys, empty])

theorem keys_ofKeys {l : List κ} (h : l.Pairwise (· < ·)) : (ofKeys l).keys = l := by
  have hnodup : l.Nodup := h.imp fun hlt => hlt.ne
  have hperm : (ofKeys l).keys.Perm l :=
    (perm_ext_iff_of_nodup (nodup_keys _) hnodup).mpr fun _ => mem_keys_ofKeys
  exact hperm.eq_of_pairwise (fun _ _ _ _ hlt hgt => absurd hlt hgt.asymm) (keys_pairwise _) h

/-- The keys are numbered from zero without a gap. -/
def Numbered (num : κ → ℕ) (m : OrderedMap κ υ) (count : ℕ) : Prop :=
  m.keys.map num = List.range count

section Numbered
variable {num : κ → ℕ} {count : ℕ}

section
variable (h : Numbered num m count)
include h

theorem Numbered.lt_count (hk : k ∈ m.keys) : num k < count := by
  have hmem : num k ∈ m.keys.map num := mem_map.mpr ⟨k, hk, rfl⟩
  rwa [h, mem_range] at hmem

theorem Numbered.size_eq : m.size = count := by
  have := congrArg length h
  simpa using this

theorem Numbered.find?_eq_none (hk : count ≤ num k) : m.find? k = none := by
  cases hfound : m.find? k with
  | none => rfl
  | some v =>
    have := h.lt_count (mem_keys_iff.mpr ⟨v, hfound⟩)
    omega

theorem Numbered.insert_next (hk : num k = count)
    (hmono : ∀ a b, num a < num b → a < b) (v : υ) : Numbered num (m.insert k v) (count + 1) := by
  have hlast : ∀ k' ∈ m.keys, k' < k := by
    intro k' hk'
    have := h.lt_count hk'
    exact hmono k' k (by omega)
  have hkeys : (m.insert k v).keys = m.keys ++ [k] := by
    rw [keys, entries_insert_of_lt hlast, map_append]
    rfl
  rw [Numbered, hkeys, map_append, h, range_succ, map_singleton, hk]

theorem Numbered.insert_existing (hfound : m.find? k = some w)
    (v : υ) : Numbered num (m.insert k v) count := by
  rw [Numbered, keys_insert_of_find? hfound]
  exact h

end

end Numbered

def IndexedBy (key : υ → κ) (m : OrderedMap κ υ) : Prop := ∀ k v, m.find? k = some v → k = key v

section IndexedBy
variable {key : υ → κ}

theorem indexedBy_empty (key : υ → κ) : IndexedBy key (empty : OrderedMap κ υ) := by
  intro k v h
  rw [find?_empty] at h
  cases h

theorem IndexedBy.insert (h : IndexedBy key m) (v : υ) : IndexedBy key (m.insert (key v) v) := by
  intro k w hfound
  rw [find?_insert] at hfound
  split_ifs at hfound with heq
  · cases hfound
    exact heq
  · exact h k w hfound

theorem IndexedBy.erase (h : IndexedBy key m) (k : κ) : IndexedBy key (m.erase k) := by
  intro k' v hfound
  rw [find?_erase] at hfound
  split_ifs at hfound
  exact h k' v hfound

theorem IndexedBy.map_values (h : IndexedBy key m) : m.values.map key = m.keys := by
  rw [values, keys, map_map]
  refine map_congr_left ?_
  intro e he
  exact (h e.1 e.2 (find?_eq_some_iff.mpr he)).symm

theorem IndexedBy.ofEntries_values (h : IndexedBy key m) :
    ofEntries (m.values.map fun v => (key v, v)) = m := by
  have hentries : m.values.map (fun v => (key v, v)) = m.entries := by
    rw [values, map_map]
    conv_rhs => rw [← map_id m.entries]
    refine map_congr_left ?_
    intro e he
    exact Prod.ext (h e.1 e.2 (find?_eq_some_iff.mpr he)).symm rfl
  rw [hentries, ofEntries_entries]

end IndexedBy

theorem forall_find?_insert {P : κ → υ → Prop} (h : ∀ k' w, m.find? k' = some w → P k' w)
    (hv : P k v) : ∀ k' w, (m.insert k v).find? k' = some w → P k' w := by
  intro k' w hfound
  rw [find?_insert] at hfound
  split_ifs at hfound with heq
  · cases hfound
    rw [heq]
    exact hv
  · exact h k' w hfound

end Maps

end OrderedMap
end Oxid
