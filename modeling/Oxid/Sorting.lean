import Mathlib.Data.List.Sort

/-!
# Sorting by a key

`sort_by_key` is stable, and so is insertion.  If the key tells the elements of a list
apart, the sorted list does not depend on the order they came in.
-/

namespace Oxid.Sorting

variable {α ω : Type*} [LinearOrder ω] {key : α → ω} {items items' : List α}

/-- The items in ascending order of their keys, those with equal keys as they came. -/
def sortBy (key : α → ω) (items : List α) : List α :=
  items.insertionSort fun a b => key a ≤ key b

theorem sortBy_perm (key : α → ω) (items : List α) : (sortBy key items).Perm items :=
  items.perm_insertionSort _

instance instTotalKey (key : α → ω) : Std.Total fun a b => key a ≤ key b :=
  ⟨fun a b => le_total (key a) (key b)⟩

instance instTransKey (key : α → ω) : IsTrans α fun a b => key a ≤ key b :=
  ⟨fun _ _ _ => le_trans⟩

theorem pairwise_sortBy (key : α → ω) (items : List α) :
    (sortBy key items).Pairwise fun a b => key a ≤ key b :=
  items.pairwise_insertionSort _

/-- **One order.**  A key that tells the items apart leaves nothing to the input's order,
nor to which key of the same order is sorted by. -/
theorem sortBy_eq_of_sameOrder {ω' : Type*} [LinearOrder ω'] {key' : α → ω'}
    (hkey : ∀ a ∈ items, ∀ b ∈ items, key a = key b → a = b)
    (horder : ∀ a ∈ items, ∀ b ∈ items, key' a ≤ key' b → key a ≤ key b)
    (h : items'.Perm items) : sortBy key' items' = sortBy key items := by
  have hmem : ∀ a ∈ sortBy key' items', a ∈ items :=
    fun a ha => h.subset ((sortBy_perm key' items').subset ha)
  have hsorted : (sortBy key' items').Pairwise fun a b => key a ≤ key b :=
    (pairwise_sortBy key' items').imp_of_mem fun ha hb => horder _ (hmem _ ha) _ (hmem _ hb)
  refine List.Perm.eq_of_pairwise ?_ hsorted (pairwise_sortBy key items)
    ((sortBy_perm key' items').trans (h.trans (sortBy_perm key items).symm))
  intro a b ha hb hab hba
  have hb' : b ∈ items := (sortBy_perm key items).subset hb
  exact hkey a (hmem a ha) b hb' (le_antisymm hab hba)

theorem sortBy_eq_of_perm (hkey : ∀ a ∈ items, ∀ b ∈ items, key a = key b → a = b)
    (h : items'.Perm items) : sortBy key items' = sortBy key items :=
  sortBy_eq_of_sameOrder hkey (fun _ _ _ _ hle => hle) h

/-- The sorted list tells in which order the key puts the items. -/
theorem le_of_sortBy_eq {ω' : Type*} [LinearOrder ω'] {key' : α → ω'}
    (hkey : ∀ a ∈ items, ∀ b ∈ items, key a = key b → a = b)
    (h : sortBy key' items' = sortBy key items) {a b : α} (ha : a ∈ items) (hb : b ∈ items)
    (hle : key a ≤ key b) : key' a ≤ key' b := by
  have hmem : ∀ {c}, c ∈ sortBy key items ↔ c ∈ items := (sortBy_perm key items).mem_iff
  have hforth : (sortBy key items).Pairwise fun a b => key a ≤ key b → key' a ≤ key' b := by
    rw [← h]
    refine (pairwise_sortBy key' items').imp ?_
    intro _ _ hle _
    exact hle
  have hback : (sortBy key items).Pairwise fun a b => key b ≤ key a → key' b ≤ key' a :=
    (pairwise_sortBy key items).imp_of_mem fun ha hb hab hba =>
      (hkey _ (hmem.mp ha) _ (hmem.mp hb) (le_antisymm hab hba)) ▸ le_rfl
  exact hforth.forall_of_forall_of_flip (fun _ _ _ => le_rfl) hback (hmem.mpr ha) (hmem.mpr hb) hle

theorem sortBy_map {β : Type*} (f : β → α) (items : List β) :
    sortBy key (items.map f) = (sortBy (fun b => key (f b)) items).map f :=
  (List.map_insertionSort _ _ f items fun _ _ _ _ => Iff.rfl).symm

end Oxid.Sorting
