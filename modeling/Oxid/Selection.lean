import Mathlib.Data.List.Nodup
import Mathlib.Data.List.Sublists

/-!
# Choosing from a list

Choices from a list, with all that are required, are extended item by item, and what is no
longer alive is dropped.  If what is alive stays alive without its last item, dropping loses
nothing (`survives_concat`).
-/

namespace Oxid.Selection
open List

universe u
variable {γ : Type u} {required : γ → Prop} {alive : List γ → Prop} {items chosen : List γ} {g : γ}

/-- Some of the items in their order, among them all that are required. -/
structure IsSelection (required : γ → Prop) (items chosen : List γ) : Prop where
  sublist : chosen.Sublist items
  complete : ∀ g ∈ items, required g → g ∈ chosen

def Survives (required : γ → Prop) (alive : List γ → Prop) (items chosen : List γ) : Prop :=
  IsSelection required items chosen ∧ alive chosen

theorem flatten_sublist {l l' : List (List γ)} (h : l.Sublist l') :
    l.flatten.Sublist l'.flatten := by
  induction h with
  | slnil => exact .refl _
  | cons a _ ih => exact ih.trans (sublist_append_right a _)
  | cons_cons a _ ih => exact (List.Sublist.refl a).append ih

theorem isSelection_nil : IsSelection required [] chosen ↔ chosen = [] := by
  constructor
  · intro h
    exact sublist_nil.mp h.sublist
  · rintro rfl
    exact ⟨.refl _, fun g hg => absurd hg not_mem_nil⟩

theorem isSelection_concat (hnodup : (items ++ [g]).Nodup) :
    IsSelection required (items ++ [g]) chosen ↔ ¬ required g ∧ IsSelection required items chosen ∨
      ∃ init, chosen = init ++ [g] ∧ IsSelection required items init := by
  have hg : g ∉ items := by
    intro hmem
    rw [nodup_append] at hnodup
    exact hnodup.2.2 g hmem g (by simp) rfl
  constructor
  · intro h
    obtain ⟨init, last, rfl, hinit, hlast⟩ := sublist_append_iff.mp h.sublist
    rcases sublist_cons_iff.mp hlast with hnone | ⟨rest, rfl, hrest⟩
    · -- Nothing is taken from the end.
      obtain rfl := sublist_nil.mp hnone
      rw [append_nil] at h ⊢
      refine .inl ⟨fun hreq => hg (hinit.subset (h.complete g (by simp) hreq)), hinit, ?_⟩
      intro g' hg' hreq
      exact h.complete g' (by simp [hg']) hreq
    · obtain rfl := sublist_nil.mp hrest
      refine .inr ⟨init, rfl, hinit, ?_⟩
      intro g' hg' hreq
      rcases mem_append.mp (h.complete g' (by simp [hg']) hreq) with hmem | hmem
      · exact hmem
      · rw [mem_singleton] at hmem
        exact absurd (hmem ▸ hg') hg
  · rintro (⟨hreq, h⟩ | ⟨init, rfl, h⟩)
    · refine ⟨h.sublist.trans (sublist_append_left items [g]), ?_⟩
      intro g' hg' hreq'
      rcases mem_append.mp hg' with hmem | hmem
      · exact h.complete g' hmem hreq'
      · rw [mem_singleton] at hmem
        exact absurd (hmem ▸ hreq') hreq
    · refine ⟨h.sublist.append (.refl _), ?_⟩
      intro g' hg' hreq
      rcases mem_append.mp hg' with hmem | hmem
      · exact mem_append_left _ (h.complete g' hmem hreq)
      · exact mem_append_right _ hmem

/-- **One more item.**  What survives it is a survivor that leaves it out, or one
extended by it that is still alive. -/
theorem survives_concat (hnodup : (items ++ [g]).Nodup)
    (hclosed : ∀ init g, alive (init ++ [g]) → alive init) :
    Survives required alive (items ++ [g]) chosen ↔
      ¬ required g ∧ Survives required alive items chosen ∨
      ∃ init, chosen = init ++ [g] ∧ Survives required alive items init ∧ alive (init ++ [g]) := by
  rw [Survives, isSelection_concat hnodup]
  constructor
  · rintro ⟨⟨hreq, h⟩ | ⟨init, rfl, h⟩, halive⟩
    · exact .inl ⟨hreq, h, halive⟩
    · exact .inr ⟨init, rfl, ⟨h, hclosed init g halive⟩, halive⟩
  · rintro (⟨hreq, h, halive⟩ | ⟨init, rfl, ⟨h, -⟩, halive⟩)
    · exact ⟨.inl ⟨hreq, h⟩, halive⟩
    · exact ⟨.inr ⟨init, rfl, h⟩, halive⟩

end Oxid.Selection
