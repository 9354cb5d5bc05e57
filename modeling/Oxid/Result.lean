import Mathlib.Data.List.Forall2
import Mathlib.Data.Option.Basic

/-!
# Early returns

Checked code returns at the first thing that is wrong: in `Except`, a chain of binds.  The
lemmas here turn "the chain returned" into a fact for each check, and back.
-/

namespace Oxid.Result
open List

variable {ε ε' α β : Type}

/-- Return with an error when the condition holds. -/
def rejectIf (bad : Bool) (e : ε) : Except ε Unit := if bad then .error e else .ok ()

@[simp] theorem rejectIf_false (e : ε) : rejectIf false e = .ok () := rfl

@[simp] theorem rejectIf_ok_iff {bad} {e : ε} {u : Unit} :
    rejectIf bad e = .ok u ↔ bad = false := by
  cases bad <;> simp [rejectIf]

theorem ok_bind (a : α) (f : α → Except ε β) : (Except.ok a >>= f : Except ε β) = f a := rfl

variable {x : Except ε α}

theorem exists_ok_of_isOk (h : x.isOk) : ∃ a, x = .ok a := by
  cases x with
  | error => cases h
  | ok a => exact ⟨a, rfl⟩

variable {b : β}

theorem bind_ok_iff {f} : x >>= f = .ok b ↔ ∃ a, x = .ok a ∧ f a = .ok b := by
  cases x with
  | error => simp [bind, Except.bind]
  | ok => simp [bind, Except.bind]

theorem map_ok_iff {f} : x.map f = .ok b ↔ ∃ a, x = .ok a ∧ f a = b := by
  cases x with
  | error => simp [Except.map]
  | ok => simp [Except.map]

@[simp] theorem mapError_ok_iff {g : ε → ε'} {a : α} : x.mapError g = .ok a ↔ x = .ok a := by
  cases x with
  | error => simp [Except.mapError]
  | ok => simp [Except.mapError]

variable {as : List α}

section
variable {f : α → Except ε β}

theorem mapM_ok_iff {o r} :
    o.mapM f = .ok r ↔ o = none ∧ r = none ∨ ∃ a b, o = some a ∧ f a = .ok b ∧ r = some b := by
  cases o with
  | none => cases r <;> simp [pure, Except.pure]
  | some a => cases h : f a <;> simp [Functor.map, Except.map, h, eq_comm]

theorem mapM_ok_iff_map {g} (h : ∀ a b, f a = .ok b ↔ a = g b) {o} {r : Option β} :
    o.mapM f = .ok r ↔ o = r.map g := by
  rw [mapM_ok_iff]
  cases r <;> simp [h]

theorem list_mapM_ok_iff {g} (h : ∀ a b, f a = .ok b ↔ a = g b) {as} {bs : List β} :
    as.mapM f = .ok bs ↔ as = bs.map g := by
  induction as generalizing bs with
  | nil => cases bs <;> simp [pure, Except.pure]
  | cons a _ ih =>
    rw [mapM_cons, bind_ok_iff]
    constructor
    · rintro ⟨b, hb, hrest⟩
      obtain ⟨bs', hbs', heq⟩ := bind_ok_iff.mp hrest
      cases heq
      rw [map_cons, ← (h a b).mp hb, ← ih.mp hbs']
    · intro heq
      cases bs with
      | nil => cases heq
      | cons b bs =>
        rw [map_cons, cons.injEq] at heq
        exact ⟨b, (h a b).mpr heq.1, bind_ok_iff.mpr ⟨bs, ih.mpr heq.2, rfl⟩⟩

/-! ## Loops -/

theorem list_mapM_ok_iff_forall₂ {bs} :
    as.mapM f = .ok bs ↔ List.Forall₂ (fun a b => f a = .ok b) as bs := by
  induction as generalizing bs with
  | nil =>
    rw [mapM_nil, forall₂_nil_left_iff]
    change Except.ok [] = Except.ok bs ↔ bs = []
    rw [Except.ok.injEq, eq_comm]
  | cons a _ ih =>
    rw [mapM_cons, bind_ok_iff]
    constructor
    · intro h
      obtain ⟨b, hb, hrest⟩ := h
      obtain ⟨bs', hbs', heq⟩ := bind_ok_iff.mp hrest
      cases heq
      exact .cons hb (ih.mp hbs')
    · intro h
      cases h with
      | cons hb hrest => exact ⟨_, hb, bind_ok_iff.mpr ⟨_, ih.mpr hrest, rfl⟩⟩

theorem exists_of_mem_of_mapM_ok {bs} (h : as.mapM f = .ok bs) (hb : b ∈ bs) :
    ∃ a ∈ as, f a = .ok b := by
  rw [list_mapM_ok_iff_forall₂] at h
  induction h with
  | nil => exact absurd hb not_mem_nil
  | cons hab _ ih =>
    rcases mem_cons.mp hb with rfl | hb
    · exact ⟨_, mem_cons_self, hab⟩
    · obtain ⟨a, ha, hab⟩ := ih hb
      exact ⟨a, mem_cons_of_mem _ ha, hab⟩

theorem exists_mapM_ok_iff : (∃ bs, as.mapM f = .ok bs) ↔ ∀ a ∈ as, ∃ b, f a = .ok b := by
  induction as with
  | nil => exact ⟨fun _ a ha => absurd ha not_mem_nil, fun _ => ⟨[], rfl⟩⟩
  | cons a _ ih =>
    rw [forall_mem_cons, ← ih]
    constructor
    · intro h
      obtain ⟨bs, hbs⟩ := h
      cases list_mapM_ok_iff_forall₂.mp hbs with
      | cons hb hrest => exact ⟨⟨_, hb⟩, _, list_mapM_ok_iff_forall₂.mpr hrest⟩
    · intro h
      obtain ⟨⟨b, hb⟩, bs, hbs⟩ := h
      exact ⟨b :: bs, list_mapM_ok_iff_forall₂.mpr (.cons hb (list_mapM_ok_iff_forall₂.mp hbs))⟩

end

theorem forM_ok {f : α → Except ε Unit} (h : ∀ a ∈ as, f a = .ok ()) : as.forM f = .ok () := by
  induction as with
  | nil => rfl
  | cons a as ih =>
    obtain ⟨ha, has⟩ := forall_mem_cons.mp h
    change (f a >>= fun _ => as.forM f) = .ok ()
    rw [ha, ok_bind]
    exact ih has

section Fold
variable {step : β → α → Except ε β} {as : List α} {b c : β}

/-- What survives every round of a loop holds where the loop returns. -/
theorem foldlM_invariant {P : β → Prop} (hfold : as.foldlM step b = .ok c) (base : P b)
    (next : ∀ p a q, a ∈ as → P p → step p a = .ok q → P q) : P c := by
  induction as generalizing b with
  | nil =>
    rw [foldlM_nil] at hfold
    cases hfold
    exact base
  | cons a _ ih =>
    rw [foldlM_cons] at hfold
    obtain ⟨q, hq, hrest⟩ := bind_ok_iff.mp hfold
    exact ih hrest (next b a q mem_cons_self base hq)
      fun p a q ha => next p a q (mem_cons_of_mem _ ha)

theorem exists_foldlM_ok {P : β → List α → Prop} (base : P b as)
    (next : ∀ p a rest, P p (a :: rest) → ∃ q, step p a = .ok q ∧ P q rest) :
    ∃ c, as.foldlM step b = .ok c := by
  induction as generalizing b with
  | nil => exact ⟨b, rfl⟩
  | cons a as ih =>
    obtain ⟨q, hq, hinv⟩ := next b a as base
    rw [foldlM_cons, hq]
    exact ih hinv

end Fold

def okOr (value : Option α) (e : ε) : Except ε α := value.elim (.error e) .ok

@[simp] theorem okOr_ok_iff {value} {e : ε} {a : α} : okOr value e = .ok a ↔ value = some a := by
  cases value <;> simp [okOr]

section FailsOnly
variable {P : ε → Prop} {e : ε} {x : Except ε α} {f : α → Except ε β}

/-- Every error of the computation satisfies `P`. -/
def FailsOnly (P : ε → Prop) (x : Except ε α) : Prop := ∀ e, x = .error e → P e

abbrev Avoids (e : ε) (x : Except ε α) : Prop := FailsOnly (· ≠ e) x

theorem failsOnly_ok (a : α) : FailsOnly P (.ok a : Except ε α) := by
  intro e h
  cases h

theorem failsOnly_error (h : P e) : FailsOnly P (.error e : Except ε α) := by
  intro e' heq
  cases heq
  exact h

theorem failsOnly_rejectIf {bad} (h : P e) : FailsOnly P (rejectIf bad e) := by
  cases bad with
  | true => exact failsOnly_error h
  | false => exact failsOnly_ok ()

theorem failsOnly_okOr {value : Option α} (h : P e) : FailsOnly P (okOr value e) := by
  cases value with
  | none => exact failsOnly_error h
  | some a => exact failsOnly_ok a

theorem failsOnly_mapError {x : Except ε' α} {g : ε' → ε} (h : ∀ e, P (g e)) :
    FailsOnly P (x.mapError g) := by
  cases x with
  | error e => exact failsOnly_error (h e)
  | ok a => exact failsOnly_ok a

theorem failsOnly_bind (hx : FailsOnly P x) (hf : ∀ a, x = .ok a → FailsOnly P (f a)) :
    FailsOnly P (x >>= f) := by
  cases x with
  | error e => exact failsOnly_error (hx e rfl)
  | ok a => exact hf a rfl

theorem failsOnly_foldlM {step} (h : ∀ b a, FailsOnly P (step b a)) (b : β) (as : List α) :
    FailsOnly P (as.foldlM step b) := by
  induction as generalizing b with
  | nil => exact failsOnly_ok b
  | cons a _ ih =>
    rw [foldlM_cons]
    exact failsOnly_bind (h b a) fun b' _ => ih b'

end FailsOnly

end Oxid.Result
