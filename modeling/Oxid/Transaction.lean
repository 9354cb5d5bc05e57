import Mathlib.Logic.Basic

/-!
# Methods that may fail

A method on `&mut self` that returns early keeps what it wrote before the error; in
`Method σ ε α` the state is threaded below the exception.
-/

namespace Oxid.Transaction

variable {σ ε α β : Type}

/-- A method on a mutable state of type `σ` that may fail with an `ε`. -/
abbrev Method (σ ε α : Type) := ExceptT ε (StateM σ) α

/-- The result of a method called on a state, and the state it leaves. -/
def call (s : σ) (m : Method σ ε α) : Except ε α × σ := StateT.run (ExceptT.run m) s

def okOr (value : Option α) (e : ε) : Method σ ε α := value.elim (throw e) pure

def failIf (bad : Prop) [Decidable bad] (e : ε) : Method σ ε Unit :=
  if bad then throw e else pure ()

/-- Return early when the condition holds, and leave another state behind. -/
def abortIf (bad : Prop) [Decidable bad] (t : σ) (e : ε) : Method σ ε Unit :=
  if bad then do
    set t
    throw e
  else pure ()

def ofResult (x : Except ε α) : Method σ ε α := ExceptT.mk (pure x)

@[simp] theorem ofResult_ok (a : α) : (ofResult (.ok a) : Method σ ε α) = pure a := rfl

/-- The call fails and leaves the state, or succeeds and satisfies `Q`. -/
def AllOrNothing (s : σ) (m : Method σ ε α) (Q : α → σ → Prop) : Prop :=
  (∃ e, call s m = (.error e, s)) ∨ ∃ a t, call s m = (.ok a, t) ∧ Q a t

variable {s : σ} {Q : α → σ → Prop}

theorem call_bind (s : σ) (m : Method σ ε α) (f : α → Method σ ε β) : call s (m >>= f) =
      match call s m with
      | (.ok a, t) => call t (f a)
      | (.error e, t) => (.error e, t) := by
  simp only [call, ExceptT.run_bind, StateT.run_bind]
  cases StateT.run (ExceptT.run m) s with
  | mk result => cases result <;> rfl

theorem call_map (s : σ) (g : α → β) (m : Method σ ε α) :
    call s (g <$> m) = (g <$> (call s m).1, (call s m).2) := by
  rw [map_eq_pure_bind, call_bind]
  cases call s m with
  | mk result => cases result <;> rfl

theorem allOrNothing_of_call {m : Method σ ε α} {a} {t : σ} (h : call s m = (.ok a, t))
    (hQ : Q a t) : AllOrNothing s m Q :=
  .inr ⟨a, t, h, hQ⟩

theorem call_get_bind (s : σ) (f : σ → Method σ ε α) : call s (get >>= f) = call s (f s) := by
  rw [call_bind]
  rfl

variable {value : Option β}

theorem call_okOr_bind {b} (h : value = some b) (e : ε) (f : β → Method σ ε α) :
    call s (okOr value e >>= f) = call s (f b) := by
  rw [call_bind, h]
  rfl

variable {bad : Prop}

theorem call_failIf_bind [Decidable bad] (h : ¬ bad) (e : ε) (f : Unit → Method σ ε α) :
    call s (failIf bad e >>= f) = call s (f ()) := by
  rw [call_bind, failIf, if_neg h]
  rfl

theorem call_failIf_bind_of_bad [Decidable bad] (h : bad) (e : ε) (f : Unit → Method σ ε α) :
    call s (failIf bad e >>= f) = (.error e, s) := by
  rw [call_bind, failIf, if_pos h]
  rfl

theorem allOrNothing_get {f : σ → Method σ ε α} (h : AllOrNothing s (f s) Q) :
    AllOrNothing s (get >>= f) Q := by
  rw [AllOrNothing, call_get_bind]
  exact h

variable {f : β → Method σ ε α}

theorem allOrNothing_okOr {e} (h : ∀ b, value = some b → AllOrNothing s (f b) Q) :
    AllOrNothing s (okOr value e >>= f) Q := by
  cases value with
  | none => exact .inl ⟨e, by rw [call_bind]; rfl⟩
  | some b =>
    rw [AllOrNothing, call_okOr_bind rfl]
    exact h b rfl

theorem allOrNothing_failIf [Decidable bad] {e} {f : Unit → Method σ ε α}
    (h : ¬ bad → AllOrNothing s (f ()) Q) : AllOrNothing s (failIf bad e >>= f) Q := by
  by_cases hbad : bad
  · exact .inl ⟨e, call_failIf_bind_of_bad hbad e f⟩
  · rw [AllOrNothing, call_failIf_bind hbad]
    exact h hbad

variable {x : Except ε β}

theorem allOrNothing_ofResult (h : ∀ b, x = .ok b → AllOrNothing s (f b) Q) :
    AllOrNothing s (ofResult x >>= f) Q := by
  cases x with
  | error e => exact .inl ⟨e, by rw [call_bind]; rfl⟩
  | ok b => exact h b rfl

theorem allOrNothing_map {m : Method σ ε α} (g : α → β) {P : β → σ → Prop}
    (h : AllOrNothing s m fun a t => P (g a) t) : AllOrNothing s (g <$> m) P := by
  rw [AllOrNothing, call_map]
  rcases h with ⟨e, h⟩ | ⟨a, t, h, hP⟩
  · exact .inl ⟨e, by rw [h]; rfl⟩
  · exact .inr ⟨g a, t, by rw [h]; rfl, hP⟩

section Ensures
variable {m : Method σ ε β} {f : β → Method σ ε α} {a : α}

def Ensures (s : σ) (m : Method σ ε α) (Q : α → σ → Prop) : Prop :=
  ∀ a t, call s m = (.ok a, t) → Q a t

theorem ensures_pure (h : Q a s) : Ensures s (pure a : Method σ ε α) Q := by
  intro b t hcall
  cases hcall
  exact h

theorem ensures_ofResult {x : Except ε α} (h : ∀ a, x = .ok a → Q a s) :
    Ensures s (ofResult x) Q := by
  intro b t hcall
  cases x with
  | error => cases hcall
  | ok =>
    cases hcall
    exact h _ rfl

theorem ensures_bind (h : Ensures s m fun b t => Ensures t (f b) Q) : Ensures s (m >>= f) Q := by
  intro a t hcall
  rw [call_bind] at hcall
  cases hm : call s m with
  | mk result u =>
    rw [hm] at hcall
    cases result with
    | error => cases hcall
    | ok b => exact h b u hm a t hcall

theorem Ensures.mono {P : α → σ → Prop} {m : Method σ ε α} (h : Ensures s m P)
    (hPQ : ∀ a t, P a t → Q a t) : Ensures s m Q :=
  fun a t hcall => hPQ a t (h a t hcall)

end Ensures

section Leaves
variable {R : Except ε α → σ → Prop} {t : σ} {e : ε}

def Leaves (s : σ) (m : Method σ ε α) (R : Except ε α → σ → Prop) : Prop :=
  R (call s m).1 (call s m).2

theorem leaves_pure {a} (h : R (.ok a) s) : Leaves s (pure a : Method σ ε α) R := h

theorem leaves_throw (h : R (.error e) s) : Leaves s (throw e : Method σ ε α) R := h

theorem leaves_get {f} (h : Leaves s (f s) R) : Leaves s (get >>= f) R := by
  rw [Leaves, call_get_bind]
  exact h

theorem leaves_failIf [Decidable bad] {f} (hbad : bad → R (.error e) s)
    (h : ¬ bad → Leaves s (f ()) R) : Leaves s (failIf bad e >>= f) R := by
  by_cases hb : bad
  · rw [Leaves, call_failIf_bind_of_bad hb]
    exact hbad hb
  · rw [Leaves, call_failIf_bind hb]
    exact h hb

theorem leaves_abortIf [Decidable bad] {f} (hbad : bad → R (.error e) t)
    (h : ¬ bad → Leaves s (f ()) R) : Leaves s (abortIf bad t e >>= f) R := by
  rw [Leaves, call_bind, abortIf]
  by_cases hb : bad
  · rw [if_pos hb]
    exact hbad hb
  · rw [if_neg hb]
    exact h hb

theorem leaves_okOr (hnone : value = none → R (.error e) s)
    (h : ∀ b, value = some b → Leaves s (f b) R) : Leaves s (okOr value e >>= f) R := by
  cases value with
  | none => exact hnone rfl
  | some b =>
    rw [Leaves, call_okOr_bind rfl]
    exact h b rfl

theorem leaves_ofResult (herror : ∀ e, x = .error e → R (.error e) s)
    (h : ∀ b, x = .ok b → Leaves s (f b) R) : Leaves s (ofResult x >>= f) R := by
  cases x with
  | error e => exact herror e rfl
  | ok b => exact h b rfl

end Leaves

section Reports
variable {effect : Except ε α → σ → σ} {m : Method σ ε α}

/-- The result is the same on every state, and determines what is written. -/
def Reports (effect : Except ε α → σ → σ) (m : Method σ ε α) : Prop :=
  ∃ result, ∀ s, call s m = (result, effect result s)

theorem Reports.call_eq (h : Reports effect m) (s₀ s : σ) :
    call s m = ((call s₀ m).1, effect (call s₀ m).1 s) := by
  obtain ⟨result, h⟩ := h
  rw [h s, h s₀]

theorem reports_ofResult_bind (herror : ∀ e, x = .error e → effect (.error e) = id)
    (hok : ∀ b, x = .ok b → Reports effect (f b)) : Reports effect (ofResult x >>= f) := by
  cases x with
  | error e =>
    refine ⟨.error e, fun s => ?_⟩
    rw [call_bind, herror e rfl]
    rfl
  | ok b =>
    obtain ⟨result, h⟩ := hok b rfl
    refine ⟨result, fun s => ?_⟩
    rw [call_bind]
    exact h s

theorem reports_ofResult {x} (h : effect x = id) : Reports effect (ofResult x) := by
  refine ⟨x, fun s => ?_⟩
  rw [h]
  rfl

theorem reports_map (g : α → β) {effect} (h : Reports (fun result => effect (g <$> result)) m) :
    Reports effect (g <$> m) := by
  obtain ⟨result, h⟩ := h
  refine ⟨g <$> result, fun s => ?_⟩
  rw [call_map, h]

end Reports

end Oxid.Transaction
