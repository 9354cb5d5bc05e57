import Mathlib.Data.List.Induction
import Mathlib.Data.Option.Basic

/-!
# Runs of partial deterministic machines

A machine is a step function `σ → ε → Option σ`, where `none` is a step that does not return.
The rules here reduce a statement about every finite run to one about a single step.
-/

namespace Oxid.Transition
open Option List

universe u v w
variable {σ : Type u} {ε : Type v} {τ : Type w}

/-- Feed the events in order, stopping where a step does not return. -/
def run (step : σ → ε → Option σ) (s : σ) (es : List ε) : Option σ := es.foldlM step s

/-- A state some finite run ends in. -/
def Reachable (step : σ → ε → Option σ) (s t : σ) : Prop := ∃ es, run step s es = some t

/-- Each step the run takes from `s` meets the condition `C` on the state before
it and the event. -/
def EveryStep (step : σ → ε → Option σ) (C : σ → ε → Prop) (s : σ) (es : List ε) : Prop :=
  ∀ before e after p, es = before ++ e :: after → run step s before = some p → C p e

/-- One of the steps the run takes from `s` meets the condition `C`. -/
def SomeStep (step : σ → ε → Option σ) (C : σ → ε → Prop) (s : σ) (es : List ε) : Prop :=
  ∃ before e after p, es = before ++ e :: after ∧ run step s before = some p ∧ C p e

variable {step : σ → ε → Option σ} {s t : σ} {e : ε} {es : List ε}

@[simp] theorem run_nil (step : σ → ε → Option σ) (s : σ) : run step s [] = some s := rfl

@[simp] theorem run_cons (step : σ → ε → Option σ) (s : σ) (e : ε) (es : List ε) :
    run step s (e :: es) = (step s e).bind fun t => run step t es := by
  simp [run]

theorem run_append (step : σ → ε → Option σ) (s : σ) (es fs : List ε) :
    run step s (es ++ fs) = (run step s es).bind fun t => run step t fs := by
  simp [run]

theorem run_concat_eq_some :
    run step s (es ++ [e]) = some t ↔ ∃ p, run step s es = some p ∧ step p e = some t := by
  rw [run_append, bind_eq_some_iff]
  simp only [run_cons, run_nil, bind_fun_some]

theorem concat_eq_append_cons {α : Type*} {l before after : List α} {a b : α} :
    l ++ [b] = before ++ a :: after ↔ (before = l ∧ a = b ∧ after = []) ∨
        ∃ rest, after = rest ++ [b] ∧ l = before ++ a :: rest := by
  constructor
  · intro heq
    induction after using reverseRecOn with
    | nil =>
      obtain ⟨hl, hab⟩ := append_inj' heq rfl
      cases hab
      exact .inl ⟨hl.symm, rfl, rfl⟩
    | append_singleton rest =>
      rw [← cons_append, ← append_assoc] at heq
      obtain ⟨hl, hbc⟩ := append_inj' heq rfl
      cases hbc
      exact .inr ⟨rest, rfl, hl⟩
  · intro h
    obtain ⟨rfl, rfl, rfl⟩ | ⟨rest, rfl, rfl⟩ := h
    · rfl
    · rw [append_assoc, cons_append]

section
variable {C : σ → ε → Prop}

theorem EveryStep.of_append {fs : List ε}
    (h : EveryStep step C s (es ++ fs)) : EveryStep step C s es := by
  intro before f after p heq hp
  refine h before f (after ++ fs) p ?_ hp
  rw [heq, append_assoc, cons_append]

theorem EveryStep.of_append_run {p : σ} {fs : List ε}
    (h : EveryStep step C s (es ++ fs)) (hp : run step s es = some p) : EveryStep step C p fs := by
  intro before f after q heq hq
  refine h (es ++ before) f after q ?_ ?_
  · rw [heq, append_assoc]
  · rw [run_append, hp]
    exact hq

theorem EveryStep.of_concat (h : EveryStep step C s (es ++ [e])) : EveryStep step C s es :=
  h.of_append

theorem EveryStep.last {p : σ} (h : EveryStep step C s (es ++ [e]))
    (hp : run step s es = some p) : C p e :=
  h es e [] p rfl hp

theorem EveryStep.concat (h : EveryStep step C s es)
    (hlast : ∀ p, run step s es = some p → C p e) : EveryStep step C s (es ++ [e]) := by
  intro before f after p heq hp
  obtain ⟨rfl, rfl, -⟩ | ⟨rest, -, rfl⟩ := concat_eq_append_cons.mp heq
  · exact hlast p hp
  · exact h before f rest p rfl hp

theorem everyStep_nil : EveryStep step C s [] := by
  intro before e after p heq
  simp at heq

theorem everyStep_cons :
    EveryStep step C s (e :: es) ↔ C s e ∧ ∀ t, step s e = some t → EveryStep step C t es := by
  constructor
  · intro h
    refine ⟨h [] e es s rfl rfl, ?_⟩
    intro t ht before f after p heq hp
    exact h (e :: before) f after p (by rw [heq]; rfl) (by rw [run_cons, ht]; exact hp)
  · rintro ⟨hC, hrest⟩ before f after p heq hp
    cases before with
    | nil =>
      cases heq
      cases hp
      exact hC
    | cons g before =>
      cases heq
      rw [run_cons, bind_eq_some_iff] at hp
      obtain ⟨t, ht, hp⟩ := hp
      exact hrest t ht before f after p rfl hp

theorem not_someStep_nil : ¬ SomeStep step C s [] := by
  rintro ⟨before, e, after, p, heq, -⟩
  simp at heq

theorem someStep_concat {p : σ} (hp : run step s es = some p) :
    SomeStep step C s (es ++ [e]) ↔ SomeStep step C s es ∨ C p e := by
  constructor
  · rintro ⟨before, f, after, q, heq, hq, hC⟩
    obtain ⟨rfl, rfl, -⟩ | ⟨rest, -, rfl⟩ := concat_eq_append_cons.mp heq
    · rw [hp] at hq
      cases hq
      exact .inr hC
    · exact .inl ⟨before, f, rest, q, rfl, hq, hC⟩
  · rintro (⟨before, f, after, q, rfl, hq, hC⟩ | hC)
    · exact ⟨before, f, after ++ [e], q, by simp, hq, hC⟩
    · exact ⟨es, e, [], p, rfl, hp, hC⟩

end

instance decidableEveryStep (step : σ → ε → Option σ) (C : σ → ε → Prop)
    [∀ p e, Decidable (C p e)] : ∀ (s : σ) (es : List ε), Decidable (EveryStep step C s es)
  | _, [] => isTrue everyStep_nil
  | s, e :: es =>
    match h : step s e with
    | none => decidable_of_iff (C s e) (by simp [everyStep_cons, h])
    | some t =>
      have := decidableEveryStep step C t es
      decidable_of_iff (C s e ∧ EveryStep step C t es) (by simp [everyStep_cons, h])

/-- **Induction along a run.**  The motive speaks of the events fed so far and of
the state they led to. -/
theorem run_induction {motive : List ε → σ → Prop} (base : motive [] s)
    (next : ∀ es p e q, run step s es = some p → motive es p → step p e = some q →
      motive (es ++ [e]) q) : ∀ es t, run step s es = some t → motive es t := by
  intro es
  induction es using reverseRecOn with
  | nil =>
    intro t h
    rw [run_nil, some.injEq] at h
    exact h ▸ base
  | append_singleton es e ih =>
    intro t h
    obtain ⟨p, hp, hstep⟩ := run_concat_eq_some.mp h
    exact next es p e t hp (ih p hp) hstep

/-- Induction along a run whose events meet a condition.  If they do, so do the earlier
ones. -/
theorem run_induction_while {H : List ε → Prop} {motive : List ε → σ → Prop}
    (earlier : ∀ es e, H (es ++ [e]) → H es) (base : motive [] s)
    (next : ∀ es p e q, H (es ++ [e]) → run step s es = some p → motive es p →
      step p e = some q → motive (es ++ [e]) q)
    (hH : H es) (h : run step s es = some t) : motive es t := by
  refine run_induction (motive := fun es t => H es → motive es t) (fun _ => base) ?_ es t h hH
  intro es p e q hp ih hstep hH
  exact next es p e q hH hp (ih (earlier es e hH)) hstep

/-- **The invariant rule.**  What holds at the start and survives every step holds
wherever a run ends. -/
theorem run_invariant {Inv : σ → Prop} (base : Inv s)
    (next : ∀ p e q, Inv p → step p e = some q → Inv q) (h : run step s es = some t) : Inv t :=
  run_induction (motive := fun _ p => Inv p) base
    (fun _ p e q _ hp hstep => next p e q hp hstep) es t h

theorem Reachable.refl (step : σ → ε → Option σ) (s : σ) : Reachable step s s := ⟨[], rfl⟩

theorem Reachable.trans {r : σ} (h : Reachable step s t) (h' : Reachable step t r) :
    Reachable step s r := by
  obtain ⟨es, hes⟩ := h
  obtain ⟨fs, hfs⟩ := h'
  exact ⟨es ++ fs, by rw [run_append, hes]; exact hfs⟩

theorem Reachable.next {r : σ} (h : Reachable step s t) (hstep : step t e = some r) :
    Reachable step s r :=
  h.trans ⟨[e], by rw [run_cons, hstep]; rfl⟩

theorem Reachable.invariant {Inv : σ → Prop} (h : Reachable step s t) (base : Inv s)
    (next : ∀ p e q, Inv p → step p e = some q → Inv q) : Inv t := by
  obtain ⟨es, hes⟩ := h
  exact run_invariant base next hes

theorem run_invariant_of_everyStep {C : σ → ε → Prop} (Inv : σ → Prop) (base : Inv s)
    (next : ∀ p e q, Inv p → C p e → step p e = some q → Inv q)
    (hC : EveryStep step C s es) (h : run step s es = some t) : Inv t := by
  refine run_induction_while (motive := fun _ p => Inv p) (fun _ _ hfs => hfs.of_concat) base ?_
    hC h
  intro fs p e q hfs hp ih hstep
  exact next p e q ih (hfs.last hp) hstep

/-- **The progress rule.**  If each step that meets the condition returns and
preserves the invariant, so does every run whose steps meet it. -/
theorem exists_run_of_everyStep {C : σ → ε → Prop} (Inv : σ → Prop) (base : Inv s)
    (next : ∀ p e, Inv p → C p e → ∃ q, step p e = some q ∧ Inv q)
    (hC : EveryStep step C s es) : ∃ t, run step s es = some t ∧ Inv t := by
  induction es using reverseRecOn with
  | nil => exact ⟨s, rfl, base⟩
  | append_singleton _ e ih =>
    obtain ⟨p, hp, hinv⟩ := ih hC.of_concat
    obtain ⟨q, hq, hinv'⟩ := next p e hinv (hC.last hp)
    exact ⟨q, run_concat_eq_some.mpr ⟨p, hp, hq⟩, hinv'⟩

/-- **Simulation.**  Two machines are fed the same events, all of which satisfy
`P`.  If related states step to related states, or neither steps, then the runs
end in related states, or neither ends.  The relation may speak of the events
fed so far. -/
theorem run_rel {step' : τ → ε → Option τ} {s' : τ} {P : ε → Prop}
    {motive : List ε → σ → τ → Prop} (base : motive [] s s')
    (next : ∀ es p q e, run step s es = some p → motive es p q → P e →
      Option.Rel (motive (es ++ [e])) (step p e) (step' q e)) :
    ∀ es, (∀ e ∈ es, P e) → Option.Rel (motive es) (run step s es) (run step' s' es) := by
  intro es
  induction es using reverseRecOn with
  | nil => exact fun _ => .some base
  | append_singleton es e ih =>
    intro hP
    have hrel := ih fun f hf => hP f (mem_append_left [e] hf)
    rw [run_append, run_append]
    cases hp : run step s es with
    | none =>
      rw [hp] at hrel
      cases hq : run step' s' es with
      | none => exact .none
      | some => rw [hq] at hrel; cases hrel
    | some p =>
      rw [hp] at hrel
      cases hq : run step' s' es with
      | none => rw [hq] at hrel; cases hrel
      | some q =>
        rw [hq] at hrel
        cases hrel with
        | some h =>
          simp only [bind_some, run_cons, run_nil, bind_fun_some]
          exact next es p q e hp h (hP e (by simp))

section Outputs
variable {α : Type*} {out : σ → ε → List α} {p : σ} {fs : List ε}

/-- What the steps of a run put out, in order; a step puts something out whether
or not it returns. -/
def outputs (step : σ → ε → Option σ) (out : σ → ε → List α) : σ → List ε → List α
  | _, [] => []
  | s, e :: es => out s e ++ (step s e).elim [] fun t => outputs step out t es

@[simp] theorem outputs_nil : outputs step out s [] = [] := rfl

theorem outputs_append (h : run step s es = some p) :
    outputs step out s (es ++ fs) = outputs step out s es ++ outputs step out p fs := by
  induction es generalizing s with
  | nil =>
    rw [run_nil, some.injEq] at h
    rw [h, nil_append, outputs_nil, nil_append]
  | cons e _ ih =>
    rw [run_cons, bind_eq_some_iff] at h
    obtain ⟨t, ht, h⟩ := h
    simp only [cons_append, outputs, ht, elim_some, ih h, append_assoc]

theorem outputs_concat (h : run step s es = some p) :
    outputs step out s (es ++ [e]) = outputs step out s es ++ out p e := by
  rw [outputs_append h]
  cases hq : step p e with
  | none => simp [outputs, hq]
  | some => simp [outputs, hq]

/-- **Refinement.**  Each step of the first machine is seen, through `abs`, as a
finite run of the second one, the steps `moves` gives.  Then so is every run. -/
theorem run_outputs {ε' : Type*} {step' : τ → ε' → Option τ} {C : σ → ε → Prop} {abs : σ → τ}
    {moves : σ → ε → List ε'}
    (next : ∀ p e q, C p e → step p e = some q → run step' (abs p) (moves p e) = some (abs q))
    (hC : EveryStep step C s es) (h : run step s es = some t) :
    run step' (abs s) (outputs step moves s es) = some (abs t) := by
  refine run_induction_while (motive := fun fs p =>
    run step' (abs s) (outputs step moves s fs) = some (abs p)) (fun _ _ hfs => hfs.of_concat)
    rfl ?_ hC h
  intro fs p e q hfs hp ih hstep
  rw [outputs_concat hp, run_append, ih]
  exact next p e q (hfs.last hp) hstep

theorem outputs_of_run_outputs {ε' β : Type*} {step' : τ → ε' → Option τ} {C : σ → ε → Prop}
    {abs : σ → τ} {moves : σ → ε → List ε'} {out' : τ → ε' → List β} {f : α → β}
    (next : ∀ p e q, C p e → step p e = some q → run step' (abs p) (moves p e) = some (abs q))
    (hout : ∀ p e, C p e → outputs step' out' (abs p) (moves p e) = (out p e).map f)
    (hC : EveryStep step C s es) (h : run step s es = some t) :
    outputs step' out' (abs s) (outputs step moves s es) = (outputs step out s es).map f := by
  refine run_induction_while (motive := fun fs _ =>
    outputs step' out' (abs s) (outputs step moves s fs) = (outputs step out s fs).map f)
    (fun _ _ hfs => hfs.of_concat) rfl ?_ hC h
  intro fs p e q hfs hp ih hstep
  have hrun := run_outputs next hfs.of_concat hp
  rw [outputs_concat hp, outputs_concat hp, outputs_append hrun, ih,
    hout p e (hfs.last hp), map_append]

end Outputs

theorem rel_ite {R : σ → τ → Prop} {c c' : Prop} [Decidable c] [Decidable c']
    {a b : Option σ} {a' b' : Option τ} (hc : c' ↔ c) (hyes : c → Option.Rel R a a')
    (hno : ¬ c → Option.Rel R b b') :
    Option.Rel R (if c then a else b) (if c' then a' else b') := by
  by_cases h : c
  · rw [if_pos h, if_pos (hc.mpr h)]
    exact hyes h
  · rw [if_neg h, if_neg (mt hc.mp h)]
    exact hno h

section Reports
variable {ρ : Type*}

def stepOf (act : σ → ε → Option (σ × Option ρ)) (s : σ) (e : ε) : Option σ :=
  (act s e).map Prod.fst

def reportsOf (act : σ → ε → Option (σ × Option ρ)) (s : σ) (e : ε) : List ρ :=
  ((act s e).bind Prod.snd).toList

def history (act : σ → ε → Option (σ × Option ρ)) (s : σ) (es : List ε) : List ρ :=
  outputs (stepOf act) (reportsOf act) s es

variable {act : σ → ε → Option (σ × Option ρ)} {C : σ → ε → Prop}
  {P : List ρ → σ → Prop}

/-- What holds at the start with nothing reported, and survives every event that meets the
condition with what it reports, holds at the end of every run with all it reported. -/
theorem history_invariant_of_everyStep (hC : EveryStep (stepOf act) C s es)
    (h : run (stepOf act) s es = some t) (base : P [] s)
    (next : ∀ past p e q f, P past p → C p e → act p e = some (q, f) → P (past ++ f.toList) q) :
    P (history act s es) t := by
  refine run_induction_while (motive := fun es t => P (history act s es) t)
    (fun _ _ hes => hes.of_concat) base ?_ hC h
  intro es p e q hes hp ih hstep
  obtain ⟨⟨q', f⟩, hact, rfl⟩ := map_eq_some_iff.mp hstep
  have hreports : reportsOf act p e = f.toList := by
    rw [reportsOf, hact, bind_some]
  rw [history, outputs_concat hp, hreports]
  exact next _ _ _ _ _ ih (hes.last hp) hact

theorem history_invariant (h : run (stepOf act) s es = some t) (base : P [] s)
    (next : ∀ past p e q f, P past p → act p e = some (q, f) → P (past ++ f.toList) q) :
    P (history act s es) t := by
  refine history_invariant_of_everyStep (C := fun _ _ => True) (fun _ _ _ _ _ _ => trivial) h
    base ?_
  intro past p e q f hpast _ hact
  exact next past p e q f hpast hact

/-- Every report is justified by those before it. -/
def EveryReport (G : List ρ → ρ → Prop) (reports : List ρ) : Prop :=
  ∀ before r after, reports = before ++ r :: after → G before r

theorem everyReport_nil {G : List ρ → ρ → Prop} : EveryReport G [] := by
  intro before r after heq
  simp at heq

theorem EveryReport.append {G : List ρ → ρ → Prop} {reports : List ρ} {f : Option ρ}
    (h : EveryReport G reports) (hf : ∀ r, f = some r → G reports r) :
    EveryReport G (reports ++ f.toList) := by
  cases f with
  | none => simpa using h
  | some =>
    intro before r' after heq
    obtain ⟨rfl, rfl, -⟩ | ⟨rest, -, hold⟩ := concat_eq_append_cons.mp heq
    · exact hf r' rfl
    · exact h before r' rest hold

theorem EveryReport.of_append {G : List ρ → ρ → Prop} {reports more : List ρ}
    (h : EveryReport G (reports ++ more)) : EveryReport G reports := by
  intro before r after heq
  exact h before r (after ++ more) (by simp [heq])

/-- Something of the kind `P` was reported after `a`. -/
def Since (a : ρ) (P : ρ → Prop) (reports : List ρ) : Prop :=
  ∃ before after, reports = before ++ a :: after ∧ ∃ b ∈ after, P b

variable {a b : ρ} {K : ρ → Prop} {reports more : List ρ} {f : Option ρ}

theorem Since.mem (h : Since a K reports) : a ∈ reports := by
  obtain ⟨before, after, rfl, -⟩ := h
  simp

theorem Since.exists_mem (h : Since a K reports) : ∃ b ∈ reports, K b := by
  obtain ⟨before, after, rfl, b, hb, hK⟩ := h
  exact ⟨b, by simp [hb], hK⟩

theorem Since.append (h : Since a K reports) : Since a K (reports ++ more) := by
  obtain ⟨before, after, rfl, b, hb, hK⟩ := h
  exact ⟨before, after ++ more, by simp, b, mem_append_left more hb, hK⟩

theorem since_concat (ha : a ∈ reports) (hb : K b) : Since a K (reports ++ [b]) := by
  obtain ⟨before, after, rfl⟩ := append_of_mem ha
  exact ⟨before, after ++ [b], by simp, b, by simp, hb⟩

/-- What has happened since `a` had happened before, or is what is reported now. -/
theorem Since.of_append (h : Since a K (reports ++ f.toList)) :
    Since a K reports ∨ ∃ b, f = some b ∧ K b := by
  cases f with
  | none => exact .inl (by simpa using h)
  | some r =>
    obtain ⟨before, after, heq, b, hb, hK⟩ := h
    obtain ⟨-, -, rfl⟩ | ⟨rest, rfl, hold⟩ := concat_eq_append_cons.mp heq
    · cases hb
    · rcases mem_append.mp hb with hb | hb
      · exact .inl ⟨before, rest, hold, b, hb, hK⟩
      · exact .inr ⟨r, rfl, mem_singleton.mp hb ▸ hK⟩

end Reports

end Oxid.Transition
