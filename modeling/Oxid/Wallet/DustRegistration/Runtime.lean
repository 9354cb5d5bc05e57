import Oxid.Wallet.DustRegistration.Step

/-!
# Coordinator and runtime

The coordinator of `dust_registration_coordinator.rs` asks for an operation; the runtime of
`dust_registration_runtime.rs` lets a caller admit it, and takes the result back only against
its token.  The operation timeline is not modelled.
-/

namespace Oxid.Wallet.DustRegistration

open Projection Transition Option

/-! ## The coordinator -/

inductive Effect
  | prepare (identity : Identity)
  | requestProtectedAuthorization (identity : Identity) (draftId : WalletTransactionDraftId)
  | submit (identity : Identity) (draftId : WalletTransactionDraftId)
  | observeTransaction (identity : Identity) (transactionId : ChainTransactionId)
  | refreshDust (identity : Identity) (transactionId : ChainTransactionId)
  deriving DecidableEq

def followEffect (identity : Identity) (included : Bool) (transaction : ChainTransactionId) :
    Effect :=
  if included then .refreshDust identity transaction
  else .observeTransaction identity transaction

def registrationEffect (identity : Identity) (r : Registration) : Option Effect :=
  match r.authorizationPhase with
  | .awaitingAuthorization => some (.requestProtectedAuthorization identity r.draftId)
  | .submitting => some (.submit identity r.draftId)
  | .submitted => r.transactionId.map (followEffect identity r.included)

def nextEffect (p : Projection) (eligibilityPermitsPrepare authorizationStopped : Bool) :
    Option Effect :=
  p.identity.bind fun identity =>
    match p.state with
    | .actionRequired =>
      if authorizationStopped && p.registration.all (0 < ·.abandonmentRevision) then none
      else
        match p.abandonedRegistration, p.registration with
        | some parked, _ => registrationEffect identity parked
        | none, some r =>
          if 0 < r.abandonmentRevision then some (.prepare identity)
          else registrationEffect identity r
        | none, none =>
          if p.preparationRevision = 0 || eligibilityPermitsPrepare then some (.prepare identity)
          else none
    | .awaitingAuthorization =>
      p.registration.map fun r => .requestProtectedAuthorization identity r.draftId
    | .submitting => p.registration.map fun r => .submit identity r.draftId
    | .confirming =>
      (p.registration.bind (·.transactionId)).map (.observeTransaction identity)
    | .reconciling =>
      p.registration.bind fun r => r.transactionId.map (followEffect identity r.included)
    | _ => none

structure Coordinator where
  projection : Projection
  activeEffect : Option Effect
  deriving DecidableEq

namespace Coordinator

def default : Coordinator := ⟨Projection.default, none⟩

def recovered (p : Projection) : Coordinator := ⟨p, nextEffect p false false⟩

def permitsPrepare : Event → Bool
  | .eligibility _ _ eligible => eligible
  | _ => false

def stopsAuthorization : Event → Bool
  | .authorizationRejected .. | .cancelled .. => true
  | _ => false

def reduce (c : Coordinator) (e : Event) : Option Coordinator :=
  (reduceSettlement c.projection e).map fun next =>
    let accepted : Bool := next ≠ c.projection
    ⟨next, nextEffect next (accepted && permitsPrepare e) (accepted && stopsAuthorization e)⟩

end Coordinator

/-! ## The runtime -/

inductive Operation
  | prepare (effect : Effect)
  | requestProtectedAuthorization (effect : Effect)
  | submit (effect : Effect)
  | observeTransaction (effect : Effect)
  | refreshDust (effect : Effect)
  deriving DecidableEq

def Operation.ofEffect (effect : Effect) : Operation :=
  match effect with
  | .prepare .. => .prepare effect
  | .requestProtectedAuthorization .. => .requestProtectedAuthorization effect
  | .submit .. => .submit effect
  | .observeTransaction .. => .observeTransaction effect
  | .refreshDust .. => .refreshDust effect

structure Token where
  (runtimeInstance sequence : UInt64)
  deriving DecidableEq

inductive Admission
  | admitted (operation : Operation) (token : Token)
  | busy
  | stale
  | idle

structure Runtime where
  coordinator : Coordinator
  admittedEffect : Option (Effect × Token)
  (runtimeInstance nextAdmissionSequence : UInt64)
  deriving DecidableEq

namespace Runtime

def fresh (runtimeInstance : UInt64) (coordinator : Coordinator) : Runtime where
  coordinator := coordinator
  admittedEffect := none
  runtimeInstance := runtimeInstance
  nextAdmissionSequence := 0

variable (r : Runtime)

def observe (e : Event) : Option Runtime :=
  (r.coordinator.reduce e).map fun next =>
    if next.projection ≠ r.coordinator.projection then
      { r with coordinator := next, admittedEffect := none }
    else r

def admitCurrent (effect : Effect) : Admission × Runtime :=
  match r.coordinator.activeEffect with
  | none => (.idle, r)
  | some current =>
    if current ≠ effect then (.stale, r)
    else if r.admittedEffect.any (·.1 = effect) then (.busy, r)
    else
      let sequence := r.nextAdmissionSequence + 1
      let token : Token := ⟨r.runtimeInstance, sequence⟩
      (.admitted (.ofEffect effect) token,
        { r with nextAdmissionSequence := sequence, admittedEffect := some (effect, token) })

def complete (token : Token) (e : Event) : Option (Bool × Runtime) :=
  match r.admittedEffect with
  | none => some (false, r)
  | some (effect, admittedToken) =>
    if admittedToken ≠ token ∨ r.coordinator.activeEffect ≠ some effect then some (false, r)
    else
      (r.coordinator.reduce e).map fun next =>
        if next.projection = r.coordinator.projection then (false, r)
        else (true, { r with coordinator := next, admittedEffect := none })

def release (token : Token) : Bool × Runtime :=
  if r.admittedEffect.all (·.2 ≠ token) then (false, r)
  else (true, { r with admittedEffect := none })

end Runtime

/-! ## Runs of calls -/

inductive Call
  | observe (event : Event)
  | admitCurrent (effect : Effect)
  | complete (token : Token) (event : Event)
  | release (token : Token)

inductive Answer
  | observed
  | admission (admission : Admission)
  | accepted (flag : Bool)

def Answer.isAdmitted : Answer → Bool
  | .admission (.admitted ..) => true
  | _ => false

namespace Runtime

def perform (r : Runtime) : Call → Option (Answer × Runtime)
  | .observe e => (r.observe e).map fun next => (.observed, next)
  | .admitCurrent effect => some (.admission (r.admitCurrent effect).1, (r.admitCurrent effect).2)
  | .complete token e => (r.complete token e).map fun next => (.accepted next.1, next.2)
  | .release token => some (.accepted (r.release token).1, (r.release token).2)

def step (r : Runtime) (c : Call) : Option Runtime := (r.perform c).map Prod.snd

def admissions : Runtime → List Call → ℕ
  | _, [] => 0
  | r, c :: cs =>
    match r.perform c with
    | none => 0
    | some (answer, next) => (if answer.isAdmitted then 1 else 0) + admissions next cs

end Runtime

abbrev runCalls (r : Runtime) (cs : List Call) : Option Runtime :=
  Transition.run Runtime.step r cs

def Ends (r : Runtime) (c : Call) : Prop :=
  match c with
  | .observe e =>
    ∃ next, r.observe e = some next ∧ next.coordinator.projection ≠ r.coordinator.projection
  | .admitCurrent _ => False
  | .complete token e => ∃ next, r.complete token e = some (true, next)
  | .release token => (r.release token).1

def Outstanding (start : Runtime) (cs : List Call) (effect : Effect) (token : Token) : Prop :=
  ∃ before after r₀ r₁, cs = before ++ .admitCurrent effect :: after ∧
    runCalls start before = some r₀ ∧
    r₀.admitCurrent effect = (.admitted (.ofEffect effect) token, r₁) ∧
    Transition.EveryStep Runtime.step (fun r c => ¬ Ends r c) r₁ after

def Completed (start : Runtime) (cs : List Call) (token : Token) : Prop :=
  Transition.SomeStep Runtime.step
    (fun r c => ∃ e next, c = .complete token e ∧ r.complete token e = some (true, next)) start cs

/-! ## Admissions -/

def Runtime.Current (r : Runtime) : Prop :=
  ∀ effect token, r.admittedEffect = some (effect, token) →
    r.coordinator.activeEffect = some effect

section Calls
variable {r next : Runtime} {c : Call} {effect : Effect} {token : Token} {e : Event}

open DustRegistration.Runtime

theorem admitCurrent_cases (r : Runtime) (effect : Effect) : ((r.admitCurrent effect).2 = r ∧
        ∀ operation token, (r.admitCurrent effect).1 ≠ .admitted operation token) ∨
      (r.coordinator.activeEffect = some effect ∧ r.admittedEffect.any (·.1 = effect) = false ∧
        r.admitCurrent effect =
          (.admitted (.ofEffect effect) ⟨r.runtimeInstance, r.nextAdmissionSequence + 1⟩, { r with
              nextAdmissionSequence := r.nextAdmissionSequence + 1
              admittedEffect :=
                some (effect, ⟨r.runtimeInstance, r.nextAdmissionSequence + 1⟩) })) := by
  cases hactive : r.coordinator.activeEffect with
  | none =>
    exact .inl ⟨by simp [admitCurrent, hactive], by simp [admitCurrent, hactive]⟩
  | some current =>
    by_cases hcurrent : current = effect
    · cases hbusy : r.admittedEffect.any (·.1 = effect) with
      | true =>
        refine .inl ⟨?_, ?_⟩ <;> simp [admitCurrent, hactive, hcurrent, hbusy]
      | false =>
        refine .inr ⟨by rw [hcurrent], rfl, ?_⟩
        simp [admitCurrent, hactive, hcurrent, hbusy]
    · refine .inl ⟨?_, ?_⟩ <;> simp [admitCurrent, hactive, hcurrent]

theorem observe_cases (h : r.observe e = some next) :
    next = r ∨ next.coordinator.projection ≠ r.coordinator.projection ∧
      next.admittedEffect = none ∧ next.nextAdmissionSequence = r.nextAdmissionSequence ∧
      r.coordinator.reduce e = some next.coordinator := by
  simp only [observe, map_eq_some_iff] at h
  obtain ⟨coordinator, hreduce, rfl⟩ := h
  split_ifs with hchanged
  · exact .inr ⟨hchanged, rfl, rfl, hreduce⟩
  · exact .inl rfl

theorem complete_cases {flag} (h : r.complete token e = some (flag, next)) :
    (flag = false ∧ next = r) ∨ (flag ∧ (∃ effect, r.admittedEffect = some (effect, token)) ∧
        next.admittedEffect = none ∧ next.nextAdmissionSequence = r.nextAdmissionSequence ∧
        r.coordinator.reduce e = some next.coordinator) := by
  simp only [complete] at h
  split at h
  · cases h
    exact .inl ⟨rfl, rfl⟩
  · rename_i effect admittedToken hadmitted
    split_ifs at h with hstale
    · cases h
      exact .inl ⟨rfl, rfl⟩
    · obtain ⟨htoken, -⟩ := not_or.mp hstale
      rw [not_not] at htoken
      simp only [map_eq_some_iff] at h
      obtain ⟨coordinator, hreduce, h⟩ := h
      split_ifs at h
      · cases h
        exact .inl ⟨rfl, rfl⟩
      · cases h
        exact .inr ⟨rfl, ⟨effect, htoken ▸ hadmitted⟩, rfl, rfl, hreduce⟩

theorem release_cases (r : Runtime) (token : Token) : r.release token = (false, r) ∨
      (∃ effect, r.admittedEffect = some (effect, token)) ∧
        r.release token = (true, { r with admittedEffect := none }) := by
  simp only [release]
  split_ifs with hother
  · exact .inl rfl
  · refine .inr ⟨?_, rfl⟩
    cases hadmitted : r.admittedEffect with
    | none => simp [hadmitted] at hother
    | some admission =>
      obtain ⟨effect, admittedToken⟩ := admission
      rw [hadmitted] at hother
      simp only [all_some, ne_eq, decide_not, Bool.not_eq_true', decide_eq_false_iff_not,
        not_not] at hother
      exact ⟨effect, by rw [hother]⟩

/-- A call leaves everything as it is, ends the admission, or makes one. -/
inductive Performs (r : Runtime) (c : Call) (answer : Answer) : Runtime → Prop
  | refused (kept : ¬ Ends r c) (plain : answer.isAdmitted = false) : Performs r c answer r
  | ended (next : Runtime) (ends : Ends r c) (plain : answer.isAdmitted = false)
      (free : next.admittedEffect = none)
      (sequence : next.nextAdmissionSequence = r.nextAdmissionSequence) : Performs r c answer next
  | admitted (effect : Effect) (next : Runtime) (call : c = .admitCurrent effect)
      (grant : answer.isAdmitted) (active : r.coordinator.activeEffect = some effect)
      (free : r.admittedEffect.any (·.1 = effect) = false)
      (admits : r.admitCurrent effect = (.admitted (.ofEffect effect)
        ⟨r.runtimeInstance, r.nextAdmissionSequence + 1⟩, next))
      (eq : next = { r with
        nextAdmissionSequence := r.nextAdmissionSequence + 1
        admittedEffect := some (effect, ⟨r.runtimeInstance, r.nextAdmissionSequence + 1⟩) }) :
      Performs r c answer next

theorem performs_of_perform {answer : Answer} (h : r.perform c = some (answer, next)) :
    Performs r c answer next := by
  cases c with
  | observe =>
    simp only [perform, map_eq_some_iff] at h
    obtain ⟨next, hobserve, heq⟩ := h
    cases heq
    rcases observe_cases hobserve with rfl | ⟨hchanged, hnone, hsequence, -⟩
    · refine .refused ?_ rfl
      rintro ⟨next, hobserve', hchanged⟩
      rw [hobserve] at hobserve'
      cases hobserve'
      exact hchanged rfl
    · exact .ended _ ⟨_, hobserve, hchanged⟩ rfl hnone hsequence
  | admitCurrent effect =>
    cases h
    rcases admitCurrent_cases r effect with ⟨hsame, hno⟩ | ⟨hactive, hfree, hadmitted⟩
    · rw [hsame]
      refine .refused id ?_
      cases hadmission : (r.admitCurrent effect).1 with
      | admitted operation token => exact absurd hadmission (hno operation token)
      | busy | stale | idle => rfl
    · rw [hadmitted]
      exact .admitted effect _ rfl rfl hactive hfree hadmitted rfl
  | complete =>
    simp only [perform, map_eq_some_iff] at h
    obtain ⟨⟨flag, next⟩, hcomplete, heq⟩ := h
    cases heq
    rcases complete_cases hcomplete with ⟨rfl, rfl⟩ | ⟨rfl, -, hnone, hsequence, -⟩
    · refine .refused ?_ rfl
      rintro ⟨next, hcomplete'⟩
      rw [hcomplete] at hcomplete'
      cases hcomplete'
    · exact .ended _ ⟨_, hcomplete⟩ rfl hnone hsequence
  | release token =>
    cases h
    rcases release_cases r token with hsame | ⟨-, hreleased⟩
    · rw [hsame]
      exact .refused (by simp [Ends, hsame]) rfl
    · rw [hreleased]
      exact .ended _ (by rw [Ends, hreleased]) rfl rfl rfl

theorem performs_of_step (h : r.step c = some next) : ∃ answer, Performs r c answer next := by
  simp only [step, map_eq_some_iff] at h
  obtain ⟨⟨answer, next'⟩, hperform, rfl⟩ := h
  exact ⟨answer, performs_of_perform hperform⟩

theorem Runtime.Current.free (hcurrent : r.Current)
    (hactive : r.coordinator.activeEffect = some effect)
    (hfree : r.admittedEffect.any (·.1 = effect) = false) : r.admittedEffect = none := by
  cases hadmitted : r.admittedEffect with
  | none => rfl
  | some admission =>
    have := hcurrent admission.1 admission.2 hadmitted
    rw [hactive, some.injEq] at this
    simp [hadmitted, this] at hfree

theorem current_of_free (h : r.admittedEffect = none) : r.Current := by
  intro effect token hsome
  rw [h] at hsome
  cases hsome

theorem Runtime.Current.step (hcurrent : r.Current) (h : r.step c = some next) : next.Current := by
  obtain ⟨answer, hperforms⟩ := performs_of_step h
  cases hperforms with
  | refused => exact hcurrent
  | ended _ _ _ free => exact current_of_free free
  | admitted effect _ _ _ active _ _ eq =>
    rw [eq]
    intro effect' token' hsome
    cases hsome
    exact active

/-- **While an admission is outstanding, a call that does not end it changes
nothing.** -/
theorem step_eq_of_not_ends (hcurrent : r.Current)
    (hadmitted : r.admittedEffect = some (effect, token)) (hends : ¬ Ends r c)
    (h : r.step c = some next) : next = r := by
  obtain ⟨answer, hperforms⟩ := performs_of_step h
  cases hperforms with
  | refused => rfl
  | ended _ ends => exact absurd ends hends
  | admitted _ _ _ _ active free =>
    rw [hcurrent.free active free] at hadmitted
    cases hadmitted

theorem admissions_concat {start cs} (hr : runCalls start cs = some r) :
    start.admissions (cs ++ [c]) =
      start.admissions cs + ((r.perform c).elim 0 fun a => if a.1.isAdmitted then 1 else 0) := by
  induction cs generalizing start with
  | nil =>
    cases hr
    cases hperform : r.perform c with
    | none => simp [admissions, hperform]
    | some => simp [admissions, hperform]
  | cons d _ ih =>
    rw [runCalls, run_cons, bind_eq_some_iff] at hr
    obtain ⟨mid, hmid, hr⟩ := hr
    simp only [step, map_eq_some_iff] at hmid
    obtain ⟨⟨answer, mid'⟩, hperform, rfl⟩ := hmid
    simp only [List.cons_append, admissions, hperform]
    rw [ih hr, Nat.add_assoc]

end Calls

section Runs
variable {start r : Runtime} {cs : List Call} {effect : Effect} {token : Token}

theorem current_runCalls (hstart : start.admittedEffect = none) (hr : runCalls start cs = some r) :
    r.Current :=
  run_invariant (current_of_free hstart)
    (fun _ _ _ hcurrent hstep => hcurrent.step hstep) hr

theorem runCalls_eq_of_everyStep {r'} (hcurrent : r.Current)
    (hadmitted : r.admittedEffect = some (effect, token))
    (hopen : Transition.EveryStep Runtime.step (fun r c => ¬ Ends r c) r cs)
    (hr : runCalls r cs = some r') : r' = r := by
  refine run_invariant_of_everyStep (fun r' => r' = r) rfl ?_ hopen hr
  rintro p c q rfl hends hstep
  exact step_eq_of_not_ends hcurrent hadmitted hends hstep

theorem outstanding_of_admitted (hstart : start.admittedEffect = none) :
    ∀ cs r, runCalls start cs = some r → r.admittedEffect = some (effect, token) →
      Outstanding start cs effect token := by
  refine run_induction ?_ ?_
  · intro hsome
    rw [hstart] at hsome
    cases hsome
  · intro cs r c next hr ih hstep hsome
    obtain ⟨answer, hperforms⟩ := performs_of_step hstep
    cases hperforms with
    | refused hopen =>
      -- the same admission, one call later
      obtain ⟨before, after, r₀, r₁, rfl, hbefore, hadmitted, hopen'⟩ := ih hsome
      refine ⟨before, after ++ [c], r₀, r₁, by simp, hbefore, hadmitted, hopen'.concat ?_⟩
      intro p hp
      rw [run_append, show run Runtime.step start before = some r₀ from hbefore, bind_some,
        run_cons] at hr
      simp only [Runtime.step, Runtime.perform, hadmitted, map_some, bind_some] at hr
      rw [show run Runtime.step r₁ after = some p from hp] at hr
      cases hr
      exact hopen
    | ended _ _ _ free =>
      rw [free] at hsome
      cases hsome
    | admitted _ _ call _ _ _ admits eq =>
      subst call
      rw [eq] at hsome
      cases hsome
      exact ⟨cs, [], r, next, rfl, hr, admits, everyStep_nil⟩

theorem admitted_of_outstanding (hstart : start.admittedEffect = none)
    (hr : runCalls start cs = some r) (h : Outstanding start cs effect token) :
    r.admittedEffect = some (effect, token) := by
  obtain ⟨before, after, r₀, r₁, rfl, hbefore, hadmitted, hopen⟩ := h
  have hstep : r₀.step (.admitCurrent effect) = some r₁ := by
    simp [Runtime.step, Runtime.perform, hadmitted]
  have hafter : runCalls r₁ after = some r := by
    rwa [runCalls, run_append, show run Runtime.step start before = some r₀ from hbefore, bind_some,
      run_cons, hstep, bind_some] at hr
  have hadmitted : r₁.admittedEffect = some (effect, token) := by
    rcases admitCurrent_cases r₀ effect with ⟨-, hno⟩ | ⟨-, -, hyes⟩
    · exact absurd (by rw [hadmitted]) (hno (.ofEffect effect) token)
    · rw [hadmitted, Prod.mk.injEq, Admission.admitted.injEq] at hyes
      rw [hyes.2, hyes.1.2]
  have hcurrent := (current_runCalls hstart hbefore).step hstep
  rw [runCalls_eq_of_everyStep hcurrent hadmitted hopen hafter, hadmitted]

end Runs

/-! ## Tokens

Tokens are numbered by the admissions of the run, so as long as there are fewer
than 2⁶⁴ of them no token is issued twice. -/

section Tokens
variable {start r next : Runtime} {cs : List Call} {c : Call} {answer : Answer}

theorem perform_sequence (h : r.perform c = some (answer, next)) :
    next.nextAdmissionSequence = r.nextAdmissionSequence + if answer.isAdmitted then 1 else 0 := by
  cases performs_of_perform h with
  | refused _ plain => simp [plain]
  | ended _ _ plain _ sequence => simp [plain, sequence]
  | admitted _ _ _ grant _ _ _ eq => simp [grant, eq]

theorem sequence_runCalls (hstart : start.nextAdmissionSequence = 0) :
    ∀ cs r, runCalls start cs = some r → start.admissions cs < 2 ^ 64 →
      r.nextAdmissionSequence.toNat = start.admissions cs := by
  refine run_induction ?_ ?_
  · intro _
    rw [hstart]
    rfl
  · intro cs r c next hr ih hstep hfew
    simp only [Runtime.step, map_eq_some_iff] at hstep
    obtain ⟨⟨answer, next'⟩, hperform, rfl⟩ := hstep
    rw [admissions_concat hr, hperform, elim_some] at hfew ⊢
    rw [perform_sequence hperform]
    cases hadmitted : answer.isAdmitted with
    | true =>
      simp only [hadmitted, if_true] at hfew ⊢
      rw [UInt64.toNat_add, ih (by omega)]
      exact Nat.mod_eq_of_lt hfew
    | false => simpa using ih (by omega)

structure Numbered (start : Runtime) (cs : List Call) (r : Runtime) : Prop where
  held : ∀ effect token, r.admittedEffect = some (effect, token) →
    token.sequence = r.nextAdmissionSequence ∧ ¬ Completed start cs token
  taken : ∀ token, Completed start cs token → token.sequence ≤ r.nextAdmissionSequence

theorem numbered_runCalls (hstart : start.admittedEffect = none)
    (hzero : start.nextAdmissionSequence = 0) :
    ∀ cs r, runCalls start cs = some r → start.admissions cs < 2 ^ 64 → Numbered start cs r := by
  refine run_induction ?_ ?_
  · refine fun _ => ⟨?_, ?_⟩
    · intro effect token hsome
      rw [hstart] at hsome
      cases hsome
    · intro token h
      exact absurd h not_someStep_nil
  · intro cs r c next hr ih hstep hfew
    have hcount := admissions_concat (c := c) hr
    have hnum := ih (by omega)
    have hcompleted : ∀ token, Completed start (cs ++ [c]) token ↔ Completed start cs token ∨
          ∃ e q, c = .complete token e ∧ r.complete token e = some (true, q) :=
      fun token => someStep_concat hr
    obtain ⟨answer, hperform⟩ := performs_of_step hstep
    cases hperform with
    | refused hopen =>
      -- a call that ends nothing takes no token
      have hsame : ∀ token, Completed start (cs ++ [c]) token → Completed start cs token := by
        intro token h
        rcases (hcompleted token).mp h with h | ⟨e, q, rfl, hq⟩
        · exact h
        · exact absurd ⟨q, hq⟩ hopen
      refine ⟨?_, fun token h => hnum.taken token (hsame token h)⟩
      intro effect token hsome
      exact ⟨(hnum.held effect token hsome).1, mt (hsame token) (hnum.held effect token hsome).2⟩
    | ended _ _ _ free sequence =>
      refine ⟨?_, ?_⟩
      · intro effect token hsome
        rw [free] at hsome
        cases hsome
      · intro token h
        rw [sequence]
        rcases (hcompleted token).mp h with h | ⟨e, q, -, hq⟩
        · exact hnum.taken token h
        · rcases complete_cases hq with ⟨hflag, -⟩ | ⟨-, ⟨effect, hsome⟩, -⟩
          · cases hflag
          · exact (hnum.held effect token hsome).1.le
    | admitted effect _ call _ _ _ admits eq =>
      subst call
      -- the new token is newer than any that was taken
      have hsame : ∀ token, Completed start (cs ++ [.admitCurrent effect]) token →
          token.sequence ≤ r.nextAdmissionSequence := by
        intro token h
        rcases (hcompleted token).mp h with h | ⟨e, q, heq, -⟩
        · exact hnum.taken token h
        · cases heq
      have hnewer : r.nextAdmissionSequence < r.nextAdmissionSequence + 1 := by
        have hseq := sequence_runCalls hzero cs r hr (by omega)
        simp only [Runtime.perform, admits, elim_some, Answer.isAdmitted, if_true] at hcount
        rw [UInt64.lt_iff_toNat_lt, UInt64.toNat_add, hseq]
        rw [hcount] at hfew
        rw [UInt64.toNat_one, Nat.mod_eq_of_lt hfew]
        omega
      rw [eq]
      refine ⟨?_, fun token h => (hsame token h).trans hnewer.le⟩
      intro effect' token hsome
      cases hsome
      refine ⟨rfl, fun h => ?_⟩
      exact absurd (hsame _ h) (not_le.mpr hnewer)

end Tokens

/-- **Admission is single-flight.**  An outstanding admission is the only one and for the operation
the coordinator asks for.  A completion is accepted only for an outstanding admission and once for
each token, and one that is refused changes nothing. -/
theorem single_flight (runtimeInstance : UInt64) (coordinator : Coordinator) (cs : List Call)
    (r : Runtime) (hr : runCalls (.fresh runtimeInstance coordinator) cs = some r)
    (hfew : (Runtime.fresh runtimeInstance coordinator).admissions cs < 2 ^ 64) :
    (∀ effect token, Outstanding (.fresh runtimeInstance coordinator) cs effect token →
      r.coordinator.activeEffect = some effect ∧
      (∀ effect' token', Outstanding (.fresh runtimeInstance coordinator) cs effect' token' →
        effect' = effect ∧ token' = token) ∧
      ∀ effect' operation token', (r.admitCurrent effect').1 ≠ .admitted operation token') ∧
    (∀ token e next, r.complete token e = some (true, next) →
      (∃ effect, Outstanding (.fresh runtimeInstance coordinator) cs effect token) ∧
      ¬ Completed (.fresh runtimeInstance coordinator) cs token) ∧
    (∀ token e next, r.complete token e = some (false, next) → next = r) ∧
    ∀ token, (r.release token).1 = false → (r.release token).2 = r := by
  have hcurrent : r.Current := current_runCalls (by rfl) hr
  refine ⟨?_, ?_, ?_, ?_⟩
  · intro effect token h
    have hadmitted := admitted_of_outstanding rfl hr h
    refine ⟨hcurrent effect token hadmitted, ?_, ?_⟩
    · intro effect' token' h'
      have hadmitted' := admitted_of_outstanding rfl hr h'
      rw [hadmitted] at hadmitted'
      cases hadmitted'
      exact ⟨rfl, rfl⟩
    · intro effect'
      rcases admitCurrent_cases r effect' with ⟨-, hno⟩ | ⟨hactive, hfree, -⟩
      · exact hno
      · rw [hcurrent effect token hadmitted, some.injEq] at hactive
        simp [hadmitted, hactive] at hfree
  · intro token e next hcomplete
    rcases complete_cases hcomplete with ⟨hflag, -⟩ | ⟨-, ⟨effect, hadmitted⟩, -⟩
    · cases hflag
    · exact ⟨⟨effect, outstanding_of_admitted rfl cs r hr hadmitted⟩,
        ((numbered_runCalls rfl rfl cs r hr hfew).held effect token hadmitted).2⟩
  · intro token e next hcomplete
    rcases complete_cases hcomplete with ⟨-, hsame⟩ | ⟨hflag, -⟩
    · exact hsame
    · cases hflag
  · intro token hrefused
    rcases release_cases r token with hsame | ⟨-, hreleased⟩
    · rw [hsame]
    · rw [hreleased] at hrefused
      cases hrefused

namespace Sample

def preparing : List Call :=
  [.observe (.eligibility identity 1 true), .admitCurrent (.prepare identity)]

def preparingRuntime : Runtime :=
  (runCalls (.fresh 7 .default) preparing).getD (.fresh 7 .default)

end Sample

open Sample

theorem single_flight_preparing : runCalls (.fresh 7 .default) preparing = some preparingRuntime ∧
    (∃ next, preparingRuntime.complete ⟨7, 1⟩
      (.authorizationRequested identity draft 1) = some (true, next)) ∧
    ∃ effect, Outstanding (.fresh 7 .default) preparing effect ⟨7, 1⟩ := by
  have hr : runCalls (.fresh 7 .default) preparing = some preparingRuntime := by
    decide +kernel
  have haccepted : (preparingRuntime.complete ⟨7, 1⟩
      (.authorizationRequested identity draft 1)).map Prod.fst = some true := by
    decide +kernel
  obtain ⟨⟨_, next⟩, hcomplete, rfl⟩ := map_eq_some_iff.mp haccepted
  refine ⟨hr, ⟨next, hcomplete⟩, ?_⟩
  exact ((single_flight 7 .default preparing _ hr (by decide +kernel)).2.1 _ _ _ hcomplete).1

end Oxid.Wallet.DustRegistration
