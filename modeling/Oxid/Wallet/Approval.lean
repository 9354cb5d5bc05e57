import Mathlib.Data.List.Count
import Mathlib.Data.List.Nodup
import Oxid.Result
import Oxid.Transition.Run
import Oxid.Wallet.Domain

/-!
# Approvals

A capability that is minted for an approved request is bound to the exact intent, to a time
window and to a generation that every lock or change of profile advances.
-/

namespace Oxid.Wallet
open Foundation Result Transition Option

/-! ## Intents and capabilities -/

structure CanonicalApprovalDigest where
  bytes : Vector UInt8 32
  deriving DecidableEq

structure MovementPreview (α : Type) where
  expiresAt : UInt64
  terms : α
  deriving DecidableEq

inductive WalletApprovalIntent (α β : Type)
  | signData (profile : WalletProfileId) (digest : CanonicalApprovalDigest)
  | deleteKey (profile : WalletProfileId) (digest : CanonicalApprovalDigest)
  | authorizeTransfer (profile : WalletProfileId) (preview : MovementPreview α)
  | submitTransfer (profile : WalletProfileId) (preview : MovementPreview α)
  | authorizeDustRegistration (profile : WalletProfileId) (preview : MovementPreview β)
  | submitDustRegistration (profile : WalletProfileId) (preview : MovementPreview β)
  deriving DecidableEq

inductive WalletApprovalError
  | unavailable
  | denied
  | expired
  | clockWentBackwards
  | generationMismatch
  | intentMismatch
  | foreignCapability
  | alreadyConsumed

inductive TrustedWalletApprovalError
  | denied
  | unavailable

/-- `WalletApprovalCapability`.  The issuer stands for the address of the service's
`Arc`. -/
structure WalletApprovalCapability (α β : Type) where
  intent : WalletApprovalIntent α β
  issuer : ℕ
  (issuedAt expiresAt generation : UInt64)
  consumed : Bool

def maxTtlMillis : UInt64 := 120000

section Calls
variable {α β : Type}

def WalletApprovalIntent.previewExpiry : WalletApprovalIntent α β → Option UInt64
  | .signData _ _ => none
  | .deleteKey _ _ => none
  | .authorizeTransfer _ preview => some preview.expiresAt
  | .submitTransfer _ preview => some preview.expiresAt
  | .authorizeDustRegistration _ preview => some preview.expiresAt
  | .submitDustRegistration _ preview => some preview.expiresAt

/-- How long a request made at `issuedAt` may take and its capability may live. -/
def expiryOf (intent : WalletApprovalIntent α β) (issuedAt : UInt64) :
    Except WalletApprovalError UInt64 := do
  -- The source adds the constant on the right; on the left it stays a literal.
  let expiresAt ← okOr (checkedAdd64 maxTtlMillis issuedAt) .unavailable
  let expiresAt := intent.previewExpiry.elim expiresAt (min expiresAt)
  rejectIf (expiresAt ≤ issuedAt) .expired
  return expiresAt

def mintCapability (issuer : ℕ) (current : Option UInt64) (intent : WalletApprovalIntent α β)
    (generation issuedAt expiresAt : UInt64) (now : Option UInt64) :
    Except WalletApprovalError (WalletApprovalCapability α β) := do
  let current ← okOr current .unavailable
  rejectIf (current ≠ generation) .generationMismatch
  let now ← okOr now .unavailable
  rejectIf (now < issuedAt) .clockWentBackwards
  rejectIf (expiresAt ≤ now) .expired
  return { intent, issuer, issuedAt, expiresAt, generation, consumed := false }

def consumeCapability [DecidableEq α] [DecidableEq β] (issuer : ℕ) (current : Option UInt64)
    (capability : WalletApprovalCapability α β) (expected : WalletApprovalIntent α β)
    (now : Option UInt64) : Except WalletApprovalError (UInt64 × WalletApprovalCapability α β) := do
  rejectIf (issuer ≠ capability.issuer) .foreignCapability
  let current ← okOr current .unavailable
  rejectIf (current ≠ capability.generation) .generationMismatch
  let now ← okOr now .unavailable
  rejectIf (now < capability.issuedAt) .clockWentBackwards
  rejectIf (capability.expiresAt ≤ now) .expired
  rejectIf (capability.intent ≠ expected) .intentMismatch
  rejectIf capability.consumed .alreadyConsumed
  return (now, { capability with consumed := true })

/-- A time window is at most two minutes long and ends with the preview at the latest. -/
structure Window (intent : WalletApprovalIntent α β) (issuedAt expiresAt : UInt64) : Prop where
  short : expiresAt.toNat ≤ issuedAt.toNat + 120000
  preview : ∀ e, intent.previewExpiry = some e → expiresAt ≤ e

theorem window_of_expiryOf {intent : WalletApprovalIntent α β} {issuedAt expiresAt : UInt64}
    (h : expiryOf intent issuedAt = .ok expiresAt) : Window intent issuedAt expiresAt := by
  simp only [expiryOf, bind_ok_iff, okOr_ok_iff, rejectIf_ok_iff, exists_const] at h
  obtain ⟨latest, hlatest, -, heq⟩ := h
  cases heq
  rw [checkedAdd64_eq_some_iff] at hlatest
  have hmillis : maxTtlMillis.toNat = 120000 := by decide
  cases hpreview : intent.previewExpiry with
  | none => exact ⟨by rw [elim_none]; omega, by simp [hpreview]⟩
  | some e =>
    refine ⟨?_, ?_⟩
    · have hle := UInt64.le_iff_toNat_le.mp (min_le_left latest e)
      rw [elim_some]
      omega
    · intro e' he'
      rw [hpreview, some.injEq] at he'
      rw [elim_some, ← he']
      exact min_le_right latest e

theorem mintCapability_ok {issuer current intent generation issuedAt expiresAt}
    {now : Option UInt64} {c : WalletApprovalCapability α β}
    (h : mintCapability issuer current intent generation issuedAt expiresAt now = .ok c) :
    c = { intent, issuer, issuedAt, expiresAt, generation, consumed := false } := by
  simp only [mintCapability, bind_ok_iff] at h
  obtain ⟨-, -, -, -, -, -, -, -, -, -, heq⟩ := h
  cases heq
  rfl

theorem consumeCapability_ok [DecidableEq α] [DecidableEq β] {issuer current c d}
    {expected : WalletApprovalIntent α β} {now : Option UInt64} {t : UInt64}
    (h : consumeCapability issuer current c expected now = .ok (t, d)) :
    c.issuer = issuer ∧ current = some c.generation ∧ c.issuedAt ≤ t ∧ t < c.expiresAt ∧
      c.intent = expected ∧ c.consumed = false ∧ d = { c with consumed := true } := by
  simp only [consumeCapability, bind_ok_iff, okOr_ok_iff, rejectIf_ok_iff, exists_const,
    decide_eq_false_iff_not, not_not, not_lt, not_le] at h
  obtain ⟨hissuer, g, hg, hgen, now, -, hback, hexpired, hintent, hconsumed, heq⟩ := h
  cases heq
  exact ⟨hissuer.symm, hgen ▸ hg, hback, hexpired, hintent, hconsumed, rfl⟩

end Calls

/-! ## The system -/

inductive RequestStage
  | started
  | prompting (issuedAt expiresAt : UInt64)
  | approved (issuedAt expiresAt : UInt64)
  | returned

structure ApprovalCall (α β : Type) where
  intent : WalletApprovalIntent α β
  generation : UInt64
  stage : RequestStage

open ApprovalCall

/-- The service, the calls made to it and the capabilities that exist anywhere.  The
generation is absent once it is exhausted or its lock poisoned. -/
structure ApprovalSystem (α β : Type) where
  issuer : ℕ
  generation : Option UInt64
  calls : List (ApprovalCall α β)
  capabilities : List (WalletApprovalCapability α β)

open ApprovalSystem

/-- What one thread does next.  A clock that fails reads `none`. -/
inductive ApprovalEvent (α β : Type)
  | request (intent : WalletApprovalIntent α β)
  | issue (call : ℕ) (now : Option UInt64)
  | answer (call : ℕ) (reply : Except TrustedWalletApprovalError Unit)
  | mint (call : ℕ) (now : Option UInt64)
  | consume (capability : ℕ) (expected : WalletApprovalIntent α β) (now : Option UInt64)
  | invalidate
  | foreign (capability : WalletApprovalCapability α β)
  | poison

inductive ApprovalReport (α β : Type)
  | started (call : ℕ) (intent : WalletApprovalIntent α β)
  | approved (call : ℕ) (intent : WalletApprovalIntent α β)
  | minted (call capability : ℕ) (issuedAt : UInt64)
  | consumed (capability : ℕ) (intent : WalletApprovalIntent α β) (now : UInt64)
  | invalidated
  deriving DecidableEq

open ApprovalReport

def ApprovalSystem.start {α β : Type} (issuer : ℕ) : ApprovalSystem α β where
  issuer := issuer
  generation := some 0
  calls := []
  capabilities := []

variable {r : ℕ}

section System
variable {α β : Type}

def ApprovalCall.issue (q : ApprovalCall α β) : Option UInt64 → RequestStage
  | none => .returned
  | some issuedAt =>
    match expiryOf q.intent issuedAt with
    | .ok expiresAt => .prompting issuedAt expiresAt
    | .error _ => .returned

theorem ApprovalCall.issue_cases (q : ApprovalCall α β) (now : Option UInt64) :
    q.issue now = .returned ∨ ∃ issuedAt expiresAt,
      q.issue now = .prompting issuedAt expiresAt ∧ Window q.intent issuedAt expiresAt := by
  cases now with
  | none => exact .inl rfl
  | some issuedAt =>
    cases hexpiry : expiryOf q.intent issuedAt with
    | ok expiresAt =>
      refine .inr ⟨issuedAt, expiresAt, ?_, window_of_expiryOf hexpiry⟩
      simp only [issue, hexpiry]
    | error => exact .inl (by simp only [issue, hexpiry])

def ApprovalSystem.advance (s : ApprovalSystem α β) (r : ℕ) (q : ApprovalCall α β)
    (stage : RequestStage) : ApprovalSystem α β :=
  { s with calls := s.calls.set r { q with stage } }

open ApprovalSystem

theorem mem_calls_advance {s : ApprovalSystem α β} {k q p} {stage : RequestStage}
    (h : (s.advance r q stage).calls[k]? = some p) :
    (k = r ∧ p = { q with stage }) ∨ s.calls[k]? = some p := by
  rw [advance, List.getElem?_set] at h
  split_ifs at h with hk
  · cases h
    exact .inl ⟨hk.symm, rfl⟩
  · exact .inr h

variable [DecidableEq α] [DecidableEq β]

def ApprovalSystem.act (s : ApprovalSystem α β) :
    ApprovalEvent α β → Option (ApprovalSystem α β × Option (ApprovalReport α β))
  | .request intent =>
    match s.generation with
    | none => some (s, none)
    | some generation =>
      some ({ s with calls := s.calls ++ [{ intent, generation, stage := .started }] },
        some (.started s.calls.length intent))
  | .issue r now => do
      let q ← s.calls[r]?
      match q.stage with
      | .started => some (s.advance r q (q.issue now), none)
      | _ => none
  | .answer r reply => do
      let q ← s.calls[r]?
      match q.stage, reply with
      | .prompting issuedAt expiresAt, .ok () =>
        some (s.advance r q (.approved issuedAt expiresAt), some (.approved r q.intent))
      | .prompting _ _, .error _ => some (s.advance r q .returned, none)
      | _, _ => none
  | .mint r now => do
      let q ← s.calls[r]?
      match q.stage with
      | .approved issuedAt expiresAt =>
        match mintCapability s.issuer s.generation q.intent q.generation issuedAt expiresAt
          now with
        | .ok capability =>
          some ({ s.advance r q .returned with
              capabilities := s.capabilities ++ [capability] },
            some (.minted r s.capabilities.length issuedAt))
        | .error _ => some (s.advance r q .returned, none)
      | _ => none
  | .consume i expected now => do
      let c ← s.capabilities[i]?
      match consumeCapability s.issuer s.generation c expected now with
      | .ok (t, d) =>
        some ({ s with capabilities := s.capabilities.set i d },
          some (.consumed i expected t))
      | .error _ => some (s, none)
  | .invalidate =>
    some ({ s with generation := s.generation.bind (checkedAdd64 · 1) }, some .invalidated)
  | .foreign c =>
    if c.issuer = s.issuer then none
    else some ({ s with capabilities := s.capabilities ++ [c] }, none)
  | .poison => some ({ s with generation := none }, none)

inductive Moves (s : ApprovalSystem α β) :
    ApprovalSystem α β → Option (ApprovalReport α β) → Prop
  | refused : Moves s s none
  | started (intent g) (hg : s.generation = some g) :
      Moves s { s with calls := s.calls ++ [⟨intent, g, .started⟩] }
        (some (.started s.calls.length intent))
  | prompting (r : ℕ) (q) (issuedAt expiresAt : UInt64) (hq : s.calls[r]? = some q)
      (hstage : q.stage = .started) (hwindow : Window q.intent issuedAt expiresAt) :
      Moves s (s.advance r q (.prompting issuedAt expiresAt)) none
  | returned (r : ℕ) (q : ApprovalCall α β) (hq : s.calls[r]? = some q) :
      Moves s (s.advance r q .returned) none
  | approved (r : ℕ) (q : ApprovalCall α β) (issuedAt expiresAt : UInt64)
      (hq : s.calls[r]? = some q) (hstage : q.stage = .prompting issuedAt expiresAt) :
      Moves s (s.advance r q (.approved issuedAt expiresAt)) (some (.approved r q.intent))
  | minted (r : ℕ) (q : ApprovalCall α β) (issuedAt expiresAt : UInt64)
      (hq : s.calls[r]? = some q) (hstage : q.stage = .approved issuedAt expiresAt) :
      Moves s
        { s.advance r q .returned with
          capabilities := s.capabilities ++
            [⟨q.intent, s.issuer, issuedAt, expiresAt, q.generation, false⟩] }
        (some (.minted r s.capabilities.length issuedAt))
  | consumed (i : ℕ) (c : WalletApprovalCapability α β) (t : UInt64)
      (hc : s.capabilities[i]? = some c) (hissuer : c.issuer = s.issuer)
      (hgen : s.generation = some c.generation) (hissued : c.issuedAt ≤ t)
      (hlive : t < c.expiresAt) (hfresh : c.consumed = false) :
      Moves s { s with capabilities := s.capabilities.set i { c with consumed := true } }
        (some (.consumed i c.intent t))
  | invalidated :
      Moves s { s with generation := s.generation.bind (checkedAdd64 · 1) }
        (some .invalidated)
  | foreign (c : WalletApprovalCapability α β) (hforeign : c.issuer ≠ s.issuer) :
      Moves s { s with capabilities := s.capabilities ++ [c] } none
  | poisoned : Moves s { s with generation := none } none

theorem moves_of_act {s t e} {f : Option (ApprovalReport α β)} (h : s.act e = some (t, f)) :
    Moves s t f := by
  cases e with
  | request intent =>
    simp only [act] at h
    split at h <;> cases h
    · exact .refused
    · exact .started intent _ ‹_›
  | issue r now =>
    simp only [act, bind_eq_bind, bind_eq_some_iff] at h
    obtain ⟨q, hq, h⟩ := h
    split at h <;> cases h
    rename_i hstage
    rcases q.issue_cases now with hissue | ⟨issuedAt, expiresAt, hissue, hwindow⟩
    · rw [hissue]
      exact .returned r q hq
    · rw [hissue]
      exact .prompting r q issuedAt expiresAt hq hstage hwindow
  | answer r =>
    simp only [act, bind_eq_bind, bind_eq_some_iff] at h
    obtain ⟨q, hq, h⟩ := h
    split at h <;> cases h
    · exact .approved r q _ _ hq ‹_›
    · exact .returned r q hq
  | mint r =>
    simp only [act, bind_eq_bind, bind_eq_some_iff] at h
    obtain ⟨q, hq, h⟩ := h
    split at h
    · split at h <;> cases h
      · rename_i hmint
        rw [mintCapability_ok hmint]
        exact .minted r q _ _ hq ‹_›
      · exact .returned r q hq
    · cases h
  | consume i =>
    simp only [act, bind_eq_bind, bind_eq_some_iff] at h
    obtain ⟨c, hc, h⟩ := h
    split at h <;> cases h
    · rename_i hconsume
      obtain ⟨hissuer, hgen, hissued, hlive, rfl, hfresh, rfl⟩ :=
        consumeCapability_ok hconsume
      exact .consumed i c _ hc hissuer hgen hissued hlive hfresh
    · exact .refused
  | invalidate =>
    simp only [act, some.injEq, Prod.mk.injEq] at h
    obtain ⟨rfl, rfl⟩ := h
    exact .invalidated
  | foreign c =>
    simp only [act] at h
    split_ifs at h with hc
    cases h
    exact .foreign c hc
  | poison =>
    simp only [act, some.injEq, Prod.mk.injEq] at h
    obtain ⟨rfl, rfl⟩ := h
    exact .poisoned

end System

variable {γ : Type}

section History
variable {α β : Type} {reports more : List (ApprovalReport α β)} {s t : ApprovalSystem α β}
  {f : Option (ApprovalReport α β)} {current later : Option UInt64}

def Follows (current later : Option UInt64) (reports : List (ApprovalReport α β)) : Prop :=
  ∀ g', later = some g' →
    ∃ g, current = some g ∧ g ≤ g' ∧ (.invalidated ∈ reports → g < g')

theorem follows_of_moves (h : Moves s t f) : Follows s.generation t.generation f.toList := by
  intro g' hg'
  cases h with
  | invalidated =>
    obtain ⟨g, hg, hadd⟩ := bind_eq_some_iff.mp hg'
    rw [checkedAdd64_eq_some_iff] at hadd
    have hlt : g < g' := by
      rw [UInt64.lt_iff_toNat_lt, hadd]
      exact Nat.lt_add_of_pos_right (by decide)
    exact ⟨g, hg, le_of_lt hlt, fun _ => hlt⟩
  | poisoned => cases hg'
  | _ => exact ⟨g', hg', le_refl g', by simp⟩

/-- The reports tell of call `r` for `intent`, made at generation `g`, and of `facts` since;
an invalidation since then has moved the generation on. -/
def Traced (reports : List (ApprovalReport α β)) (current : Option UInt64) (r : ℕ)
    (intent : WalletApprovalIntent α β) (g : UInt64) (facts : List (ApprovalReport α β)) : Prop :=
  ∃ earlier later, reports = earlier ++ .started r intent :: later ∧
    (∀ f ∈ facts, f ∈ later) ∧
    ∀ g', current = some g' → g ≤ g' ∧ (.invalidated ∈ later → g < g')

section Traced
variable {facts : List (ApprovalReport α β)} {r : ℕ} {intent : WalletApprovalIntent α β}
  {g : UInt64}

theorem Traced.append (h : Traced reports current r intent g facts)
    (hfollows : Follows current later more) :
    Traced (reports ++ more) later r intent g (more ++ facts) := by
  obtain ⟨before, since, rfl, hfacts, hgen⟩ := h
  refine ⟨before, since ++ more, by simp, ?_, ?_⟩
  · intro f hf
    rcases List.mem_append.mp hf with hmore | hold
    · exact List.mem_append_right _ hmore
    · exact List.mem_append_left _ (hfacts f hold)
  · intro g' hg'
    obtain ⟨g₀, hg₀, hle, hlt⟩ := hfollows g' hg'
    obtain ⟨hle₀, hlt₀⟩ := hgen g₀ hg₀
    refine ⟨le_trans hle₀ hle, ?_⟩
    intro hmem
    rcases List.mem_append.mp hmem with hold | hmore
    · exact lt_of_lt_of_le (hlt₀ hold) hle
    · exact lt_of_le_of_lt hle₀ (hlt hmore)

theorem Traced.mono {fewer} (h : Traced reports current r intent g facts) (hsub : fewer ⊆ facts) :
    Traced reports current r intent g fewer := by
  obtain ⟨before, since, heq, hfacts, hgen⟩ := h
  exact ⟨before, since, heq, fun f hf => hfacts f (hsub hf), hgen⟩

theorem Traced.not_invalidated (h : Traced reports (some g) r intent g facts) :
    ∃ earlier later, reports = earlier ++ .started r intent :: later ∧
      (∀ f ∈ facts, f ∈ later) ∧ .invalidated ∉ later := by
  obtain ⟨before, since, heq, hfacts, hgen⟩ := h
  exact ⟨before, since, heq, hfacts, fun hmem => lt_irrefl g ((hgen g rfl).2 hmem)⟩

end Traced

def CallTraced (reports : List (ApprovalReport α β)) (current : Option UInt64) (r : ℕ)
    (q : ApprovalCall α β) : Prop :=
  match q.stage with
  | .started => Traced reports current r q.intent q.generation []
  | .prompting issuedAt expiresAt =>
    Traced reports current r q.intent q.generation [] ∧ Window q.intent issuedAt expiresAt
  | .approved issuedAt expiresAt =>
    Traced reports current r q.intent q.generation [.approved r q.intent] ∧
      Window q.intent issuedAt expiresAt
  | .returned => True

def CapabilityTraced (reports : List (ApprovalReport α β)) (current : Option UInt64) (i : ℕ)
    (c : WalletApprovalCapability α β) : Prop :=
  ∃ r, Traced reports current r c.intent c.generation
      [.minted r i c.issuedAt, .approved r c.intent] ∧
    Window c.intent c.issuedAt c.expiresAt

theorem CallTraced.append {q} (h : CallTraced reports current r q)
    (hfollows : Follows current later more) : CallTraced (reports ++ more) later r q := by
  have keep {facts : List (ApprovalReport α β)}
      (h : Traced reports current r q.intent q.generation facts) :
      Traced (reports ++ more) later r q.intent q.generation facts :=
    (h.append hfollows).mono (List.subset_append_right more facts)
  unfold CallTraced at h ⊢
  cases hstage : q.stage with
  | started => simpa only [hstage] using keep (by simpa only [hstage] using h)
  | prompting =>
    simp only [hstage] at h
    exact ⟨keep h.1, h.2⟩
  | approved =>
    simp only [hstage] at h
    exact ⟨keep h.1, h.2⟩
  | returned => trivial

theorem CapabilityTraced.append {i c} (h : CapabilityTraced reports current i c)
    (hfollows : Follows current later more) : CapabilityTraced (reports ++ more) later i c := by
  obtain ⟨r, htraced, hwindow⟩ := h
  exact ⟨r, (htraced.append hfollows).mono (List.subset_append_right more _), hwindow⟩

structure AllTraced (reports : List (ApprovalReport α β)) (s : ApprovalSystem α β) : Prop where
  calls : ∀ r q, s.calls[r]? = some q → CallTraced reports s.generation r q
  capabilities : ∀ i c, s.capabilities[i]? = some c → c.issuer = s.issuer →
    CapabilityTraced reports s.generation i c

theorem allTraced_start (issuer : ℕ) : AllTraced [] (start issuer : ApprovalSystem α β) :=
  ⟨by simp [start], by simp [start]⟩

theorem AllTraced.append (h : AllTraced reports s) (hfollows : Follows s.generation later more) :
    AllTraced (reports ++ more) { s with generation := later } :=
  ⟨fun r q hq => (h.calls r q hq).append hfollows,
    fun i c hc hown => (h.capabilities i c hc hown).append hfollows⟩

theorem AllTraced.advance {q : ApprovalCall α β} {stage : RequestStage} (h : AllTraced reports s)
    (hq : CallTraced reports s.generation r { q with stage }) :
    AllTraced reports (s.advance r q stage) := by
  refine ⟨?_, h.capabilities⟩
  intro k p hk
  rcases mem_calls_advance hk with ⟨rfl, rfl⟩ | hold
  · exact hq
  · exact h.calls k p hold

theorem AllTraced.push {c} (h : AllTraced reports s)
    (hc : c.issuer = s.issuer → CapabilityTraced reports s.generation s.capabilities.length c) :
    AllTraced reports { s with capabilities := s.capabilities ++ [c] } := by
  refine ⟨h.calls, ?_⟩
  intro i d hd hown
  rw [List.getElem?_append] at hd
  split_ifs at hd with hi
  · exact h.capabilities i d hd hown
  · rw [List.getElem?_singleton] at hd
    split_ifs at hd with hzero
    cases hd
    have hlast : i = s.capabilities.length := by omega
    exact hlast ▸ hc hown

theorem AllTraced.next (h : AllTraced reports s) (hmoves : Moves s t f) :
    AllTraced (reports ++ f.toList) t := by
  have hfollows := follows_of_moves hmoves
  have hkept : AllTraced (reports ++ f.toList) { s with generation := t.generation } :=
    h.append hfollows
  cases hmoves with
  | refused => exact hkept
  | started _ g hg =>
    refine ⟨?_, hkept.capabilities⟩
    intro r q hq
    rw [List.getElem?_append] at hq
    split_ifs at hq with hr
    · exact hkept.calls r q hq
    · rw [List.getElem?_singleton] at hq
      split_ifs at hq with hzero
      cases hq
      have hlast : r = s.calls.length := by omega
      -- The call has just been made: nothing is reported since.
      refine ⟨reports, [], by rw [hlast]; rfl, by simp, ?_⟩
      intro g' hg'
      change s.generation = some g' at hg'
      rw [hg, some.injEq] at hg'
      exact ⟨le_of_eq hg', by simp⟩
  | prompting r q _ _ hq hstage hwindow =>
    refine hkept.advance ?_
    have hcall := hkept.calls r q hq
    simp only [CallTraced, hstage] at hcall
    exact ⟨hcall, hwindow⟩
  | returned => exact hkept.advance trivial
  | approved r q _ _ hq hstage =>
    refine hkept.advance ?_
    have hcall := h.calls r q hq
    simp only [CallTraced, hstage] at hcall
    exact ⟨hcall.1.append hfollows, hcall.2⟩
  | minted r q _ _ hq hstage =>
    have hcall := h.calls r q hq
    simp only [CallTraced, hstage] at hcall
    have hreturned : AllTraced _ (s.advance r q .returned) := hkept.advance trivial
    exact hreturned.push fun _ => ⟨r, hcall.1.append hfollows, hcall.2⟩
  | consumed i c t hc hissuer =>
    refine ⟨hkept.calls, ?_⟩
    intro j d hd hown
    rw [List.getElem?_set] at hd
    split_ifs at hd with hij
    · cases hd
      exact hij ▸ hkept.capabilities i c hc hissuer
    · exact hkept.capabilities j d hd hown
  | invalidated => exact hkept
  | foreign c hforeign => exact hkept.push fun hown => absurd hown hforeign
  | poisoned => exact hkept

/-- What the reports before a consumption tell: the call that minted the capability was for
this intent, the port approved it, nothing was invalidated since the call was made, and
the time is within two minutes and before the preview expires. -/
def Authorized (past : List (ApprovalReport α β)) (i : ℕ)
    (intent : WalletApprovalIntent α β) (t : UInt64) : Prop :=
  ∃ r issuedAt earlier later, past = earlier ++ .started r intent :: later ∧
    .approved r intent ∈ later ∧ .minted r i issuedAt ∈ later ∧ .invalidated ∉ later ∧
    issuedAt ≤ t ∧ t.toNat < issuedAt.toNat + 120000 ∧
    ∀ e, intent.previewExpiry = some e → t < e

theorem authorized_of_traced {past i} {c : WalletApprovalCapability α β} {t : UInt64}
    (h : CapabilityTraced past (some c.generation) i c) (hissued : c.issuedAt ≤ t)
    (hlive : t < c.expiresAt) : Authorized past i c.intent t := by
  obtain ⟨r, htraced, hwindow⟩ := h
  obtain ⟨earlier, later, heq, hfacts, hvalid⟩ := htraced.not_invalidated
  refine ⟨r, c.issuedAt, earlier, later, heq, hfacts _ (by simp), hfacts _ (by simp), hvalid,
    hissued, ?_, ?_⟩
  · exact lt_of_lt_of_le (UInt64.lt_iff_toNat_lt.mp hlive) hwindow.short
  · intro e he
    exact lt_of_lt_of_le hlive (hwindow.preview e he)

def Justified (past : List (ApprovalReport α β)) : ApprovalReport α β → Prop
  | .consumed i intent t => Authorized past i intent t
  | _ => True

theorem justified_of_moves (htraced : AllTraced reports s) (hmoves : Moves s t f) :
    ∀ r, f = some r → Justified reports r := by
  intro r hr
  cases hmoves with
  | consumed i c _ hc hissuer hgen hissued hlive =>
    have hcap := htraced.capabilities i c hc hissuer
    rw [hgen] at hcap
    cases hr
    exact authorized_of_traced hcap hissued hlive
  | _ => cases hr <;> trivial

/-! ## Numbers and counts -/

def ApprovalReport.startedCall : ApprovalReport α β → Option ℕ
  | .started r _ => some r
  | _ => none

def ApprovalReport.mintedCapability : ApprovalReport α β → Option ℕ
  | .minted _ i _ => some i
  | _ => none

def ApprovalReport.consumedCapability : ApprovalReport α β → Option ℕ
  | .consumed i _ _ => some i
  | _ => none

structure DistinctBelow (n : ℕ) (l : List ℕ) : Prop where
  nodup : l.Nodup
  below : ∀ i ∈ l, i < n

theorem DistinctBelow.next {n m l k} (h : DistinctBelow n l)
    (hk : (k = none ∧ n ≤ m) ∨ (k = some n ∧ n < m)) : DistinctBelow m (l ++ k.toList) := by
  obtain ⟨rfl, hle⟩ | ⟨rfl, hlt⟩ := hk
  · rw [toList_none, List.append_nil]
    exact ⟨h.nodup, fun i hi => lt_of_lt_of_le (h.below i hi) hle⟩
  · rw [toList_some]
    constructor
    · rw [List.nodup_append]
      refine ⟨h.nodup, List.nodup_singleton n, ?_⟩
      intro i hi j hj
      rw [List.mem_singleton.mp hj]
      exact ne_of_lt (h.below i hi)
    · intro i hi
      rcases List.mem_append.mp hi with hold | hnew
      · exact lt_trans (h.below i hold) hlt
      · rwa [List.mem_singleton.mp hnew]

theorem filterMap_append_toList {δ : Type} (sel : γ → Option δ) (l : List γ) (f : Option γ) :
    (l ++ f.toList).filterMap sel = l.filterMap sel ++ (f.bind sel).toList := by
  cases f with
  | none => simp
  | some a => cases hsel : sel a <;> simp [hsel]

open ApprovalReport

theorem startedCall_of_moves (h : Moves s t f) :
    (f.bind startedCall = none ∧ s.calls.length ≤ t.calls.length) ∨
      (f.bind startedCall = some s.calls.length ∧ s.calls.length < t.calls.length) := by
  cases h <;> simp [startedCall, advance]

theorem mintedCapability_of_moves (h : Moves s t f) : (f.bind mintedCapability = none ∧
        s.capabilities.length ≤ t.capabilities.length) ∨
      (f.bind mintedCapability = some s.capabilities.length ∧
        s.capabilities.length < t.capabilities.length) := by
  cases h <;> simp [mintedCapability, advance]

theorem consumed_of_moves (h : Moves s t f) {i : ℕ} {c : WalletApprovalCapability α β}
    (hc : s.capabilities[i]? = some c) (hspent : c.consumed) :
    ∃ d, t.capabilities[i]? = some d ∧ d.consumed := by
  have hlt := (List.getElem?_eq_some_iff.mp hc).1
  cases h with
  | minted => exact ⟨c, by rw [List.getElem?_append_left hlt, hc], hspent⟩
  | foreign => exact ⟨c, by rw [List.getElem?_append_left hlt, hc], hspent⟩
  | consumed j d =>
    by_cases hij : j = i
    · exact ⟨{ d with consumed := true }, by simp [hij, hlt], rfl⟩
    · exact ⟨c, by rw [List.getElem?_set_ne hij, hc], hspent⟩
  | _ => exact ⟨c, hc, hspent⟩

structure ConsumedOnce (reports : List (ApprovalReport α β)) (s : ApprovalSystem α β) : Prop where
  nodup : (reports.filterMap ApprovalReport.consumedCapability).Nodup
  consumed : ∀ i ∈ reports.filterMap ApprovalReport.consumedCapability,
    ∃ c, s.capabilities[i]? = some c ∧ c.consumed

theorem ConsumedOnce.next (h : ConsumedOnce reports s) (hmoves : Moves s t f) :
    ConsumedOnce (reports ++ f.toList) t := by
  have hkept : ∀ i ∈ reports.filterMap consumedCapability,
      ∃ c, t.capabilities[i]? = some c ∧ c.consumed := by
    intro i hi
    obtain ⟨c, hc, hspent⟩ := h.consumed i hi
    exact consumed_of_moves hmoves hc hspent
  constructor <;> rw [filterMap_append_toList]
  · cases hmoves with
    | consumed i c _ hc _ _ _ _ hfresh =>
      rw [bind_some, consumedCapability, toList_some, List.nodup_append]
      refine ⟨h.nodup, List.nodup_singleton i, ?_⟩
      intro j hj k hk hjk
      obtain ⟨d, hd, hspent⟩ := h.consumed j hj
      rw [hjk, List.mem_singleton.mp hk, hc, some.injEq] at hd
      rw [← hd, hfresh] at hspent
      exact Bool.noConfusion hspent
    | _ => simpa [consumedCapability] using h.nodup
  · intro i hi
    rcases List.mem_append.mp hi with hold | hnew
    · exact hkept i hold
    · cases hmoves with
      | consumed j c _ hc =>
        rw [bind_some, consumedCapability, toList_some, List.mem_singleton] at hnew
        have hlt := (List.getElem?_eq_some_iff.mp hc).1
        exact ⟨{ c with consumed := true }, by simp [hnew, hlt], rfl⟩
      | _ => simp [consumedCapability] at hnew

section Counts
variable [DecidableEq α] [DecidableEq β]

def ApprovalReport.approves (intent : WalletApprovalIntent α β) : ApprovalReport α β → Bool
  | .approved _ x => x = intent
  | _ => false

def ApprovalReport.consumes (intent : WalletApprovalIntent α β) : ApprovalReport α β → Bool
  | .consumed _ x _ => x = intent
  | _ => false

def ApprovalCall.holdsApproval (intent : WalletApprovalIntent α β) (q : ApprovalCall α β) : Bool :=
  match q.stage with
  | .approved _ _ => q.intent = intent
  | _ => false

def WalletApprovalCapability.isFor (issuer : ℕ) (intent : WalletApprovalIntent α β)
    (c : WalletApprovalCapability α β) : Bool :=
  c.issuer = issuer && c.intent = intent

def ApprovalSystem.pending (s : ApprovalSystem α β) (x : WalletApprovalIntent α β) : ℕ :=
  s.calls.countP (·.holdsApproval x)

def ApprovalSystem.minted (s : ApprovalSystem α β) (x : WalletApprovalIntent α β) : ℕ :=
  s.capabilities.countP (·.isFor s.issuer x)

def ApprovalSystem.spent (s : ApprovalSystem α β) (x : WalletApprovalIntent α β) : ℕ :=
  s.capabilities.countP fun c => c.isFor s.issuer x && c.consumed

omit [DecidableEq α] [DecidableEq β] in
theorem countP_concat (p : γ → Bool) (l : List γ) (a : γ) :
    (l ++ [a]).countP p = l.countP p + (p a).toNat := by
  cases hp : p a <;> simp [hp]

omit [DecidableEq α] [DecidableEq β] in
theorem countP_set_add (p : γ → Bool) {l : List γ} {i} {a : γ} (b : γ) (h : l[i]? = some a) :
    (l.set i b).countP p + (p a).toNat = l.countP p + (p b).toNat := by
  have hlt := (List.getElem?_eq_some_iff.mp h).1
  have ha : l[i] = a := (List.getElem?_eq_some_iff.mp h).2
  have hpos : p a → 0 < l.countP p := by
    intro hpa
    exact List.countP_pos_iff.mpr ⟨a, List.mem_of_getElem? h, hpa⟩
  rw [List.countP_set hlt, ha]
  cases hpa : p a <;> cases hpb : p b <;> simp_all

theorem pending_advance (s : ApprovalSystem α β) {r : ℕ} {q : ApprovalCall α β}
    (hq : s.calls[r]? = some q) (stage : RequestStage) (x : WalletApprovalIntent α β) :
    (s.advance r q stage).pending x + (q.holdsApproval x).toNat =
      s.pending x + (holdsApproval x { q with stage }).toNat :=
  countP_set_add _ _ hq

open WalletApprovalCapability

theorem minted_add_pending_of_moves (h : Moves s t f) (x : WalletApprovalIntent α β) :
    t.minted x + t.pending x ≤ s.minted x + s.pending x + f.toList.countP (approves x) := by
  cases h with
  | started intent g =>
    have hcalls := countP_concat (·.holdsApproval x) s.calls ⟨intent, g, .started⟩
    exact Nat.add_le_add_left (le_of_eq hcalls) _
  | prompting r q issuedAt expiresAt hq =>
    have hcalls := pending_advance s hq (.prompting issuedAt expiresAt) x
    exact Nat.add_le_add_left (Nat.le_of_add_right_le (le_of_eq hcalls)) _
  | returned r q hq =>
    have hcalls := pending_advance s hq .returned x
    exact Nat.add_le_add_left (Nat.le_of_add_right_le (le_of_eq hcalls)) _
  | approved r q issuedAt expiresAt hq hstage =>
    have hcalls := pending_advance s hq (.approved issuedAt expiresAt) x
    have hbefore : q.holdsApproval x = false := by rw [holdsApproval, hstage]
    rw [hbefore, Bool.toNat_false, Nat.add_zero] at hcalls
    have hreport := countP_concat (approves x) [] (.approved r q.intent)
    rw [List.countP_nil, Nat.zero_add, List.nil_append] at hreport
    rw [toList_some, hreport, hcalls]
    exact (Nat.add_assoc _ _ _).ge
  | minted r q issuedAt expiresAt hq hstage =>
    -- The approval the call held becomes the capability's.
    have hcalls := pending_advance s hq .returned x
    have hbefore : q.holdsApproval x = decide (q.intent = x) := by
      rw [holdsApproval, hstage]
    have hcaps := countP_concat (·.isFor s.issuer x) s.capabilities
      ⟨q.intent, s.issuer, issuedAt, expiresAt, q.generation, false⟩
    simp only [isFor, decide_true, Bool.true_and] at hcaps
    have hafter : holdsApproval x { q with stage := .returned } = false := rfl
    rw [hbefore, hafter, Bool.toNat_false] at hcalls
    refine Nat.le_of_eq ?_
    calc _ = s.minted x + (decide (q.intent = x)).toNat +
          (s.advance r q .returned).pending x := congrArg (· + _) hcaps
      _ = s.minted x + s.pending x := by omega
  | consumed i c _ hc =>
    have hcaps := countP_set_add (·.isFor s.issuer x) { c with consumed := true } hc
    exact Nat.add_le_add_right (le_of_eq (Nat.add_right_cancel hcaps)) _
  | foreign c hforeign =>
    have hcaps := countP_concat (·.isFor s.issuer x) s.capabilities c
    have hnot : c.isFor s.issuer x = false := by
      simp [isFor, hforeign]
    rw [hnot, Bool.toNat_false, Nat.add_zero] at hcaps
    exact Nat.add_le_add_right (le_of_eq hcaps) _
  | refused | invalidated | poisoned => exact Nat.le_add_right _ _

theorem spent_of_moves (h : Moves s t f) (x : WalletApprovalIntent α β) :
    t.spent x = s.spent x + f.toList.countP (consumes x) := by
  cases h with
  | minted =>
    refine (countP_concat _ s.capabilities _).trans ?_
    rw [Bool.and_false]
    rfl
  | consumed i c now hc hissuer _ _ _ hfresh =>
    have hcaps := countP_set_add (fun c => c.isFor s.issuer x && c.consumed)
      { c with consumed := true } hc
    rw [hfresh, Bool.and_false, Bool.toNat_false, Nat.add_zero, Bool.and_true] at hcaps
    have hreport := countP_concat (consumes x) [] (.consumed i c.intent now)
    rw [List.countP_nil, Nat.zero_add, List.nil_append] at hreport
    have hfor : isFor s.issuer x { c with consumed := true } =
        consumes x (.consumed i c.intent now) := by
      simp [isFor, consumes, hissuer]
    rw [toList_some, hreport, ← hfor]
    exact hcaps
  | foreign c hforeign =>
    refine (countP_concat _ s.capabilities c).trans ?_
    have hnot : c.isFor s.issuer x = false := by
      simp [isFor, hforeign]
    rw [hnot, Bool.false_and]
    rfl
  | _ => rfl

structure Sound (reports : List (ApprovalReport α β)) (s : ApprovalSystem α β) : Prop where
  traced : AllTraced reports s
  authorized : EveryReport Justified reports
  calls : DistinctBelow s.calls.length (reports.filterMap ApprovalReport.startedCall)
  capabilities :
    DistinctBelow s.capabilities.length (reports.filterMap ApprovalReport.mintedCapability)
  once : ConsumedOnce reports s
  approvals : ∀ x, s.minted x + s.pending x ≤ reports.countP (ApprovalReport.approves x)
  consumptions : ∀ x, s.spent x = reports.countP (ApprovalReport.consumes x)

theorem sound_start (issuer : ℕ) : Sound [] (start issuer : ApprovalSystem α β) where
  traced := allTraced_start issuer
  authorized := everyReport_nil
  calls := ⟨by simp, by simp⟩
  capabilities := ⟨by simp, by simp⟩
  once := ⟨by simp, by simp⟩
  approvals := by simp [ApprovalSystem.minted, ApprovalSystem.pending, ApprovalSystem.start]
  consumptions := by simp [spent, start]

theorem Sound.next (h : Sound reports s) (hmoves : Moves s t f) :
    Sound (reports ++ f.toList) t where
  traced := h.traced.next hmoves
  authorized := h.authorized.append (justified_of_moves h.traced hmoves)
  calls := by
    rw [filterMap_append_toList]
    exact h.calls.next (startedCall_of_moves hmoves)
  capabilities := by
    rw [filterMap_append_toList]
    exact h.capabilities.next (mintedCapability_of_moves hmoves)
  once := h.once.next hmoves
  approvals := by
    intro x
    rw [List.countP_append]
    exact le_trans (minted_add_pending_of_moves hmoves x) (Nat.add_le_add_right (h.approvals x) _)
  consumptions := by
    intro x
    rw [List.countP_append, ← h.consumptions x]
    exact spent_of_moves hmoves x

/-- Whatever the order of requests, answers, consumptions and invalidations: numbers are not shared,
no capability is consumed twice, every consumption is authorized by what came before it, and an
intent is never consumed more often than it was approved. -/
theorem every_consumption_is_authorized_once {issuer : ℕ} {es : List (ApprovalEvent α β)}
    {t : ApprovalSystem α β} (h : run (stepOf act) (.start issuer) es = some t) :
    let reports := history act (.start issuer) es
    (reports.filterMap startedCall).Nodup ∧
      (reports.filterMap mintedCapability).Nodup ∧
      (reports.filterMap consumedCapability).Nodup ∧
      (∀ before i intent now after, reports = before ++ .consumed i intent now :: after →
        Authorized before i intent now) ∧
      ∀ intent, reports.countP (consumes intent) ≤
        reports.countP (approves intent) := by
  have hsound := history_invariant h (sound_start issuer)
    fun _ _ _ _ _ hsound hact => hsound.next (moves_of_act hact)
  refine ⟨hsound.calls.nodup, hsound.capabilities.nodup, hsound.once.nodup,
    fun before i intent now after => hsound.authorized before (.consumed i intent now) after, ?_⟩
  intro intent
  have hspent : t.spent intent ≤ t.minted intent := by
    refine List.countP_mono_left ?_
    intro c _ hc
    exact (Bool.and_eq_true_iff.mp hc).1
  have happrovals := hsound.approvals intent
  rw [← hsound.consumptions intent]
  omega

end Counts
end History

def sampleApprovalIntent : WalletApprovalIntent Unit Unit :=
  .authorizeTransfer ⟨⟨"approver", by decide, by decide, by decide, by decide⟩⟩
    ⟨60000, ()⟩

def sampleApprovalEvents : List (ApprovalEvent Unit Unit) :=
  [.request sampleApprovalIntent, .issue 0 (some 10), .answer 0 (.ok ()), .mint 0 (some 20),
    .consume 0 sampleApprovalIntent (some 30), .consume 0 sampleApprovalIntent (some 40)]

theorem sample_transfer_is_authorized_once :
    ∃ t, run (stepOf act) (.start 0) sampleApprovalEvents = some t ∧
      history act (.start 0) sampleApprovalEvents =
        [.started 0 sampleApprovalIntent, .approved 0 sampleApprovalIntent, .minted 0 0 10,
          .consumed 0 sampleApprovalIntent 30] ∧
      Authorized [.started 0 sampleApprovalIntent, .approved 0 sampleApprovalIntent,
        .minted 0 0 10] 0 sampleApprovalIntent 30 := by
  obtain ⟨t, ht⟩ : ∃ t, run (stepOf act) (.start 0) sampleApprovalEvents = some t := ⟨_, rfl⟩
  have hreports : history act (.start 0) sampleApprovalEvents =
        [.started 0 sampleApprovalIntent, .approved 0 sampleApprovalIntent, .minted 0 0 10] ++
          .consumed 0 sampleApprovalIntent 30 :: [] := by
    decide +kernel
  obtain ⟨-, -, -, hauthorized, -⟩ := every_consumption_is_authorized_once ht
  exact ⟨t, ht, hreports, hauthorized _ 0 sampleApprovalIntent 30 [] hreports⟩

end Oxid.Wallet
