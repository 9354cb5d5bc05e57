import Oxid.Foundation
import Oxid.Result
import Oxid.Slots
import Oxid.Transition.Run

/-!
# Accepted issuance flows

`CredentialIssuanceFlowService` of `credential_issuance.rs` mints authorities that are bound to
a context, to a time window and to a generation, which `invalidate` moves on.  The generation
is compared under a lock that is given back before the authority is consumed.
-/

namespace Oxid.Identity
open Foundation Result Slots Transition List Option UInt64

inductive CredentialIssuanceFlowError
  | unavailable | expired | clockWentBackwards | generationMismatch | flowMismatch
  | foreignIssuer | alreadyConsumed

abbrev Checked := Except CredentialIssuanceFlowError

structure AcceptedCredentialIssuanceContext where
  profile : OpaqueId
  (did canonicalMethod flowId sessionId : String)
  deriving DecidableEq

structure AcceptedFlowToken where
  binding : AcceptedCredentialIssuanceContext
  (issuedAt expiresAt generation : UInt64)
  deriving DecidableEq

def maxTtlMillis : UInt64 := 120000

/-- `mint` behind the generation; a clock that fails reads `none`. -/
def mintToken (context : AcceptedCredentialIssuanceContext) (generation : UInt64)
    (reading : Option UInt64) : Checked AcceptedFlowToken := do
  let issuedAt ← okOr reading .unavailable
  let expiresAt ← okOr (checkedAdd64 issuedAt maxTtlMillis) .unavailable
  .ok ⟨context, issuedAt, expiresAt, generation⟩

/-- What `bind_and_consume_for_signing` checks between the generation and `try_consume`. -/
def AcceptedFlowToken.check (token : AcceptedFlowToken)
    (expected : AcceptedCredentialIssuanceContext) (reading : Option UInt64) : Checked UInt64 := do
  let now ← okOr reading .unavailable
  rejectIf (now < token.issuedAt) .clockWentBackwards
  rejectIf (token.expiresAt ≤ now) .expired
  rejectIf (token.binding ≠ expected) .flowMismatch
  .ok now

inductive MintStage
  | stamping (context : AcceptedCredentialIssuanceContext) (generation : UInt64)
  | returned (token : ℕ)

inductive UseStage
  | timing (token : ℕ) (expected : AcceptedCredentialIssuanceContext)
  | consuming (token : ℕ) (expected : AcceptedCredentialIssuanceContext) (now : UInt64)
  | returned

/-- The token that a use goes on to consume. -/
def UseStage.token : UseStage → Option ℕ
  | .timing token _ | .consuming token _ _ => some token
  | .returned => none

/-- The tokens its issuer has minted are numbered; `consumed` lists those whose flag is set.
A call that has failed is its error. -/
structure CredentialIssuanceFlowService where
  generation : Option UInt64 := some 0
  tokens : List AcceptedFlowToken := []
  consumed : List ℕ := []
  mints : List (Checked MintStage) := []
  uses : List (Checked UseStage) := []

inductive FlowEvent
  | mint (context : AcceptedCredentialIssuanceContext)
  | stamp (call : ℕ) (reading : Option UInt64)
  | use (token : ℕ) (expected : AcceptedCredentialIssuanceContext)
  | time (call : ℕ) (reading : Option UInt64)
  | consume (call : ℕ)
  | invalidate

/-- What a call has done: a mint or an `invalidate` that returned, and of a use the generation it
has found to be the token's, and its `try_consume`. -/
inductive FlowReport
  | minted (token : ℕ) (t : AcceptedFlowToken)
  | compared (call token : ℕ)
  | consumed (call token : ℕ) (context : AcceptedCredentialIssuanceContext) (now : UInt64)
  | invalidated
  deriving DecidableEq

namespace CredentialIssuanceFlowService

/-- A number without a token stands for a token of another issuer. -/
def checkGeneration (s : CredentialIssuanceFlowService) (token : ℕ) : Checked Unit := do
  let t ← okOr s.tokens[token]? .foreignIssuer
  let generation ← okOr s.generation .unavailable
  rejectIf (generation ≠ t.generation) .generationMismatch

/-- One access to the lock, to the clock or to the flag of a token. -/
def act (s : CredentialIssuanceFlowService) :
    FlowEvent → Option (CredentialIssuanceFlowService × Option FlowReport)
  | .mint context =>
    let stage := (okOr s.generation .unavailable).map (.stamping context)
    some ({ s with mints := s.mints ++ [stage] }, none)
  | .stamp call reading =>
    match s.mints[call]? with
    | some (.ok (.stamping context generation)) =>
      match mintToken context generation reading with
      | .error e => some ({ s with mints := s.mints.set call (.error e) }, none)
      | .ok token =>
        let stage := .ok (.returned s.tokens.length)
        some ({ s with tokens := s.tokens ++ [token], mints := s.mints.set call stage },
          some (.minted s.tokens.length token))
    | _ => none
  | .use token expected =>
    match s.checkGeneration token with
    | .error e => some ({ s with uses := s.uses ++ [.error e] }, none)
    | .ok () =>
      some ({ s with uses := s.uses ++ [.ok (.timing token expected)] },
        some (.compared s.uses.length token))
  | .time call reading =>
    match s.uses[call]? with
    | some (.ok (.timing token expected)) =>
      s.tokens[token]?.map fun t =>
        let stage := (t.check expected reading).map (.consuming token expected)
        ({ s with uses := s.uses.set call stage }, none)
    | _ => none
  | .consume call =>
    match s.uses[call]? with
    | some (.ok (.consuming token expected now)) =>
      if token ∈ s.consumed then
        some ({ s with uses := s.uses.set call (.error .alreadyConsumed) }, none)
      else
        some ({ s with uses := s.uses.set call (.ok .returned), consumed := token :: s.consumed },
          some (.consumed call token expected now))
    | _ => none
  | .invalidate =>
    let generation := s.generation.bind (checkedAdd64 · 1)
    some ({ s with generation }, generation.map fun _ => .invalidated)

/-- The token was minted before an `invalidate` that returned. -/
def Revoked (past : List FlowReport) (token : ℕ) : Prop :=
  ∃ t, Since (.minted token t) (· = .invalidated) past

/-- An `invalidate` has returned since the use compared the generation with that of the token. -/
def Interrupted (past : List FlowReport) (call token : ℕ) : Prop :=
  Since (.compared call token) (· = .invalidated) past

/-- A use gets past the generation with a token that is minted and not revoked.  A consumption is
the first one of its token, with the context the token was minted for and within its window; and
the token was revoked only if the flow was invalidated in the middle of this use. -/
def Justified (past : List FlowReport) : FlowReport → Prop
  | .compared _ token => (∃ t, .minted token t ∈ past) ∧ ¬ Revoked past token
  | .consumed call token context now =>
    (∃ t, (∀ t', .minted token t' ∈ past ↔ t' = t) ∧ t.binding = context ∧ t.issuedAt ≤ now ∧
      now.toNat < t.issuedAt.toNat + 120000) ∧
    (∀ i c n, .consumed i token c n ∉ past) ∧ (Revoked past token ↔ Interrupted past call token)
  | _ => True

/-- The use has compared the generation, and the token was not revoked before that. -/
def Compared (past : List FlowReport) (call token : ℕ) : Prop :=
  .compared call token ∈ past ∧ (Revoked past token → Interrupted past call token)

/-- What the tokens, the calls and the generation have to do with what was reported. -/
structure Chronicle (past : List FlowReport) (s : CredentialIssuanceFlowService) : Prop where
  minted : ∀ k t, .minted k t ∈ past ↔ s.tokens[k]? = some t
  window : ∀ t ∈ s.tokens, t.expiresAt.toNat = t.issuedAt.toNat + 120000
  consumed : ∀ i k c n, .consumed i k c n ∈ past → k ∈ s.consumed
  compared : ∀ (i : ℕ) stage k, s.uses[i]? = some (.ok stage) → stage.token = some k →
    Compared past i k
  checked : ∀ k c now, .ok (.consuming k c now) ∈ s.uses →
    ∃ t, s.tokens[k]? = some t ∧ t.binding = c ∧ t.issuedAt ≤ now ∧ now < t.expiresAt
  stamped : ∀ g c g', s.generation = some g → .ok (.stamping c g') ∈ s.mints → g' ≤ g
  issued : ∀ g, s.generation = some g → ∀ t ∈ s.tokens, t.generation ≤ g
  revoked : ∀ g k t, s.generation = some g → s.tokens[k]? = some t → Revoked past k →
    t.generation < g
  justified : EveryReport Justified past

section Step
variable {past : List FlowReport} {s s' : CredentialIssuanceFlowService} {f : Option FlowReport}
  {k : ℕ} {t : AcceptedFlowToken} {context : AcceptedCredentialIssuanceContext} {g g' now : UInt64}
  {reading : Option UInt64}

theorem mintToken_ok (h : mintToken context g reading = .ok t) :
    t.generation = g ∧ t.expiresAt.toNat = t.issuedAt.toNat + 120000 := by
  simp only [mintToken, bind_ok_iff, okOr_ok_iff, checkedAdd64_eq_some_iff, Except.ok.injEq] at h
  obtain ⟨issuedAt, -, expiresAt, hexpires, rfl⟩ := h
  exact ⟨rfl, hexpires⟩

theorem check_ok (h : t.check context reading = .ok now) :
    t.binding = context ∧ t.issuedAt ≤ now ∧ now < t.expiresAt := by
  simp only [AcceptedFlowToken.check, bind_ok_iff, okOr_ok_iff, rejectIf_ok_iff,
    Except.ok.injEq] at h
  obtain ⟨_, -, -, hissued, -, hexpires, -, hbinding, rfl⟩ := h
  simpa using And.intro hbinding (And.intro hissued hexpires)

theorem revoked_append (h : Revoked (past ++ f.toList) k) :
    Revoked past k ∨ f = some .invalidated := by
  obtain ⟨t, h⟩ := h
  rcases h.of_append with hold | ⟨_, hf, rfl⟩
  · exact .inl ⟨t, hold⟩
  · exact .inr hf

theorem revoked_of_concat {r : FlowReport} (h : Revoked (past ++ [r]) k) (hr : r ≠ .invalidated) :
    Revoked past k :=
  (revoked_append (f := some r) h).resolve_right fun heq => hr (some.inj heq)

theorem Compared.append {i} (h : Compared past i k) (f : Option FlowReport) :
    Compared (past ++ f.toList) i k := by
  refine ⟨mem_append_left _ h.1, fun hrevoked => ?_⟩
  rcases revoked_append hrevoked with hold | rfl
  · exact (h.2 hold).append
  · exact since_concat h.1 rfl

theorem revoked_iff_interrupted {i} (h : Compared past i k) (hpast : EveryReport Justified past) :
    Revoked past k ↔ Interrupted past i k := by
  refine ⟨h.2, ?_⟩
  rintro ⟨before, after, rfl, hK⟩
  obtain ⟨⟨t, ht⟩, -⟩ := hpast before _ after rfl
  obtain ⟨first, second, rfl⟩ := append_of_mem ht
  obtain ⟨b, hb, rfl⟩ := hK
  exact ⟨t, first, second ++ .compared i k :: after, by simp, _, by simp [hb], rfl⟩

theorem Chronicle.mint (h : Chronicle past s) (hissued : ∀ g, s.generation = some g →
      t.generation ≤ g) (hexpires : t.expiresAt.toNat = t.issuedAt.toNat + 120000) :
    Chronicle (past ++ [.minted s.tokens.length t]) { s with tokens := s.tokens ++ [t] } where
  minted k t' := by
    rw [mem_append, h.minted, mem_singleton, getElem?_concat_iff, FlowReport.minted.injEq]
  window := forall_mem_append.mpr ⟨h.window, by simpa using hexpires⟩
  consumed i k c n hmem := h.consumed i k c n (by simpa using hmem)
  compared i stage k hi hk := (h.compared i stage k hi hk).append (some _)
  checked k c now hmem := by
    obtain ⟨t', ht', hrest⟩ := h.checked k c now hmem
    exact ⟨t', getElem?_concat_iff.mpr (.inl ht'), hrest⟩
  stamped := h.stamped
  issued g hg := forall_mem_append.mpr ⟨h.issued g hg, by simpa using hissued g hg⟩
  revoked g k t' hg ht' hrevoked := by
    have hrevoked := revoked_of_concat hrevoked nofun
    obtain ht' | ⟨rfl, -⟩ := getElem?_concat_iff.mp ht'
    · exact h.revoked g k t' hg ht' hrevoked
    · obtain ⟨t'', hsince⟩ := hrevoked
      have := (h.minted _ t'').mp hsince.mem
      simp at this
  justified := h.justified.append (f := some _) (fun r hr => by cases hr; trivial)

theorem checkGeneration_ok (h : s.checkGeneration k = .ok ()) :
    ∃ t, s.tokens[k]? = some t ∧ s.generation = some t.generation := by
  simp only [checkGeneration, bind_ok_iff, okOr_ok_iff, rejectIf_ok_iff] at h
  obtain ⟨t, ht, g, hg, hsame⟩ := h
  have hsame : g = t.generation := by simpa using hsame
  exact ⟨t, ht, hsame ▸ hg⟩

/-- Here the generation is compared: it has moved on since a revoked token was minted. -/
theorem Chronicle.compare (h : Chronicle past s) (hcheck : s.checkGeneration k = .ok ())
    (expected : AcceptedCredentialIssuanceContext) : Chronicle (past ++ [.compared s.uses.length k])
      { s with uses := s.uses ++ [.ok (.timing k expected)] } := by
  obtain ⟨t, ht, hg⟩ := checkGeneration_ok hcheck
  have hvalid : ¬ Revoked past k := fun hrevoked =>
    lt_irrefl _ (h.revoked _ k t hg ht hrevoked)
  refine { h with
    minted := fun k t => ?minted
    consumed := fun i k c n hmem => h.consumed i k c n (by simpa using hmem)
    compared := fun i stage k' hi hk' => ?compared
    checked := fun k c now hmem => h.checked k c now (by simpa using hmem)
    revoked := fun g k t hg ht hrevoked =>
      h.revoked g k t hg ht (revoked_of_concat hrevoked nofun)
    justified := h.justified.append (f := some _) fun r hr => ?justified }
  case minted =>
    rw [← h.minted]
    simp
  case compared =>
    obtain hi | ⟨rfl, hstage⟩ := getElem?_concat_iff.mp hi
    · exact (h.compared i stage k' hi hk').append (some _)
    · cases hstage
      cases hk'
      exact ⟨by simp, fun hrevoked => absurd (revoked_of_concat hrevoked nofun) hvalid⟩
  case justified =>
    cases hr
    exact ⟨⟨t, (h.minted k t).mpr ht⟩, hvalid⟩

theorem Chronicle.consume {call} (h : Chronicle past s) (ht : s.tokens[k]? = some t)
    (hnow : t.issuedAt ≤ now ∧ now < t.expiresAt) (hcompared : Compared past call k)
    (hnew : k ∉ s.consumed) : Chronicle (past ++ [.consumed call k t.binding now])
      { s with consumed := k :: s.consumed } where
  __ := h
  minted k' t' := by
    rw [← h.minted]
    simp
  consumed i k' c n hmem := by
    rcases mem_append.mp hmem with hmem | hmem
    · exact mem_cons_of_mem k (h.consumed i k' c n hmem)
    · cases mem_singleton.mp hmem
      exact mem_cons_self
  compared i stage k' hi hk' := (h.compared i stage k' hi hk').append (some _)
  revoked g k' t' hg ht' hrevoked :=
    h.revoked g k' t' hg ht' (revoked_of_concat hrevoked nofun)
  justified := by
    refine h.justified.append (f := some _) fun r hr => ?_
    cases hr
    refine ⟨⟨t, ?_, rfl, hnow.1, ?_⟩, fun i c n hmem => hnew (h.consumed i k c n hmem),
      revoked_iff_interrupted hcompared h.justified⟩
    · intro t'
      rw [h.minted, ht, some.injEq, eq_comm]
    · rw [← h.window t (mem_of_getElem? ht)]
      exact hnow.2

theorem Chronicle.invalidate (h : Chronicle past s) (hg : s.generation = some g) (hlt : g < g') :
    Chronicle (past ++ [.invalidated]) { s with generation := some g' } where
  __ := h
  minted k t := by
    rw [← h.minted]
    simp
  consumed i k c n hmem := h.consumed i k c n (by simpa using hmem)
  compared i stage k hi hk := (h.compared i stage k hi hk).append (some _)
  stamped _ c before hg' hmem := by
    cases hg'
    exact le_trans (h.stamped g c before hg hmem) (le_of_lt hlt)
  issued _ hg' t ht := by
    cases hg'
    exact le_trans (h.issued g hg t ht) (le_of_lt hlt)
  revoked _ k t hg' ht _ := by
    cases hg'
    exact lt_of_le_of_lt (h.issued g hg t (mem_of_getElem? ht)) hlt
  justified := h.justified.append (f := some _) (fun r hr => by cases hr; trivial)

/-- A use that fails or goes on with its token. -/
theorem Chronicle.set_use {call : ℕ} {stage stage' : Checked UseStage} (h : Chronicle past s)
    (hcall : s.uses[call]? = some stage) (hold : ∀ u, stage' = .ok u → u.token = none ∨
      ∃ v, stage = .ok v ∧ v.token = u.token)
    (hchecked : ∀ k c now, stage' = .ok (.consuming k c now) →
      ∃ t, s.tokens[k]? = some t ∧ t.binding = c ∧ t.issuedAt ≤ now ∧ now < t.expiresAt) :
    Chronicle past { s with uses := s.uses.set call stage' } where
  __ := h
  compared i u k hi hk := by
    rcases getElem?_set_cases s.uses call stage' i with heq | ⟨rfl, heq⟩
    · exact h.compared i u k (heq ▸ hi) hk
    · rw [heq, some.injEq] at hi
      rcases hold u hi with hnone | ⟨v, rfl, hv⟩
      · cases hnone.symm.trans hk
      · exact h.compared i v k hcall (hv.trans hk)
  checked k c now hmem := by
    rcases mem_or_eq_of_mem_set hmem with hmem | heq
    · exact h.checked k c now hmem
    · exact hchecked k c now heq.symm

theorem Chronicle.step {e} (h : Chronicle past s) (hact : s.act e = some (s', f)) :
    Chronicle (past ++ f.toList) s' := by
  have hquiet : ∀ {t : CredentialIssuanceFlowService}, Chronicle past t →
      Chronicle (past ++ (none : Option FlowReport).toList) t := by
    intro t ht
    rwa [toList_none, append_nil]
  cases e with
  | mint context =>
    cases hact
    refine hquiet { h with stamped := fun g c g' hg hmem => ?_ }
    rcases mem_append.mp hmem with hmem | hmem
    · exact h.stamped g c g' hg hmem
    · rw [mem_singleton, hg] at hmem
      cases hmem
      exact le_refl _
  | stamp call reading =>
    simp only [act] at hact
    split at hact
    · rename_i context generation hcall
      have hended : ∀ stage, (∀ c g, stage ≠ .ok (.stamping c g)) →
          Chronicle past { s with mints := s.mints.set call stage } := by
        intro stage hstage
        refine { h with stamped := fun g c g' hg hmem => h.stamped g c g' hg ?_ }
        exact (mem_or_eq_of_mem_set hmem).resolve_right (hstage c g').symm
      split at hact
      · cases hact
        exact hquiet (hended _ (by simp))
      · rename_i token htoken
        cases hact
        obtain ⟨hgeneration, hexpires⟩ := mintToken_ok htoken
        refine (hended _ (by simp)).mint (fun g hg => ?_) hexpires
        exact hgeneration ▸ h.stamped g _ _ hg (mem_of_getElem? hcall)
    · cases hact
  | use token expected =>
    simp only [act] at hact
    split at hact
    · cases hact
      refine hquiet { h with
        compared := fun i stage k hi => h.compared i stage k ?_
        checked := fun k c now hmem => h.checked k c now (by simpa using hmem) }
      simpa [getElem?_concat_iff] using hi
    · rename_i hcheck
      cases hact
      exact h.compare hcheck expected
  | time call reading =>
    simp only [act] at hact
    split at hact
    · rename_i token expected hcall
      obtain ⟨t, ht, heq⟩ := map_eq_some_iff.mp hact
      cases heq
      refine hquiet (h.set_use hcall (fun u hu => ?_) fun k c now hstage => ?_)
      · obtain ⟨now, -, rfl⟩ := map_ok_iff.mp hu
        exact .inr ⟨_, rfl, rfl⟩
      · obtain ⟨_, hcheck, heq⟩ := map_ok_iff.mp hstage
        cases heq
        exact ⟨t, ht, check_ok hcheck⟩
    · cases hact
  | consume call =>
    simp only [act] at hact
    split at hact
    · rename_i token expected now hcall
      obtain ⟨t, ht, rfl, hnow⟩ := h.checked token expected now (mem_of_getElem? hcall)
      split at hact
      · cases hact
        exact hquiet (h.set_use hcall nofun nofun)
      · rename_i hnew
        cases hact
        have hended : Chronicle past { s with uses := s.uses.set call (.ok .returned) } :=
          h.set_use hcall (fun u hu => .inl (by cases hu; rfl)) nofun
        exact hended.consume ht hnow (h.compared call _ token hcall rfl) hnew
    · cases hact
  | invalidate =>
    cases hact
    cases hnext : s.generation.bind (checkedAdd64 · 1) with
    | none => exact hquiet { h with stamped := nofun, issued := nofun, revoked := nofun }
    | some g' =>
      obtain ⟨g, hg, hadd⟩ := bind_eq_some_iff.mp hnext
      refine h.invalidate hg (lt_iff_toNat_lt.mpr ?_)
      rw [checkedAdd64_eq_some_iff.mp hadd]
      exact Nat.lt_succ_self _

/-- **Invalidating a flow is effective**, but for a use that has compared the generation already:
every report of a run is justified by those before it. -/
theorem issuance_consumptions_justified {es : List FlowEvent}
    (hrun : run (stepOf act) {} es = some s) : EveryReport Justified (history act {} es) := by
  refine (history_invariant (P := Chronicle) hrun ?_ ?_).justified
  · exact ⟨by simp, nofun, nofun, nofun, nofun, nofun, nofun, nofun, everyReport_nil⟩
  · intro past p e q f hpast hact
    exact hpast.step hact

end Step

def sampleContext : AcceptedCredentialIssuanceContext :=
  ⟨⟨"issuance", by decide, by decide, by decide, by decide⟩, "did", "method", "flow", "session"⟩

def sampleToken (generation : UInt64) : AcceptedFlowToken := ⟨sampleContext, 5, 120005, generation⟩

def mintRun (call : ℕ) : List FlowEvent := [.mint sampleContext, .stamp call (some 5)]

/-- The first token is revoked before it is used, the second one is minted after that. -/
def renewedRun : List FlowEvent :=
  mintRun 0 ++ [.invalidate, .use 0 sampleContext] ++ mintRun 1 ++
    [.use 1 sampleContext, .time 1 (some 6), .consume 1]

def renewedPast : List FlowReport :=
  [.minted 0 (sampleToken 0), .invalidated, .minted 1 (sampleToken 1)] ++ [.compared 1 1]

theorem issuance_consumptions_justified_current :
    history act {} renewedRun = renewedPast ++ [.consumed 1 1 sampleContext 6] ∧
      ¬ Interrupted renewedPast 1 1 ∧ ¬ Revoked renewedPast 1 := by
  have hhistory : history act {} renewedRun = renewedPast ++ [.consumed 1 1 sampleContext 6] := by
    decide +kernel
  obtain ⟨s, hrun⟩ := isSome_iff_exists.mp
    (by decide +kernel : (run (stepOf act) {} renewedRun).isSome)
  have hwhole : ¬ Interrupted renewedPast 1 1 := by
    intro h
    rcases Since.of_append (f := some _) h with hbefore | ⟨_, heq, rfl⟩
    · exact absurd hbefore.mem (by decide +kernel)
    · cases heq
  obtain ⟨-, -, hrevoked⟩ := issuance_consumptions_justified hrun renewedPast _ [] hhistory
  exact ⟨hhistory, hwhole, fun h => hwhole (hrevoked.mp h)⟩

/-- The call has checked the generation when the flow is invalidated, and consumes it after. -/
theorem invalidated_authority_consumed : history act {} (mintRun 0 ++
      [.use 0 sampleContext, .time 0 (some 6), .invalidate, .consume 0]) =
      [.minted 0 (sampleToken 0), .compared 0 0, .invalidated, .consumed 0 0 sampleContext 6] := by
  decide +kernel

end CredentialIssuanceFlowService
end Oxid.Identity
