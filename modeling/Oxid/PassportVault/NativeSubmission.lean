import Oxid.OneShot
import Oxid.PassportVault.NativeCall

/-!
# A native call is sent at most once

The submissions of a draft are attempts in the sense of `OneShot`: one worker at a time calls
the completion port, and none after a call has broadcast.
-/

namespace Oxid.PassportVault
open Foundation Result Transition OneShot Option OneShot

/-! ## What is observed -/

structure FundedTransaction where
  key : CallKey
  authorizationChallenge : PassportVaultCallAuthorizationChallenge
  now : UInt64
  transaction : List UInt8

namespace RetainedNativeCall

def fundedBy (retained : RetainedNativeCall) (profileId : OpaqueId)
    (request : AuthorizePassportVaultCallRequest) (fund : Funding) : Option (List UInt8) :=
  let retained := retained.expireIfNeeded request.now
  if retained.preview.state = .prepared ∧
      retained.preview.authorizationChallenge = request.authorizationChallenge ∧
      retained.pendingProtectedClaim = none then
    (fund (retained.fundingRequest profileId)).toOption
  else none

end RetainedNativeCall

def claimFundedBy (env : NativeEnvironment) (profileId : OpaqueId)
    (work : RetainedNativeCall.ClaimWork)
    (compose : PendingProtectedClaim → Except PassportVaultCallPortError (List UInt8))
    (fund : Funding) : Option (List UInt8) := do
  let transaction ← (compose work.pending).toOption
  (env.validateUnprovenTransaction transaction work.pending.context.networkId).toOption
  (fund ⟨profileId.asStr, work.pending.context.networkId, work.expiresAt / 1000, false,
    transaction⟩).toOption

def Worker.key : Worker → Option CallKey
  | .spawning key _ | .completing key _ | .finishing key _ => some key
  | .unused | .ended => none

def Conclusive (result : Except PassportVaultCallPortError PassportVaultCallInclusion) : Prop :=
  match result with
  | .ok _ | .error .submissionOutcomeUnknown | .error .submissionRejected => True
  | .error _ => False

instance decidableConclusive :
    ∀ result : Except PassportVaultCallPortError PassportVaultCallInclusion,
      Decidable (Conclusive result)
  | .ok _ | .error .submissionOutcomeUnknown | .error .submissionRejected => isTrue trivial
  | .error error => decidable_of_iff
      (error = .submissionOutcomeUnknown ∨ error = .submissionRejected)
      (by cases error <;> simp [Conclusive])

namespace NativeState

def funded (env : NativeEnvironment) (s : NativeState) : NativeEvent → List FundedTransaction
  | .authorize call profileId request fund =>
    match s.authorizing call, s.calls.get (profileId, request.draftId) with
    | none, some retained =>
      ((retained.fundedBy profileId request fund).map fun transaction =>
        ⟨(profileId, request.draftId), request.authorizationChallenge, request.now,
          transaction⟩).toList
    | _, _ => []
  | .authorizeClaim call compose fund =>
    match s.authorizing call with
    | some a =>
      ((claimFundedBy env a.profileId a.work compose fund).map fun transaction =>
        ⟨(a.profileId, a.request.draftId), a.request.authorizationChallenge, a.request.now,
          transaction⟩).toList
    | none => []
  | _ => []

/-- What happens to the `complete` calls of a draft in a step: a worker calls the port, it
broadcasts, it returns or panics; and the draft is removed because it was rejected. -/
def attempts (k : CallKey) (s : NativeState) : NativeEvent → List (Move Nat)
  | .spawn w =>
    match s.workers w with
    | .spawning key _ => if key = k then [.start w] else []
    | _ => []
  | .broadcast w =>
    match s.workers w with
    | .completing key _ => if key = k then [.fire w] else []
    | _ => []
  | .completed w _ | .panicked w =>
    match s.workers w with
    | .completing key _ => if key = k then [.stop w] else []
    | _ => []
  | .finish w _ =>
    match s.workers w with
    | .finishing key (.error .submissionRejected) => if key = k then [.renew] else []
    | _ => []
  | _ => []

/-- The completion port returns another error than an unknown outcome or a rejection only
if the call broadcast nothing. -/
def PortHonest (s : NativeState) : NativeEvent → Prop
  | .completed w result =>
    match s.workers w with
    | .completing _ true => Conclusive result
    | _ => True
  | _ => True

instance decidablePortHonest (s : NativeState) : ∀ e, Decidable (s.PortHonest e)
  | .completed w result =>
    match h : s.workers w with
    | .completing _ true => decidable_of_iff (Conclusive result) (by simp [PortHonest, h])
    | .completing _ false => isTrue (by simp [PortHonest, h])
    | .unused | .spawning _ _ | .finishing _ _ | .ended => isTrue (by simp [PortHonest, h])
  | .prepare .. | .authorize .. | .authorizeClaim .. | .submit .. | .spawn .. | .spawnFailed ..
  | .broadcast .. | .panicked .. | .finish .. | .get .. | .report .. | .applyReport .. =>
    isTrue trivial

end NativeState

open NativeState

section Drafts
variable {F F' : List FundedTransaction} {k : CallKey} {r r' : RetainedNativeCall}
  {transaction : List UInt8}

def Backs (F : List FundedTransaction) (k : CallKey) (r : RetainedNativeCall)
    (transaction : List UInt8) : Prop :=
  ∃ f ∈ F, f.key = k ∧ f.authorizationChallenge = r.preview.authorizationChallenge ∧
    f.now < r.preview.expiresAt ∧ f.transaction = transaction

def Backed (F : List FundedTransaction) (k : CallKey) (r : RetainedNativeCall) : Prop :=
  r.preview.state ≠ .prepared → r.unprovenTransaction ≠ [] → Backs F k r r.unprovenTransaction

structure Continues (F : List FundedTransaction) (k : CallKey) (r r' : RetainedNativeCall) :
    Prop where
  challenge : r'.preview.authorizationChallenge = r.preview.authorizationChallenge
  expiresAt : r'.preview.expiresAt = r.preview.expiresAt
  backed : Backed F k r → Backed F k r'

def RetainedNativeCall.Sending (r : RetainedNativeCall) : Prop :=
  r.preview.state = .submitting ∨ r.preview.state = .submitted

theorem RetainedNativeCall.Sending.state_ne_prepared (h : r.Sending) :
    r.preview.state ≠ .prepared := by
  rcases h with h | h <;> simp [h]

theorem Backs.mono (h : Backs F k r transaction) (hF : ∀ f ∈ F, f ∈ F') :
    Backs F' k r transaction := by
  obtain ⟨f, hf, hmatch⟩ := h
  exact ⟨f, hF f hf, hmatch⟩

theorem Backs.continues (h : Backs F k r transaction) (hr : Continues F k r r') :
    Backs F k r' transaction := by
  rw [Backs, hr.challenge, hr.expiresAt]
  exact h

theorem Continues.refl (F : List FundedTransaction) (k : CallKey) (r : RetainedNativeCall) :
    Continues F k r r :=
  ⟨rfl, rfl, id⟩

theorem Continues.trans {r''} (h : Continues F k r r') (h' : Continues F k r' r'') :
    Continues F k r r'' :=
  ⟨h'.challenge.trans h.challenge, h'.expiresAt.trans h.expiresAt, h'.backed ∘ h.backed⟩

theorem Continues.of_transaction
    (hchallenge : r'.preview.authorizationChallenge = r.preview.authorizationChallenge)
    (hexpires : r'.preview.expiresAt = r.preview.expiresAt)
    (htransaction : r'.unprovenTransaction = [] ∨ r'.unprovenTransaction = r.unprovenTransaction ∧
        (r'.preview.state ≠ .prepared → r.preview.state ≠ .prepared)) : Continues F k r r' := by
  refine ⟨hchallenge, hexpires, ?_⟩
  intro hbacked hstate hne
  rcases htransaction with hempty | ⟨hsame, hpast⟩
  · exact absurd hempty hne
  · rw [Backs, hsame, hchallenge, hexpires]
    rw [hsame] at hne
    exact hbacked (hpast hstate) hne

open RetainedNativeCall

theorem expireIfNeeded_of_sending (h : r.Sending) (now : UInt64) : r.expireIfNeeded now = r := by
  rw [expireIfNeeded, if_neg]
  rintro ⟨-, hstate⟩
  rcases h with h | h <;> simp [h] at hstate

theorem continues_expireIfNeeded (now : UInt64) : Continues F k r (r.expireIfNeeded now) := by
  rw [expireIfNeeded]
  split_ifs
  · exact .of_transaction rfl rfl (.inl rfl)
  · exact .refl F k r

theorem lt_expiresAt_of_expireIfNeeded {now}
    (h : (r.expireIfNeeded now).preview.state = .prepared) : now < r.preview.expiresAt := by
  rw [expireIfNeeded] at h
  split_ifs at h with hexpired
  by_contra hle
  exact hexpired ⟨UInt64.not_lt.mp hle, .inl h⟩

theorem continues_authorized {now challenge}
    (hchallenge : (r.expireIfNeeded now).preview.authorizationChallenge = challenge)
    (hstate : (r.expireIfNeeded now).preview.state = .prepared)
    (hfunded : ⟨k, challenge, now, transaction⟩ ∈ F) :
    Continues F k r ((r.expireIfNeeded now).authorized transaction) := by
  have hexpire := continues_expireIfNeeded (F := F) (k := k) (r := r) now
  have hnow := lt_expiresAt_of_expireIfNeeded hstate
  rw [← hexpire.expiresAt] at hnow
  rw [← hchallenge] at hfunded
  exact hexpire.trans ⟨rfl, rfl, fun _ _ _ => ⟨_, hfunded, rfl, rfl, hnow, rfl⟩⟩

section Authorize
variable {env : NativeEnvironment} {profileId : OpaqueId}
  {request : AuthorizePassportVaultCallRequest} {fund : Funding}
  {work : RetainedNativeCall.ClaimWork} {answer : Except PassportVaultCallPortError (List UInt8)}

theorem beginAuthorize_of_sending (h : r.Sending) :
    (r.beginAuthorize env profileId request fund).2 = r := by
  rw [beginAuthorize, expireIfNeeded_of_sending h]
  rcases h with h | h <;> simp only [h] <;> split_ifs <;> rfl

theorem continues_beginAuthorize
    (hfunded : ∀ transaction, r.fundedBy profileId request fund = some transaction →
      ⟨k, request.authorizationChallenge, request.now, transaction⟩ ∈ F) :
    Continues F k r (r.beginAuthorize env profileId request fund).2 := by
  have hexpire := continues_expireIfNeeded (F := F) (k := k) (r := r) request.now
  rw [beginAuthorize]
  by_cases hexpired : (r.expireIfNeeded request.now).preview.state = .expired
  · rw [if_pos hexpired]
    exact hexpire
  by_cases hchallenge : (r.expireIfNeeded request.now).preview.authorizationChallenge ≠
      request.authorizationChallenge
  · rw [if_neg hexpired, if_pos hchallenge]
    exact hexpire
  rw [if_neg hexpired, if_neg hchallenge]
  rw [ne_eq, not_not] at hchallenge
  cases hstate : (r.expireIfNeeded request.now).preview.state with
  | authorized | submitting | submitted | expired => exact hexpire
  | prepared =>
    cases hpending : (r.expireIfNeeded request.now).pendingProtectedClaim with
    | some =>
      dsimp only
      split_ifs
      · exact hexpire
      · exact hexpire.trans (.of_transaction rfl rfl (.inr ⟨rfl, id⟩))
    | none =>
      cases hfund : fund ((r.expireIfNeeded request.now).fundingRequest profileId) with
      | error => exact hexpire
      | ok transaction =>
        have hmem := hfunded transaction (by
          rw [fundedBy, if_pos ⟨hstate, hchallenge, hpending⟩, hfund]
          rfl)
        dsimp only
        split
        · exact hexpire
        · exact continues_authorized hchallenge hstate hmem

theorem concludeAuthorize_of_sending (h : r.Sending) :
    (r.concludeAuthorize request work answer).2 = r := by
  have hstate := h.state_ne_prepared
  cases answer with
  | error => simp [concludeAuthorize, hstate]
  | ok =>
    rw [concludeAuthorize, expireIfNeeded_of_sending h]
    split_ifs with hexpired hconflict
    · rfl
    · rfl
    · exact absurd (.inr (.inr (.inl hstate))) hconflict

theorem continues_concludeAuthorize (hfunded : ∀ transaction, answer = .ok transaction →
      ⟨k, request.authorizationChallenge, request.now, transaction⟩ ∈ F) :
    Continues F k r (r.concludeAuthorize request work answer).2 := by
  cases answer with
  | error =>
    dsimp only [concludeAuthorize]
    split_ifs
    · exact .of_transaction rfl rfl (.inr ⟨rfl, id⟩)
    · exact .refl F k r
  | ok transaction =>
    have hexpire := continues_expireIfNeeded (F := F) (k := k) (r := r) request.now
    rw [concludeAuthorize]
    split_ifs with hexpired hconflict
    · exact hexpire
    · exact hexpire
    · simp only [not_or, not_not, ne_eq] at hconflict
      obtain ⟨-, hchallenge, hstate, -⟩ := hconflict
      exact (continues_authorized hchallenge hstate (hfunded transaction rfl)).trans
        (.of_transaction rfl rfl (.inr ⟨rfl, id⟩))

theorem claimFundedBy_of_claimTransaction {compose}
    (h : claimTransaction env profileId work compose fund = .ok transaction) :
    claimFundedBy env profileId work compose fund = some transaction := by
  rw [claimTransaction] at h
  rw [claimFundedBy]
  cases hcompose : compose work.pending with
  | error => simp [hcompose, bind, Except.bind] at h
  | ok composed =>
    cases hvalid : env.validateUnprovenTransaction composed work.pending.context.networkId with
    | error => simp [hcompose, hvalid, bind, Except.bind] at h
    | ok =>
      cases hfund : fund ⟨profileId.asStr, work.pending.context.networkId,
          work.expiresAt / 1000, false, composed⟩ with
      | error => simp [hcompose, hvalid, hfund, bind, Except.bind] at h
      | ok funded =>
        cases hcheck : env.validateFundedTransaction funded work.pending.context.networkId with
        | error => simp [hcompose, hvalid, hfund, hcheck, bind, Except.bind] at h
        | ok =>
          have heq : funded = transaction := by
            simpa [hcompose, hvalid, hfund, hcheck, bind, Except.bind, pure, Except.pure] using h
          simp [hvalid, hfund, heq, Except.toOption]

end Authorize

section Submit
variable {profileId : OpaqueId} {request : SubmitPassportVaultCallRequest}
  {completion : PassportVaultCallCompletionRequest}

theorem continues_beginSubmit : Continues F k r (r.beginSubmit profileId request).2 := by
  have hexpire := continues_expireIfNeeded (F := F) (k := k) (r := r) request.now
  rw [beginSubmit]
  cases hstate : (r.expireIfNeeded request.now).preview.state with
  | submitted =>
    dsimp only
    split <;> exact hexpire
  | prepared | submitting | expired => exact hexpire
  | authorized =>
    dsimp only
    split_ifs
    · exact hexpire
    · refine hexpire.trans (.of_transaction rfl rfl (.inr ⟨rfl, fun _ => ?_⟩))
      rw [hstate]
      decide

theorem beginSubmit_of_sending (h : r.Sending) : (r.beginSubmit profileId request).2 = r := by
  rw [beginSubmit, expireIfNeeded_of_sending h]
  rcases h with h | h
  · simp only [h]
  · simp only [h]
    split <;> rfl

theorem beginSubmit_sending (h : (r.beginSubmit profileId request).1 = .sending completion) :
    ¬ r.Sending ∧ (r.beginSubmit profileId request).2.Sending ∧
      (Backed F k r → Backs F k (r.beginSubmit profileId request).2 completion.transaction) := by
  have hexpire := continues_expireIfNeeded (F := F) (k := k) (r := r) request.now
  rw [beginSubmit] at h ⊢
  cases hstate : (r.expireIfNeeded request.now).preview.state with
  | submitted =>
    simp only [hstate] at h
    split at h <;> cases h
  | prepared | submitting | expired =>
    simp only [hstate] at h
    cases h
  | authorized =>
    simp only [hstate] at h ⊢
    split_ifs at h with hempty
    rw [if_neg hempty]
    cases h
    refine ⟨?_, .inl rfl, ?_⟩
    · intro hsending
      rw [expireIfNeeded_of_sending hsending] at hstate
      rcases hsending with hs | hs <;> simp [hs] at hstate
    · intro hbacked
      exact hexpire.backed hbacked (by rw [hstate]; decide) hempty

end Submit

section Conclude
variable {result : Except PassportVaultCallPortError PassportVaultCallInclusion}
  {answer : Except PassportVaultCallPortError PassportVaultCallSubmissionStatus}
  {status : PassportVaultCallSubmissionStatus}

theorem continues_restoreAuthorized (h : r.Sending) : Continues F k r r.restoreAuthorized :=
  .of_transaction rfl rfl (.inr ⟨rfl, fun _ => h.state_ne_prepared⟩)

theorem continues_concludeSubmission (h : r.Sending)
    (hr : r.concludeSubmission result answer = some r') : Continues F k r r' := by
  unfold concludeSubmission at hr
  split at hr
  case h_1 | h_3 | h_5 =>
      cases hr
      exact .of_transaction rfl rfl (.inl rfl)
  case h_2 | h_6 =>
      cases hr
      exact .of_transaction rfl rfl (.inr ⟨rfl, fun _ => h.state_ne_prepared⟩)
  case h_4 => cases hr

theorem sending_concludeSubmission (h : r.Sending) (hresult : Conclusive result)
    (hr : r.concludeSubmission result answer = some r') : r'.Sending := by
  cases result with
  | ok =>
    cases hr
    exact .inr rfl
  | error error =>
    cases error with
    | submissionOutcomeUnknown =>
      cases hr
      exact h
    | submissionRejected => cases hr
    | _ => exact absurd hresult id

theorem concludeSubmission_eq_none :
    r.concludeSubmission result answer = none ↔ result = .error .submissionRejected := by
  unfold concludeSubmission
  split <;> simp_all

theorem continues_updateFromStatus : Continues F k r (r.updateFromStatus status) := by
  rw [updateFromStatus]
  cases status.state with
  | included =>
    dsimp only
    split
    · exact .of_transaction rfl rfl (.inl rfl)
    · exact .of_transaction rfl rfl (.inr ⟨rfl, id⟩)
  | broadcasting | outcomeUnknown | rejected | expired => exact .of_transaction rfl rfl (.inl rfl)
  | notStarted | running | cancellationRequested | cancelled =>
    exact .of_transaction rfl rfl (.inr ⟨rfl, id⟩)

theorem sending_updateFromStatus (h : r.Sending) : (r.updateFromStatus status).Sending := by
  rw [updateFromStatus]
  cases status.state with
  | included =>
    dsimp only
    split
    · exact .inr rfl
    · exact h
  | broadcasting | outcomeUnknown | rejected | expired | notStarted | running
  | cancellationRequested | cancelled => exact h

end Conclude
end Drafts

/-! ## One draft of the system -/

def SendingAt (k : CallKey) (calls : Rows CallKey RetainedNativeCall) : Prop :=
  ∃ r, calls.get k = some r ∧ r.Sending

def Allows (m : Shot Nat) (w : Nat) : Worker → Prop
  | .spawning _ _ => m = .ready
  | .completing _ broadcast => m = .running w broadcast
  | .finishing _ result => m = .ready ∨ m = .spent ∧ Conclusive result
  | .unused | .ended => True

structure Coupled (k : CallKey) (m : Shot Nat) (calls : Rows CallKey RetainedNativeCall)
    (workers : Nat → Worker) : Prop where
  unique : ∀ w w', (workers w).key = some k → (workers w').key = some k → w = w'
  sending : ∀ w, (workers w).key = some k → SendingAt k calls
  allows : ∀ w, (workers w).key = some k → Allows m w (workers w)
  idle : (∀ w, (workers w).key ≠ some k) → m = .ready ∨ m = .spent
  spent : m = .spent → SendingAt k calls

structure Guarded (k : CallKey) (F : List FundedTransaction) (m : Shot Nat)
    (calls : Rows CallKey RetainedNativeCall) (workers : Nat → Worker) : Prop where
  backed : ∀ r, calls.get k = some r → Backed F k r
  carried : ∀ w request, workers w = .spawning k request →
    ∃ r, calls.get k = some r ∧ Backs F k r request.transaction
  coupled : Coupled k m calls workers

section System
variable {F F' : List FundedTransaction} {k key : CallKey} {m m' : Shot Nat}
  {calls : Rows CallKey RetainedNativeCall} {workers : Nat → Worker} {w : Nat} {worker : Worker}
  {f : RetainedNativeCall → RetainedNativeCall} {s t : NativeState}

open NativeState

theorem guarded_start (k : CallKey) : Guarded k [] .ready start.calls start.workers where
  backed _ hr := nomatch hr
  carried _ _ hw := nomatch hw
  coupled := ⟨nofun, nofun, nofun, fun _ => .inl rfl, nofun⟩

theorem Guarded.mono (h : Guarded k F m calls workers) (hF : ∀ f ∈ F, f ∈ F') :
    Guarded k F' m calls workers where
  backed r hr hstate hne := (h.backed r hr hstate hne).mono hF
  carried w request hw := by
    obtain ⟨r, hr, hbacks⟩ := h.carried w request hw
    exact ⟨r, hr, hbacks.mono hF⟩
  coupled := h.coupled

theorem guarded_of_idle (hidle : ∀ w, (workers w).key ≠ some k)
    (hbacked : ∀ r, calls.get k = some r → Backed F k r) : Guarded k F .ready calls workers where
  backed := hbacked
  carried w request hw := absurd (by rw [hw]; rfl) (hidle w)
  coupled := {
    unique := fun w _ hw => absurd hw (hidle w)
    sending := fun w hw => absurd hw (hidle w)
    allows := fun w hw => absurd hw (hidle w)
    idle := fun _ => .inl rfl
    spent := nofun }

theorem guarded_of_spawning {r completion} (hidle : ∀ w, (workers w).key ≠ some k)
    (hget : calls.get k = some r) (hsending : r.Sending) (hbacked : Backed F k r)
    (hbacks : Backs F k r completion.transaction) :
    Guarded k F .ready calls (Function.update workers w (.spawning k completion)) := by
  have hkey : ∀ w', (Function.update workers w (.spawning k completion) w').key = some k →
      w' = w := by
    intro w' hw'
    by_contra hne
    rw [Function.update_of_ne hne] at hw'
    exact hidle w' hw'
  refine ⟨?_, ?_, ?_, ?_, ?_, fun _ => .inl rfl, nofun⟩
  · intro r' hr'
    rw [hget, some.injEq] at hr'
    exact hr' ▸ hbacked
  · intro w' request hw'
    rw [hkey w' (by rw [hw']; rfl), Function.update_self, Worker.spawning.injEq] at hw'
    exact ⟨r, hget, hw'.2 ▸ hbacks⟩
  · exact fun w₁ w₂ h₁ h₂ => (hkey w₁ h₁).trans (hkey w₂ h₂).symm
  · exact fun _ _ => ⟨r, hget, hsending⟩
  · intro w' hw'
    rw [hkey w' hw', Function.update_self]
    rfl

theorem Coupled.not_sending (h : Coupled k m calls workers)
    (hnot : ∀ r, calls.get k = some r → ¬ r.Sending) :
    (∀ w, (workers w).key ≠ some k) ∧ m = .ready := by
  have hno : ¬ SendingAt k calls := by
    intro hs
    obtain ⟨r, hr, hs⟩ := hs
    exact hnot r hr hs
  have hidle : ∀ w, (workers w).key ≠ some k := fun w hw => hno (h.sending w hw)
  exact ⟨hidle, (h.idle hidle).resolve_right fun hm => hno (h.spent hm)⟩

theorem Guarded.of_get {calls'} (h : Guarded k F m calls workers)
    (hget : calls'.get k = calls.get k) : Guarded k F m calls' workers := by
  have hkept : SendingAt k calls → SendingAt k calls' := by
    rw [SendingAt, SendingAt, hget]
    exact id
  refine ⟨by rw [hget]; exact h.backed, by rw [hget]; exact h.carried, ?_⟩
  exact ⟨h.coupled.unique, fun w hw => hkept (h.coupled.sending w hw), h.coupled.allows,
    h.coupled.idle, fun hm => hkept (h.coupled.spent hm)⟩

theorem Guarded.update (h : Guarded k F m s.calls s.workers)
    (hcontinues : key = k → ∀ r, s.calls.get k = some r → Continues F k r (f r))
    (hsending : key = k → ∀ r, s.calls.get k = some r → r.Sending → (f r).Sending) :
    Guarded k F m (s.update key f).calls (s.update key f).workers := by
  by_cases hk : key = k
  · have hget : (s.update key f).calls.get k = (s.calls.get k).map f := by
      simp [NativeState.update, hk]
    have hkept : SendingAt k s.calls → SendingAt k (s.update key f).calls := by
      intro hs
      obtain ⟨r, hr, hs⟩ := hs
      exact ⟨f r, by rw [hget, hr]; rfl, hsending hk r hr hs⟩
    refine ⟨?_, ?_, ⟨h.coupled.unique, fun w hw => hkept (h.coupled.sending w hw),
      h.coupled.allows, h.coupled.idle, fun hm => hkept (h.coupled.spent hm)⟩⟩
    · intro r' hr'
      rw [hget, map_eq_some_iff] at hr'
      obtain ⟨r, hr, rfl⟩ := hr'
      exact (hcontinues hk r hr).backed (h.backed r hr)
    · intro w request hw
      obtain ⟨r, hr, hbacks⟩ := h.carried w request hw
      exact ⟨f r, by rw [hget, hr]; rfl, hbacks.continues (hcontinues hk r hr)⟩
  · exact h.of_get (by simp [NativeState.update, Ne.symm hk])

theorem Guarded.worker_other (h : Guarded k F m calls workers)
    (hold : (workers w).key ≠ some k) (hnew : worker.key ≠ some k) :
    Guarded k F m calls (Function.update workers w worker) := by
  have hkey : ∀ w', (Function.update workers w worker w').key = some k ↔
      (workers w').key = some k := by
    intro w'
    by_cases hw : w' = w
    · simp [hw, hold, hnew]
    · rw [Function.update_of_ne hw]
  have hsame : ∀ w', (workers w').key = some k → Function.update workers w worker w' = workers w' :=
    fun w' hw' => Function.update_of_ne (fun heq : w' = w => hold (heq ▸ hw')) worker workers
  refine ⟨h.backed, ?_, ?_, ?_, ?_, ?_, h.coupled.spent⟩
  · intro w' request hw'
    have hk := (hkey w').mp (by rw [hw']; rfl)
    rw [hsame w' hk] at hw'
    exact h.carried w' request hw'
  · intro w₁ w₂ h₁ h₂
    exact h.coupled.unique w₁ w₂ ((hkey w₁).mp h₁) ((hkey w₂).mp h₂)
  · exact fun w' hw' => h.coupled.sending w' ((hkey w').mp hw')
  · intro w' hw'
    have hk := (hkey w').mp hw'
    rw [hsame w' hk]
    exact h.coupled.allows w' hk
  · exact fun hidle => h.coupled.idle fun w' hw' => hidle w' ((hkey w').mpr hw')

theorem Coupled.key_update (h : Coupled k m calls workers) (hw : (workers w).key = some k) {w'}
    (hw' : (Function.update workers w worker w').key = some k) : w' = w := by
  by_contra hne
  rw [Function.update_of_ne hne] at hw'
  exact hne (h.unique w' w hw' hw)

theorem Guarded.worker_own (h : Guarded k F m calls workers) (hw : (workers w).key = some k)
    (hspawning : ∀ request, worker ≠ .spawning k request) (hallows : Allows m' w worker)
    (hidle : worker.key ≠ some k → m' = .ready ∨ m' = .spent) :
    Guarded k F m' calls (Function.update workers w worker) := by
  have hkey : ∀ w', (Function.update workers w worker w').key = some k → w' = w :=
    fun w' => h.coupled.key_update hw
  refine ⟨h.backed, ?_, ?_, ?_, ?_, ?_, fun _ => h.coupled.sending w hw⟩
  · intro w' request hw'
    have heq := hkey w' (by rw [hw']; rfl)
    rw [heq, Function.update_self] at hw'
    exact absurd hw' (hspawning request)
  · exact fun w₁ w₂ h₁ h₂ => (hkey w₁ h₁).trans (hkey w₂ h₂).symm
  · exact fun _ _ => h.coupled.sending w hw
  · intro w' hw'
    rw [hkey w' hw', Function.update_self]
    exact hallows
  · intro hnone
    have hself := hnone w
    rw [Function.update_self] at hself
    exact hidle hself

section Steps
variable {env : NativeEnvironment}

theorem prepareDraft_state {request context compose draft}
    (h : prepareDraft env request context compose = .ok draft) :
    draft.preview.state = .prepared := by
  unfold prepareDraft at h
  simp only [bind_ok_iff] at h
  obtain ⟨_, -, _, -, _, -, _, -, _, -, h⟩ := h
  cases h
  rfl

section
variable (h : Guarded k F m s.calls s.workers)
include h

theorem Guarded.retain {draft} (hdraft : draft.preview.state = .prepared) (profileId : OpaqueId) :
    Guarded k F m (s.retain profileId draft).calls (s.retain profileId draft).workers := by
  rw [NativeState.retain]
  split_ifs with hplanned hsome hfull
  · exact h
  · exact h
  · exact h
  by_cases hk : k = (profileId, draft.preview.draftId)
  · -- without a draft there is no worker and nothing is spent
    rw [not_isSome_iff_eq_none, ← hk] at hsome
    obtain ⟨hidle, hready⟩ := h.coupled.not_sending fun r hr => by simp [hsome] at hr
    rw [hready]
    refine guarded_of_idle hidle fun r hr => ?_
    simp only [Rows.get_upsert, ← hk, hsome, elim_none, if_true, some.injEq] at hr
    rw [← hr]
    exact fun hstate => absurd hdraft hstate
  · exact h.of_get (by simp [hk])

theorem Guarded.prepare
    (request : PreparePassportVaultCallRequest) (context : PassportVaultCallCompositionContext)
    (compose : Composer) : Guarded k F m (s.prepare env request context compose).calls
      (s.prepare env request context compose).workers := by
  unfold NativeState.prepare
  cases hdraft : prepareDraft env request context compose with
  | ok => exact h.retain (prepareDraft_state hdraft) request.profileId
  | error => exact h

theorem Guarded.replace {r r'} (hget : s.calls.get key = some r)
    (hcontinues : key = k → Continues F k r r') (hsending : r.Sending → r' = r) :
    Guarded k F m (s.update key fun _ => r').calls s.workers := by
  refine h.update ?_ ?_
  · intro hk x hx
    rw [← hk, hget, some.injEq] at hx
    rw [← hx]
    exact hcontinues hk
  · intro hk x hx hs
    rw [← hk, hget, some.injEq] at hx
    rw [← hx] at hs
    rw [hsending hs]
    exact hs

theorem Guarded.authorize {call profileId request fund}
    (hfunded : ∀ f ∈ s.funded env (.authorize call profileId request fund), f ∈ F)
    (ht : s.authorize env call profileId request fund = some t) :
    Guarded k F m t.calls t.workers := by
  rw [NativeState.authorize] at ht
  cases hcall : s.authorizing call with
  | some => simp [hcall] at ht
  | none =>
    cases hget : s.calls.get (profileId, request.draftId) with
    | none =>
      simp only [hcall, hget, some.injEq] at ht
      rw [← ht]
      exact h
    | some r =>
      simp only [hcall, hget] at ht
      have hupdate : Guarded k F m (s.update (profileId, request.draftId) fun _ =>
          (r.beginAuthorize env profileId request fund).2).calls s.workers := by
        refine h.replace hget (fun hk => ?_) beginAuthorize_of_sending
        rw [← hk]
        refine continues_beginAuthorize fun transaction htransaction => hfunded _ ?_
        simp [funded, hcall, hget, htransaction]
      split at ht <;> cases ht <;> exact hupdate

theorem Guarded.authorizeClaim {call compose fund}
    (hfunded : ∀ f ∈ s.funded env (.authorizeClaim call compose fund), f ∈ F)
    (ht : s.authorizeClaim env call compose fund = some t) : Guarded k F m t.calls t.workers := by
  rw [NativeState.authorizeClaim] at ht
  cases hcall : s.authorizing call with
  | none => simp [hcall] at ht
  | some =>
    simp only [hcall, some.injEq] at ht
    rw [← ht]
    refine Guarded.update h ?_ ?_
    · intro hk r _
      rw [← hk]
      refine continues_concludeAuthorize fun transaction htransaction => hfunded _ ?_
      simp [funded, hcall, claimFundedBy_of_claimTransaction htransaction]
    · intro _ r _ hsending
      rw [concludeAuthorize_of_sending hsending]
      exact hsending

theorem Guarded.submit {profileId request} (ht : s.submit w profileId request = some t) :
    Guarded k F m t.calls t.workers := by
  rw [NativeState.submit] at ht
  cases hw : s.workers w with
  | unused =>
    cases hget : s.calls.get (profileId, request.draftId) with
    | none =>
      simp only [hw, hget, some.injEq] at ht
      rw [← ht]
      exact h
    | some r =>
      simp only [hw, hget] at ht
      have hupdate : Guarded k F m (s.update (profileId, request.draftId) fun _ =>
          (r.beginSubmit profileId request).2).calls s.workers :=
        h.replace hget (fun _ => continues_beginSubmit) beginSubmit_of_sending
      cases hanswer : (r.beginSubmit profileId request).1 with
      | returned =>
        simp only [hanswer, some.injEq] at ht
        rw [← ht]
        exact hupdate
      | sending =>
        simp only [hanswer, some.injEq] at ht
        rw [← ht]
        obtain ⟨hnot, hsending, hbacks⟩ := beginSubmit_sending (F := F) (k := k) hanswer
        by_cases hk : (profileId, request.draftId) = k
        · have hnone := h.coupled.not_sending (fun r' hr' => by
            rw [← hk, hget, some.injEq] at hr'
            exact hr' ▸ hnot)
          rw [hk] at hget ⊢
          rw [hnone.2]
          have hget' : (s.update k fun _ =>
              (r.beginSubmit profileId request).2).calls.get k =
              some (r.beginSubmit profileId request).2 := by
            simp [NativeState.update, hget]
          exact guarded_of_spawning hnone.1 hget' hsending
            (continues_beginSubmit.backed (h.backed r hget)) (hbacks (h.backed r hget))
        · refine hupdate.worker_other ?_ ?_
          · simp [hw, Worker.key]
          · simpa [Worker.key] using hk
  | spawning | completing | finishing | ended => simp [hw] at ht

theorem Guarded.setWorker {old move} (m' : Shot Nat) (hw : s.workers w = old)
    (hkey : old.key = some key) (hnew : worker.key = some key ∨ worker.key = none)
    (hspawning : ∀ request, worker ≠ .spawning k request)
    (hown : Allows m w old → step m move = some m' ∧ Allows m' w worker ∧
      (worker.key = none → m' = .ready ∨ m' = .spent)) :
    ∃ m', run step m (if key = k then [move] else []) = some m' ∧
      Guarded k F m' (s.setWorker w worker).calls (s.setWorker w worker).workers := by
  rw [← hw] at hkey hown
  by_cases hk : key = k
  · rw [hk] at hkey hnew
    obtain ⟨hmove, hallows, hidle⟩ := hown (h.coupled.allows w hkey)
    exact ⟨m', by simp [hk, hmove], h.worker_own hkey hspawning hallows fun hne =>
      hidle (hnew.resolve_left hne)⟩
  · refine ⟨m, by simp [hk], h.worker_other (by simp [hkey, hk]) ?_⟩
    rcases hnew with hnew | hnew <;> simp [hnew, hk]

theorem Guarded.spawn (ht : s.spawn w = some t) :
    ∃ m', run step m (s.attempts k (.spawn w)) = some m' ∧ Guarded k F m' t.calls t.workers := by
  rw [NativeState.spawn] at ht
  split at ht
  · rename_i hw
    cases ht
    simp only [attempts, hw]
    refine h.setWorker (.running w false) hw rfl (.inl rfl) nofun fun hallows => ?_
    rw [Allows] at hallows
    exact ⟨by simp [hallows, OneShot.step], rfl, nofun⟩
  · cases ht

theorem Guarded.broadcast (ht : s.broadcast w = some t) :
    ∃ m', run step m (s.attempts k (.broadcast w)) = some m' ∧
      Guarded k F m' t.calls t.workers := by
  rw [NativeState.broadcast] at ht
  split at ht
  · rename_i hw
    cases ht
    simp only [attempts, hw]
    refine h.setWorker (.running w true) hw rfl (.inl rfl) nofun fun hallows => ?_
    rw [Allows] at hallows
    exact ⟨by simp [hallows, OneShot.step], rfl, nofun⟩
  · cases ht

theorem Guarded.completed {result} (hport : s.PortHonest (.completed w result))
    (ht : s.completed w result = some t) :
    ∃ m', run step m (s.attempts k (.completed w result)) = some m' ∧
      Guarded k F m' t.calls t.workers := by
  rw [NativeState.completed] at ht
  split at ht
  · rename_i fired hw
    cases ht
    simp only [attempts, hw]
    refine h.setWorker (if fired then .spent else .ready) hw rfl (.inl rfl) nofun fun hallows => ?_
    rw [Allows] at hallows
    refine ⟨by simp [hallows, OneShot.step], ?_, nofun⟩
    cases fired with
    | false => exact .inl rfl
    | true => exact .inr ⟨rfl, by simpa [NativeState.PortHonest, hw] using hport⟩
  · cases ht

theorem Guarded.panicked (ht : s.panicked w = some t) :
    ∃ m', run step m (s.attempts k (.panicked w)) = some m' ∧ Guarded k F m' t.calls t.workers := by
  rw [NativeState.panicked] at ht
  split at ht
  · rename_i fired hw
    cases ht
    simp only [attempts, hw]
    refine h.setWorker (if fired then .spent else .ready) hw rfl (.inr rfl) nofun fun hallows => ?_
    rw [Allows] at hallows
    refine ⟨by simp [hallows, OneShot.step], trivial, fun _ => ?_⟩
    cases fired with
    | false => exact .inl rfl
    | true => exact .inr rfl
  · cases ht

end

theorem Coupled.idle_of_ended (h : Coupled k m s.calls s.workers)
    (hw : (s.workers w).key = some k) : ∀ w', ((s.setWorker w .ended).workers w').key ≠ some k := by
  intro w' hw'
  rw [h.key_update hw hw'] at hw'
  simp [setWorker, Worker.key] at hw'

theorem Guarded.reopen (h : Guarded k F m s.calls s.workers) (hown : (s.workers w).key = some k)
    (hcontinues : ∀ r, s.calls.get k = some r → Continues F k r (f r)) :
    Guarded k F .ready ((s.setWorker w .ended).update k f).calls
      ((s.setWorker w .ended).update k f).workers := by
  refine guarded_of_idle (h.coupled.idle_of_ended hown) fun r' hr' => ?_
  simp only [NativeState.update, NativeState.setWorker, Rows.get_modify, decide_true, if_true,
    map_eq_some_iff] at hr'
  obtain ⟨r, hr, heq⟩ := hr'
  rw [← heq]
  exact (hcontinues r hr).backed (h.backed r hr)

theorem Guarded.spawnFailed (h : Guarded k F m s.calls s.workers)
    (ht : s.spawnFailed w = some t) : Guarded k F m t.calls t.workers := by
  rw [NativeState.spawnFailed] at ht
  split at ht
  · rename_i key _ hw
    cases ht
    by_cases hk : key = k
    · have hown : (s.workers w).key = some k := by rw [hw, hk]; rfl
      have hready : m = .ready := by simpa [hw, Allows] using h.coupled.allows w hown
      obtain ⟨r, hr, hsending⟩ := h.coupled.sending w hown
      rw [hready, hk]
      refine h.reopen hown fun r' hr' => ?_
      rw [hr, some.injEq] at hr'
      rw [← hr']
      exact continues_restoreAuthorized hsending
    · refine Guarded.update (h.worker_other ?_ nofun) (fun heq => absurd heq hk)
        fun heq => absurd heq hk
      simpa [hw, Worker.key] using hk
  · cases ht

section Finish
variable {r r' : RetainedNativeCall}
  {result : Except PassportVaultCallPortError PassportVaultCallInclusion}
  {status : Except PassportVaultCallPortError PassportVaultCallSubmissionStatus}

theorem Guarded.finish_other (h : Guarded k F m s.calls s.workers)
    (hw : s.workers w = .finishing key result) (hk : key ≠ k)
    (ht : s.finish w status = some t) : Guarded k F m t.calls t.workers := by
  have hended : Guarded k F m (s.setWorker w .ended).calls (s.setWorker w .ended).workers :=
    h.worker_other (by simpa [hw, Worker.key] using hk) nofun
  simp only [finish, hw] at ht
  split at ht
  · cases ht
    exact hended
  · split at ht
    · cases ht
      exact hended.update (fun heq => absurd heq hk) fun heq => absurd heq hk
    · cases ht
      exact hended.of_get (by simp [Rows.get_erase, Ne.symm hk])

theorem Guarded.conclude (h : Guarded k F m s.calls s.workers)
    (hw : s.workers w = .finishing k result) (hr : s.calls.get k = some r) (hsending : r.Sending)
    (hconclude : r.concludeSubmission result status = some r') :
    Guarded k F m ((s.setWorker w .ended).update k fun _ => r').calls
      ((s.setWorker w .ended).update k fun _ => r').workers := by
  have hown : (s.workers w).key = some k := by rw [hw]; rfl
  have hcontinues : ∀ q, s.calls.get k = some q → Continues F k q r' := by
    intro q hq
    rw [hr, some.injEq] at hq
    rw [← hq]
    exact continues_concludeSubmission hsending hconclude
  have hallows : m = .ready ∨ m = .spent ∧ Conclusive result := by
    simpa [hw, Allows] using h.coupled.allows w hown
  rcases hallows with hm | ⟨hm, hconclusive⟩
  · rw [hm]
    exact h.reopen hown hcontinues
  · exact Guarded.update (h.worker_own hown nofun trivial fun _ => .inr hm) (fun _ => hcontinues)
      fun _ _ _ _ => sending_concludeSubmission hsending hconclusive hconclude

theorem Guarded.finish (h : Guarded k F m s.calls s.workers) (ht : s.finish w status = some t) :
    ∃ m', run step m (s.attempts k (.finish w status)) = some m' ∧
      Guarded k F m' t.calls t.workers := by
  cases hw : s.workers w with
  | finishing key result =>
    by_cases hk : key = k
    · rw [hk] at hw
      have hown : (s.workers w).key = some k := by rw [hw]; rfl
      obtain ⟨r, hr, hsending⟩ := h.coupled.sending w hown
      have hget : (s.setWorker w .ended).calls.get k = some r := hr
      simp only [NativeState.finish, hw, hget] at ht
      cases hconclude : r.concludeSubmission result status with
      | none =>
        -- the draft is removed, and may be prepared again
        simp only [hconclude, some.injEq] at ht
        rw [← ht]
        rw [concludeSubmission_eq_none] at hconclude
        refine ⟨.ready, ?_, guarded_of_idle (h.coupled.idle_of_ended hown) ?_⟩
        · simp [attempts, hw, hconclude, OneShot.step]
        · intro r' hr'
          simp [Rows.get_erase] at hr'
      | some =>
        simp only [hconclude, some.injEq] at ht
        rw [← ht]
        have hnot : result ≠ .error .submissionRejected := by
          intro heq
          rw [concludeSubmission_eq_none.mpr heq] at hconclude
          cases hconclude
        exact ⟨m, by simp [attempts, hw, hnot],
          h.conclude hw hr hsending hconclude⟩
    · refine ⟨m, ?_, h.finish_other hw hk ht⟩
      unfold attempts
      dsimp only
      rw [hw]
      cases result with
      | ok => rfl
      | error error => cases error <;> simp [hk]
  | unused | spawning | completing | ended => simp [NativeState.finish, hw] at ht

end Finish

theorem Guarded.step {e} (h : Guarded k F m s.calls s.workers) (hport : s.PortHonest e)
    (ht : s.step env e = some t) : ∃ m', run step m (s.attempts k e) = some m' ∧
      Guarded k (F ++ s.funded env e) m' t.calls t.workers := by
  have h' : Guarded k (F ++ s.funded env e) m s.calls s.workers :=
    h.mono fun f hf => List.mem_append_left _ hf
  have hfunded : ∀ f ∈ s.funded env e, f ∈ F ++ s.funded env e :=
    fun f hf => List.mem_append_right _ hf
  cases e with
  | prepare request context compose =>
    cases ht
    exact ⟨m, rfl, h'.prepare request context compose⟩
  | authorize => exact ⟨m, rfl, h'.authorize hfunded ht⟩
  | authorizeClaim => exact ⟨m, rfl, h'.authorizeClaim hfunded ht⟩
  | submit => exact ⟨m, rfl, h'.submit ht⟩
  | spawn => exact h'.spawn ht
  | spawnFailed => exact ⟨m, rfl, h'.spawnFailed ht⟩
  | broadcast => exact h'.broadcast ht
  | completed => exact h'.completed hport ht
  | panicked => exact h'.panicked ht
  | finish => exact h'.finish ht
  | get _ _ now =>
    cases ht
    refine ⟨m, rfl, h'.update (fun _ _ _ => continues_expireIfNeeded now) ?_⟩
    intro _ r _ hsending
    rw [expireIfNeeded_of_sending hsending]
    exact hsending
  | report =>
    rw [NativeState.step, NativeState.report] at ht
    split at ht
    · cases ht
      exact ⟨m, rfl, h'⟩
    · cases ht
  | applyReport =>
    rw [NativeState.step, NativeState.applyReport] at ht
    split at ht
    · cases ht
    · cases ht
      exact ⟨m, rfl, Guarded.update h' (fun _ _ _ => continues_updateFromStatus)
        fun _ _ _ hsending => sending_updateFromStatus hsending⟩

theorem guarded_of_run (k : CallKey) {events}
    (hport : EveryStep (step env) NativeState.PortHonest .start events)
    (hrun : run (step env) .start events = some t) : ∃ m, run step .ready
        (outputs (step env) (attempts k) .start events) = some m ∧
      Guarded k (outputs (step env) (funded env) .start events) m t.calls t.workers := by
  refine run_induction_while (motive := fun events t =>
    ∃ m, run step .ready
        (outputs (step env) (attempts k) .start events) = some m ∧
      Guarded k (outputs (step env) (funded env) .start events) m
        t.calls t.workers) (fun _ _ hport => hport.of_concat) ?_ ?_ hport hrun
  · exact ⟨.ready, rfl, guarded_start k⟩
  · rintro events p e q hport hp ⟨m, hm, hguarded⟩ hstep
    obtain ⟨m', hm', hguarded'⟩ := hguarded.step (hport.last hp) hstep
    refine ⟨m', ?_, ?_⟩
    · rw [outputs_concat hp, run_append, hm]
      exact hm'
    · rw [outputs_concat hp]
      exact hguarded'

end Steps
end System

namespace NativeSample

def hash : String := String.ofList (List.replicate 64 '1')

def profileId : OpaqueId := ⟨"profile_native", by decide, by decide, by decide, by decide⟩

def challenge : PassportVaultCallAuthorizationChallenge :=
  ⟨⟨"challenge_native", by decide, by decide, by decide, by decide⟩⟩

def draftId : PassportVaultCallDraftId :=
  ⟨⟨String.ofList (List.replicate 64 '0'), by simp, by simp, by rw [String.toList_ofList]; decide,
    by rw [String.toList_ofList]; decide⟩⟩

def env : NativeEnvironment where
  planningFingerprint _ _ := .zero
  claimAuthorizationChallenge _ _ _ := .ok challenge
  authorizationChallenge _ _ _ := .ok challenge
  decodeProtectedClaimContext _ _ _ := none
  validateUnprovenTransaction _ _ := .ok ()
  validateFundedTransaction _ _ := .ok ()

def inclusion : PassportVaultCallInclusion := ⟨hash, hash, 41, 9, "live"⟩

def events : List NativeEvent :=
  [.prepare
      ⟨profileId, ⟨[1], .canonicalFinalizedReplay, hash, hash, hash, 40, hash, 42, 1700⟩,
        .depositToLock 7 10, 3600⟩
      ⟨"undeployed", [], [], .zero, .zero, .zero⟩ fun _ _ => .ok [1, 2],
    .authorize 0 profileId ⟨draftId, challenge, 100⟩ fun _ => .ok [1, 2, 3],
    .submit 0 profileId ⟨draftId, 200⟩, .spawn 0, .completed 0 (.error .unavailable),
    .finish 0 (.error .unavailable),
    .submit 1 profileId ⟨draftId, 300⟩, .spawn 1, .broadcast 1, .completed 1 (.ok inclusion),
    .finish 1 (.error .unavailable)]

end NativeSample

namespace NativeState
variable {env : NativeEnvironment} {events : List NativeEvent} {t : NativeState}

/-- **Sent once, as authorized.**  The completion port is called for a draft only with a transaction
that funding returned to an `authorize` of its challenge before its expiry; and of two calls, unless
the draft was removed between them, the first is over before the second begins, and has broadcast
nothing. -/
theorem sent_once_as_authorized (hport : EveryStep (step env) PortHonest .start events)
    (hrun : run (step env) .start events = some t) (k : CallKey) :
    (∀ before w after p request, events = before ++ .spawn w :: after →
      run (step env) .start before = some p → p.workers w = .spawning k request →
      ∃ r, p.calls.get k = some r ∧
        Backs (outputs (step env) (funded env) .start before) k r request.transaction) ∧
    (∀ ms w ns w' ls, outputs (step env) (attempts k) .start events =
        ms ++ .start w :: (ns ++ .start w' :: ls) →
      .renew ∉ ns → .stop w ∈ ns ∧ ∀ v, .fire v ∉ ns) := by
  constructor
  · intro before w after p request hevents hp hw
    rw [hevents] at hport
    obtain ⟨m, -, hguarded⟩ := guarded_of_run k hport.of_append hp
    exact hguarded.carried w request hw
  · intro ms w ns w' ls hsplit hrenew
    obtain ⟨m, hm, -⟩ := guarded_of_run k hport hrun
    rw [hsplit] at hm
    exact stopped_before_start hm hrenew

theorem sent_at_second_attempt : outputs (step NativeSample.env)
        (attempts (NativeSample.profileId, NativeSample.draftId)) .start NativeSample.events =
      [.start 0, .stop 0, .start 1, .fire 1, .stop 1] ∧
    (∀ before w after p request, NativeSample.events = before ++ .spawn w :: after →
      run (step NativeSample.env) .start before = some p →
      p.workers w = .spawning (NativeSample.profileId, NativeSample.draftId) request →
      ∃ r, p.calls.get (NativeSample.profileId, NativeSample.draftId) = some r ∧
        Backs (outputs (step NativeSample.env) (funded NativeSample.env) .start before)
          (NativeSample.profileId, NativeSample.draftId) r request.transaction) := by
  have hsample : (run (step NativeSample.env) .start NativeSample.events).isSome = true ∧
      EveryStep (step NativeSample.env) PortHonest .start NativeSample.events ∧
      outputs (step NativeSample.env)
          (attempts (NativeSample.profileId, NativeSample.draftId)) .start NativeSample.events =
        [.start 0, .stop 0, .start 1, .fire 1, .stop 1] := by decide +kernel
  obtain ⟨hdefined, hport, houtputs⟩ := hsample
  obtain ⟨t, hrun⟩ := isSome_iff_exists.mp hdefined
  refine ⟨houtputs, ?_⟩
  exact (sent_once_as_authorized hport hrun (NativeSample.profileId, NativeSample.draftId)).1

end NativeState

end Oxid.PassportVault
