import Mathlib.Data.Multiset.AddSub
import Oxid.PassportVault.ContractCall
import Oxid.PassportVault.DurableRepository
import Oxid.PassportVault.Operations

/-!
# The passport vault service

The use cases of `PassportVaultService` load, apply an operation and save under the transaction
lock.  A claim first reads the policy of its lock without it and waits for the credential
port.
-/

namespace Oxid.PassportVault

open Foundation Transaction Result Transition Option List

structure CreatePassportVaultLockCommand where
  profileId : String
  minimumAgeYears : UInt8
  (requiredIssuingState requiredDocumentNumber : Option Bytes32)
  (maximumClaimAmount initialAmount : U128)
  confirmed : Bool
  intent : String

structure PassportVaultAmountCommand where
  profileId : String
  lockId : UInt64
  amount : U128
  confirmed : Bool
  intent : String

structure ClaimPassportVaultLockCommand where
  profileId : String
  lockId : UInt64
  credentialId : String
  amount : U128
  confirmed : Bool
  intent : String
  deriving DecidableEq

inductive PassportVaultCredentialError
  | unavailable | notFound | invalid | missingPrivateMaterial | issuerNotTrusted | expired
  | ageRequirementNotMet | issuingStateMismatch | documentNumberMismatch

inductive PassportVaultOperationError
  | domain (error : PassportVaultError)
  | repository (error : PassportVaultRepositoryError)
  | credential (error : PassportVaultCredentialError)
  | platform (error : PlatformError)
  | confirmationRequired
  | invalidConfirmation
  | policyChanged

abbrev Checked := Except PassportVaultOperationError

structure VerifyPassportVaultCredentialRequest where
  (profileId credentialId : String)
  policy : PassportVaultPolicy

structure VerifiedPassportVaultCredential where
  credentialFingerprint : Bytes32
  currentDay : UInt32

namespace Service

def confirmation (confirmed : Bool) (actual expected : String) : Checked Unit := do
  rejectIf (!confirmed) .confirmationRequired
  rejectIf (actual ≠ expected) .invalidConfirmation

/-- How the repository fails to load and to save, if it does.  A poisoned transaction lock
answers like a load that is unavailable. -/
structure Faults where
  (load save : Option PassportVaultRepositoryError)

def access (fault : Option PassportVaultRepositoryError) : Checked Unit :=
  fault.elim (.ok ()) fun error => .error (.repository error)

structure Applied where
  operation : Operation
  lock : PassportVaultLock

def applyAndSave (state : PassportVaultState) (faults : Faults) (operation : Operation)
    (lockId : Receipt → VaultLockId) : Checked (PassportVaultState × Applied) :=
  match call state operation.perform with
  | (.error error, _) => .error (.domain error)
  | (.ok receipt, state) =>
    match state.locks.find? (lockId receipt) with
    | none => .error (.repository .integrity)
    | some lock => do
      access faults.save
      return (state, ⟨operation, lock⟩)

def createdLock : Receipt → VaultLockId
  | .created id => id
  | _ => ⟨0⟩

def create (stored : PassportVaultState) (command : CreatePassportVaultLockCommand)
    (random : Except PlatformError Bytes32) (faults : Faults) :
    Checked (PassportVaultState × Applied) := do
  confirmation command.confirmed command.intent "CREATE_PASSPORT_VAULT_LOCK"
  let actor ← (VaultActorId.parse command.profileId).mapError .domain
  let challenge ← random.mapError .platform
  let policy ← (PassportVaultPolicy.new command.minimumAgeYears command.requiredIssuingState
    command.requiredDocumentNumber command.maximumClaimAmount
    (verifierChallengeHash challenge)).mapError .domain
  access faults.load
  applyAndSave stored faults (.createLock actor policy command.initialAmount) createdLock

def mutateAmount (stored : PassportVaultState) (command : PassportVaultAmountCommand)
    (operation : VaultActorId → VaultLockId → U128 → Operation) (faults : Faults) :
    Checked (PassportVaultState × Applied) := do
  let actor ← (VaultActorId.parse command.profileId).mapError .domain
  access faults.load
  applyAndSave stored faults (operation actor ⟨command.lockId⟩ command.amount)
    fun _ => ⟨command.lockId⟩

def deposit (stored : PassportVaultState) (command : PassportVaultAmountCommand)
    (faults : Faults) : Checked (PassportVaultState × Applied) := do
  confirmation command.confirmed command.intent "DEPOSIT_TO_PASSPORT_VAULT"
  mutateAmount stored command .deposit faults

def withdraw (stored : PassportVaultState) (command : PassportVaultAmountCommand)
    (faults : Faults) : Checked (PassportVaultState × Applied) := do
  confirmation command.confirmed command.intent "WITHDRAW_FROM_PASSPORT_VAULT"
  mutateAmount stored command .withdraw faults

def beginClaim (stored : PassportVaultState) (command : ClaimPassportVaultLockCommand)
    (load : Option PassportVaultRepositoryError) : Checked PassportVaultPolicy := do
  confirmation command.confirmed command.intent "CLAIM_FROM_PASSPORT_VAULT"
  let _ ← (VaultActorId.parse command.profileId).mapError .domain
  access load
  match stored.locks.find? ⟨command.lockId⟩ with
  | none => .error (.domain .lockNotFound)
  | some lock => return lock.policy

def readEvidence (answer : Except PassportVaultCredentialError VerifiedPassportVaultCredential) :
    Checked (CredentialFingerprint × UInt32) := do
  let evidence ← answer.mapError .credential
  let fingerprint ← (CredentialFingerprint.new evidence.credentialFingerprint).mapError .domain
  return (fingerprint, evidence.currentDay)

def commitClaim (stored : PassportVaultState) (command : ClaimPassportVaultLockCommand)
    (policy : PassportVaultPolicy) (fingerprint : CredentialFingerprint) (currentDay : UInt32)
    (faults : Faults) : Checked (PassportVaultState × Applied) := do
  access faults.load
  rejectIf ((stored.locks.find? ⟨command.lockId⟩).map (·.policy) ≠ some policy) .policyChanged
  applyAndSave stored faults (.claim ⟨command.lockId⟩ fingerprint command.amount currentDay)
    fun _ => ⟨command.lockId⟩

inductive PendingClaim
  | verifying (command : ClaimPassportVaultLockCommand) (policy : PassportVaultPolicy)
  | verified (command : ClaimPassportVaultLockCommand) (policy : PassportVaultPolicy)
      (fingerprint : CredentialFingerprint) (currentDay : UInt32)
  deriving DecidableEq

structure State where
  stored : PassportVaultState
  claims : Multiset PendingClaim

inductive Event
  | create (command : CreatePassportVaultLockCommand) (random : Except PlatformError Bytes32)
      (faults : Faults)
  | deposit (command : PassportVaultAmountCommand) (faults : Faults)
  | withdraw (command : PassportVaultAmountCommand) (faults : Faults)
  | claim (command : ClaimPassportVaultLockCommand) (load : Option PassportVaultRepositoryError)
  | verify (command : ClaimPassportVaultLockCommand) (policy : PassportVaultPolicy)
      (answer : Except PassportVaultCredentialError VerifiedPassportVaultCredential)
  | commit (command : ClaimPassportVaultLockCommand) (policy : PassportVaultPolicy)
      (fingerprint : CredentialFingerprint) (currentDay : UInt32) (faults : Faults)

inductive Command
  | create (command : CreatePassportVaultLockCommand)
  | deposit (command : PassportVaultAmountCommand)
  | withdraw (command : PassportVaultAmountCommand)
  | claim (command : ClaimPassportVaultLockCommand)

inductive Report
  | verified (request : VerifyPassportVaultCredentialRequest)
      (evidence : VerifiedPassportVaultCredential)
  | returned (command : Command) (result : Checked Applied)

namespace State

def finish (s : State) (command : Command) :
    Checked (PassportVaultState × Applied) → State × Option Report
  | .error error => (s, some (.returned command (.error error)))
  | .ok (stored, applied) => ({ s with stored }, some (.returned command (.ok applied)))

def act (s : State) : Event → Option (State × Option Report)
  | .create command random faults =>
    some (s.finish (.create command) (create s.stored command random faults))
  | .deposit command faults => some (s.finish (.deposit command) (deposit s.stored command faults))
  | .withdraw command faults =>
    some (s.finish (.withdraw command) (withdraw s.stored command faults))
  | .claim command load =>
    match beginClaim s.stored command load with
    | .error error => some (s, some (.returned (.claim command) (.error error)))
    | .ok policy => some ({ s with claims := .verifying command policy ::ₘ s.claims }, none)
  | .verify command policy answer =>
    if .verifying command policy ∈ s.claims then
      let s := { s with claims := s.claims.erase (.verifying command policy) }
      match readEvidence answer with
      | .error error => some (s, some (.returned (.claim command) (.error error)))
      | .ok (fingerprint, currentDay) =>
        some ({ s with claims := .verified command policy fingerprint currentDay ::ₘ s.claims },
          some (.verified ⟨command.profileId, command.credentialId, policy⟩
            ⟨fingerprint.bytes, currentDay⟩))
    else none
  | .commit command policy fingerprint currentDay faults =>
    if .verified command policy fingerprint currentDay ∈ s.claims then
      let s := { s with claims := s.claims.erase (.verified command policy fingerprint currentDay) }
      some (s.finish (.claim command)
        (commitClaim s.stored command policy fingerprint currentDay faults))
    else none

end State

open State

/-! ## Linearizability -/

def Report.operation : Report → Option Operation
  | .returned _ (.ok applied) => some applied.operation
  | _ => none

/-- The operation is the one the command asks for on the state, and a claim was verified for
the caller, the credential and the policy that the lock has there. -/
def Asks (past : List Report) (state : PassportVaultState) : Command → Operation → Prop
  | .create command, .createLock creator policy amount =>
    creator.value = command.profileId ∧ policy.minimumAgeYears = command.minimumAgeYears ∧
      policy.requiredIssuingState = command.requiredIssuingState ∧
      policy.requiredDocumentNumber = command.requiredDocumentNumber ∧
      policy.maximumClaimAmount = command.maximumClaimAmount ∧ amount = command.initialAmount
  | .deposit command, .deposit actor lockId amount
  | .withdraw command, .withdraw actor lockId amount =>
    actor.value = command.profileId ∧ lockId.value = command.lockId ∧ amount = command.amount
  | .claim command, .claim lockId fingerprint amount currentDay =>
    lockId.value = command.lockId ∧ amount = command.amount ∧
      ∃ lock, state.locks.find? lockId = some lock ∧
        .verified ⟨command.profileId, command.credentialId, lock.policy⟩
          ⟨fingerprint.bytes, currentDay⟩ ∈ past
  | _, _ => False

def Justified (initial : PassportVaultState) (past : List Report) : Report → Prop
  | .returned command (.ok applied) => ∃ state,
      run stepOperation initial (past.filterMap Report.operation) = some state ∧
      (call state applied.operation.perform).1.isOk ∧
      Asks past state command applied.operation
  | _ => True

section Steps
variable {initial : PassportVaultState} {s t : State} {e : Event} {f : Option Report}
  {past : List Report} {state : PassportVaultState} {applied : Applied} {faults : Faults}
  {operation : Operation} {lockId : Receipt → VaultLockId}

theorem applyAndSave_ok (h : applyAndSave s.stored faults operation lockId = .ok (state, applied)) :
    applied.operation = operation ∧
      ∃ receipt, call s.stored operation.perform = (.ok receipt, state) := by
  rw [applyAndSave] at h
  split at h
  · cases h
  · rename_i hcall
    split at h
    · cases h
    · obtain ⟨-, -, heq⟩ := bind_ok_iff.mp h
      cases heq
      exact ⟨rfl, _, hcall⟩

structure Linear (initial : PassportVaultState) (past : List Report) (s : State) : Prop where
  stored : run stepOperation initial (past.filterMap Report.operation) = some s.stored
  evidence : ∀ command policy fingerprint currentDay,
    .verified command policy fingerprint currentDay ∈ s.claims →
      .verified ⟨command.profileId, command.credentialId, policy⟩ ⟨fingerprint.bytes, currentDay⟩ ∈
        past
  justified : EveryReport (Justified initial) past

theorem Linear.finish (h : Linear initial past s) {command}
    (result : Checked (PassportVaultState × Applied))
    (hresult : ∀ state applied, result = .ok (state, applied) →
      (∃ receipt, call s.stored applied.operation.perform = (.ok receipt, state)) ∧
        Asks past s.stored command applied.operation) (hact : s.finish command result = (t, f)) :
    Linear initial (past ++ f.toList) t := by
  rcases result with error | ⟨state, applied⟩
  · cases hact
    refine ⟨by simpa [filterMap_cons, Report.operation] using h.stored, ?_,
      h.justified.append ?_⟩
    · intro command policy fingerprint currentDay hclaim
      exact mem_append_left _ (h.evidence _ _ _ _ hclaim)
    · rintro _ ⟨⟩
      trivial
  · obtain ⟨⟨receipt, hcall⟩, hasks⟩ := hresult state applied rfl
    cases hact
    refine ⟨?_, ?_, h.justified.append ?_⟩
    · simp [Report.operation, run_append, h.stored, stepOperation, hcall]
    · intro command policy fingerprint currentDay hclaim
      exact mem_append_left _ (h.evidence _ _ _ _ hclaim)
    · rintro _ ⟨⟩
      exact ⟨s.stored, h.stored, by rw [hcall]; rfl, hasks⟩

theorem Linear.leave (h : Linear initial past s) (claim : PendingClaim) :
    Linear initial past { s with claims := s.claims.erase claim } :=
  ⟨h.stored, fun _ _ _ _ hclaim => h.evidence _ _ _ _ (Multiset.mem_of_mem_erase hclaim),
    h.justified⟩

theorem asks_create {command random}
    (h : create s.stored command random faults = .ok (state, applied)) :
    (∃ receipt, call s.stored applied.operation.perform = (.ok receipt, state)) ∧
      Asks past s.stored (.create command) applied.operation := by
  simp only [create, bind_ok_iff, mapError_ok_iff] at h
  obtain ⟨-, -, actor, hactor, challenge, -, policy, hpolicy, -, -, happly⟩ := h
  obtain ⟨hoperation, hcall⟩ := applyAndSave_ok happly
  obtain ⟨hage, hissuing, hdocument, hmaximum, -⟩ := PassportVaultPolicy.new_ok_iff.mp hpolicy
  rw [hoperation]
  exact ⟨hcall, (VaultActorId.parse_ok_iff.mp hactor).symm, hage.symm, hissuing.symm,
    hdocument.symm, hmaximum.symm, rfl⟩

theorem mutateAmount_ok {command make}
    (h : mutateAmount s.stored command make faults = .ok (state, applied)) :
    (∃ receipt, call s.stored applied.operation.perform = (.ok receipt, state)) ∧
      ∃ actor, actor.value = command.profileId ∧
        applied.operation = make actor ⟨command.lockId⟩ command.amount := by
  simp only [mutateAmount, bind_ok_iff, mapError_ok_iff] at h
  obtain ⟨actor, hactor, -, -, happly⟩ := h
  obtain ⟨hoperation, hcall⟩ := applyAndSave_ok happly
  rw [hoperation]
  exact ⟨hcall, actor, (VaultActorId.parse_ok_iff.mp hactor).symm, rfl⟩

theorem asks_commitClaim {command policy fingerprint currentDay} (h : Linear initial past s)
    (hclaim : .verified command policy fingerprint currentDay ∈ s.claims)
    (hcommit : commitClaim s.stored command policy fingerprint currentDay faults =
      .ok (state, applied)) :
    (∃ receipt, call s.stored applied.operation.perform = (.ok receipt, state)) ∧
      Asks past s.stored (.claim command) applied.operation := by
  simp only [commitClaim, bind_ok_iff, rejectIf_ok_iff] at hcommit
  obtain ⟨-, -, -, hpolicy, happly⟩ := hcommit
  obtain ⟨hoperation, hcall⟩ := applyAndSave_ok happly
  obtain ⟨lock, hlock, rfl⟩ := map_eq_some_iff.mp (of_not_not (of_decide_eq_false hpolicy))
  rw [hoperation]
  exact ⟨hcall, rfl, rfl, lock, hlock, h.evidence _ _ _ _ hclaim⟩

theorem Linear.act (h : Linear initial past s) (hact : s.act e = some (t, f)) :
    Linear initial (past ++ f.toList) t := by
  cases e with
  | create => exact h.finish _ (fun _ _ hok => asks_create hok) (some.inj hact)
  | deposit command faults | withdraw command faults =>
    refine h.finish _ (fun state applied hok => ?_) (some.inj hact)
    obtain ⟨-, -, hok⟩ := bind_ok_iff.mp hok
    obtain ⟨hcall, actor, hactor, hoperation⟩ := mutateAmount_ok hok
    exact ⟨hcall, hoperation ▸ ⟨hactor, rfl, rfl⟩⟩
  | claim command =>
    rw [act] at hact
    split at hact
    · exact h.finish (.error _) (fun _ _ hok => nomatch hok) (some.inj hact)
    · cases hact
      refine ⟨by simpa using h.stored, ?_, by simpa using h.justified⟩
      intro command policy fingerprint currentDay hclaim
      simpa using h.evidence _ _ _ _ (by simpa using hclaim)
  | verify command policy =>
    rw [act] at hact
    split_ifs at hact
    split at hact
    · exact (h.leave _).finish (.error _) (fun _ _ hok => nomatch hok) (some.inj hact)
    · cases hact
      refine ⟨by simpa [filterMap_cons, Report.operation] using h.stored, ?_,
        h.justified.append (by rintro _ ⟨⟩; trivial)⟩
      intro command policy fingerprint currentDay hclaim
      rcases Multiset.mem_cons.mp hclaim with heq | hclaim
      · cases heq
        simp
      · exact mem_append_left _ ((h.leave _).evidence _ _ _ _ hclaim)
  | commit =>
    rw [act] at hact
    split_ifs at hact with hclaim
    exact (h.leave _).finish _ (fun _ _ hok => asks_commitClaim (s := s) h hclaim hok)
      (some.inj hact)

end Steps

theorem calls_linearizable {initial : PassportVaultState} {es : List Event} {t : State}
    (h : run (stepOf act) ⟨initial, 0⟩ es = some t) : run stepOperation initial
        ((history act ⟨initial, 0⟩ es).filterMap Report.operation) = some t.stored ∧
      EveryReport (Justified initial) (history act ⟨initial, 0⟩ es) := by
  have hlinear : Linear initial (history act ⟨initial, 0⟩ es) t :=
    history_invariant h ⟨rfl, by simp, everyReport_nil⟩ fun _ _ _ _ _ hp hact => hp.act hact
  exact ⟨hlinear.stored, hlinear.justified⟩

namespace Sample

def claimCommand : ClaimPassportVaultLockCommand :=
  ⟨"holder", 0, "credential", 30, true, "CLAIM_FROM_PASSPORT_VAULT"⟩

def events : List Event :=
  [.create ⟨"creator", 18, none, none, 50, 100, true, "CREATE_PASSPORT_VAULT_LOCK"⟩
      (.ok PassportVault.Sample.policy.verifierChallengeHash) ⟨none, none⟩,
    .claim claimCommand none,
    .verify claimCommand PassportVault.Sample.policy
      (.ok ⟨PassportVault.Sample.credential.bytes, 1⟩),
    .commit claimCommand PassportVault.Sample.policy PassportVault.Sample.credential 1
      ⟨none, none⟩]

end Sample

theorem sample_calls_linearizable :
    ∃ t, run (stepOf act) ⟨.default, 0⟩ Sample.events = some t ∧ t.stored.totalReleased = 30 ∧
      run stepOperation .default
        ((history act ⟨.default, 0⟩ Sample.events).filterMap Report.operation) = some t.stored := by
  have hreleased : (run (stepOf act) ⟨.default, 0⟩ Sample.events).map
      (·.stored.totalReleased) = some 30 := by decide +kernel
  obtain ⟨t, ht, hreleased⟩ := map_eq_some_iff.mp hreleased
  exact ⟨t, ht, hreleased, (calls_linearizable ht).1⟩

end Service
end Oxid.PassportVault
