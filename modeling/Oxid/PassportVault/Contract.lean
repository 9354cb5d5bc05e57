import Oxid.Accounts
import Oxid.Transition.Run
import Oxid.PassportVault.Domain

/-!
# The vault contract

The ledger, the constructor and the circuits of `passport-vault.compact`.  What the imported
credential circuits compute of a presentation is data (`ClaimEvidence`); unshielded transfers
are not part of the ledger.
-/

namespace Oxid.PassportVault.Contract
open Foundation Result Transition Accounts

/-! ## The ledger -/

inductive PassportVaultDecision
  | noDecision
  | released
  deriving DecidableEq

structure VerificationMethodRef where
  (didContractAddress methodId : Bytes32)
  deriving DecidableEq

structure LockRecord where
  locker : Bytes32
  minimumAgeYears : UInt8
  requireIssuingState : Bool
  requiredIssuingState : Bytes32
  requireDocumentNumber : Bool
  requiredDocumentNumber : Bytes32
  maxClaimAmount : U128
  verifierChallengeHash : Bytes32
  (totalDeposited totalReleased : U128)
  deriving DecidableEq

structure ClaimNullifier where
  lockId : UInt64
  credentialRoot : Bytes32

instance instLinearOrderBytes32 : LinearOrder Bytes32 :=
  LinearOrder.lift' (fun b => b.bytes.map UInt8.toNat) fun a b h => by
    have hbytes := List.map_injective_iff.mpr (fun _ _ => UInt8.toNat_inj.mp) h
    cases a
    cases b
    congr

structure Ledger where
  contractVersion : UInt32
  admin : Bytes32
  trustedIssuer : VerificationMethodRef
  trustedIssuerPublicKeyHash : Bytes32
  locks : OrderedMap UInt64 LockRecord
  lockCount : UInt64
  consumedClaims : OrderedMap Bytes32 Unit
  (totalDeposited totalReleased : U128)
  claimCount : UInt64
  lastVerifiedCredentialRoot : Bytes32
  lastVerifiedCurrentDay : UInt32
  lastVerifiedThresholdYears : UInt8
  lastReleasedAmount : U128
  lastBusinessDecision : PassportVaultDecision
  deriving DecidableEq

def noCredential : Bytes32 :=
  ⟨"passport-vault:no-cred".toList.map (fun c => UInt8.ofNat c.toNat) ++ List.replicate 10 0,
    by decide⟩

def Ledger.deploy (initialAdmin : Bytes32) (issuerRef : VerificationMethodRef)
    (issuerPublicKeyHash : Bytes32) : Ledger where
  contractVersion := 1
  admin := initialAdmin
  trustedIssuer := issuerRef
  trustedIssuerPublicKeyHash := issuerPublicKeyHash
  locks := .empty
  lockCount := 0
  consumedClaims := .empty
  totalDeposited := 0
  totalReleased := 0
  claimCount := 0
  lastVerifiedCredentialRoot := noCredential
  lastVerifiedCurrentDay := 0
  lastVerifiedThresholdYears := 0
  lastReleasedAmount := 0
  lastBusinessDecision := .noDecision

/-! ## What can fail in a circuit -/

inductive CircuitFailure
  | assertion (message : String)
  | imported (circuit : String)
  | outOfRange
  deriving DecidableEq

abbrev CircuitM := Except CircuitFailure

def require (holds : Prop) [Decidable holds] (message : String) : CircuitM Unit :=
  rejectIf (!decide holds) (.assertion message)

def requireImported (holds : Bool) (circuit : String) : CircuitM Unit :=
  rejectIf (!holds) (.imported circuit)

def asUint64 (n : ℕ) : CircuitM UInt64 :=
  if n < 2 ^ 64 then .ok (UInt64.ofNat n) else .error .outOfRange

def asUint128 (n : ℕ) : CircuitM U128 :=
  if h : n < 2 ^ 128 then .ok ⟨n, h⟩ else .error .outOfRange

def difference (a b : U128) : CircuitM U128 :=
  okOr (a.checkedSub b) .outOfRange

def lookup (ledger : Ledger) (lockId : UInt64) : CircuitM LockRecord :=
  okOr (ledger.locks.find? lockId) (.assertion "Lock does not exist")

@[simp] theorem require_ok_iff {holds : Prop} [Decidable holds] {message u} :
    require holds message = .ok u ↔ holds := by
  simp [require]

@[simp] theorem asUint64_ok_iff {n value} : asUint64 n = .ok value ↔ value.toNat = n := by
  rw [asUint64]
  split_ifs with h
  · rw [Except.ok.injEq, ← UInt64.toNat_inj, UInt64.toNat_ofNat_of_lt' h, eq_comm]
  · constructor
    · nofun
    · intro heq
      exact absurd (heq ▸ value.toNat_lt) h

@[simp] theorem asUint128_ok_iff {n value} : asUint128 n = .ok value ↔ value.val = n := by
  rw [asUint128]
  split_ifs with h
  · rw [Except.ok.injEq, Fin.ext_iff, eq_comm]
  · constructor
    · nofun
    · intro heq
      exact absurd (heq ▸ value.isLt) h

@[simp] theorem difference_ok_iff {a b value} :
    difference a b = .ok value ↔ b ≤ a ∧ value = a - b := by
  rw [difference, okOr_ok_iff, U128.checkedSub]
  split_ifs with h
  · simp [h, eq_comm]
  · simp [h]

@[simp] theorem lookup_ok_iff {ledger lockId rec} :
    lookup ledger lockId = .ok rec ↔ ledger.locks.find? lockId = some rec := by
  rw [lookup, okOr_ok_iff]

/-! ## Circuits -/

structure LockTerms where
  minAge : UInt8
  reqIssuingState : Bool
  reqIssuingStateValue : Bytes32
  reqDocumentNumber : Bool
  reqDocumentNumberValue : Bytes32
  maxClaim : U128
  configuredVerifierChallengeHash : Bytes32

def LockTerms.record (terms : LockTerms) (locker : Bytes32) (initialAmount : U128) :
    LockRecord where
  locker := locker
  minimumAgeYears := terms.minAge
  requireIssuingState := terms.reqIssuingState
  requiredIssuingState := terms.reqIssuingStateValue
  requireDocumentNumber := terms.reqDocumentNumber
  requiredDocumentNumber := terms.reqDocumentNumberValue
  maxClaimAmount := terms.maxClaim
  verifierChallengeHash := terms.configuredVerifierChallengeHash
  totalDeposited := initialAmount
  totalReleased := 0

def createLock (caller : Bytes32) (terms : LockTerms) (initialAmount : U128) (ledger : Ledger) :
    CircuitM (UInt64 × Ledger) := do
  require (0 < terms.maxClaim) "Per-claim maximum must be positive"
  let lockId := ledger.lockCount
  let lockCount ← asUint64 (ledger.lockCount.toNat + 1)
  let totalDeposited ← asUint128 (ledger.totalDeposited.val + initialAmount.val)
  return (lockId,
    { ledger with
      locks := ledger.locks.insert lockId (terms.record caller initialAmount)
      lockCount := lockCount
      totalDeposited := totalDeposited })

def depositToLock (caller : Bytes32) (lockId : UInt64) (amount : U128) (ledger : Ledger) :
    CircuitM Ledger := do
  let rec ← lookup ledger lockId
  require (caller = rec.locker) "Only the lock's creator may deposit funds"
  require (0 < amount) "Deposit amount must be positive"
  let deposited ← asUint128 (rec.totalDeposited.val + amount.val)
  let totalDeposited ← asUint128 (ledger.totalDeposited.val + amount.val)
  return { ledger with
    locks := ledger.locks.insert lockId { rec with totalDeposited := deposited }
    totalDeposited := totalDeposited }

def withdrawFromLock (caller : Bytes32) (lockId : UInt64) (amount : U128) (ledger : Ledger) :
    CircuitM Ledger := do
  let rec ← lookup ledger lockId
  require (caller = rec.locker) "Only the lock's creator may withdraw"
  require (0 < amount) "Withdrawal amount must be positive"
  let remaining ← difference rec.totalDeposited rec.totalReleased
  require (amount ≤ remaining) "Insufficient lock balance"
  let released ← asUint128 (rec.totalReleased.val + amount.val)
  let totalReleased ← asUint128 (ledger.totalReleased.val + amount.val)
  return { ledger with
    locks := ledger.locks.insert lockId { rec with totalReleased := released }
    totalReleased := totalReleased }

structure DigitalPassportPresentationRequest where
  issuerVerificationMethodRef : VerificationMethodRef
  requireAgeOverThreshold : Bool
  requestedAgeThresholdYears : UInt8
  (requireDocumentNumberDisclosure requireIssuingStateDisclosure : Bool)
  verifierChallengeHash : Bytes32

def passportPolicyRequestFor (issuerVerificationMethodRef : VerificationMethodRef)
    (configuredVerifierChallengeHash : Bytes32) (reqIssuingState reqDocumentNumber : Bool)
    (requestedAgeThresholdYears : UInt8) : DigitalPassportPresentationRequest where
  issuerVerificationMethodRef := issuerVerificationMethodRef
  requireAgeOverThreshold := 0 < requestedAgeThresholdYears
  requestedAgeThresholdYears := requestedAgeThresholdYears
  requireDocumentNumberDisclosure := reqDocumentNumber
  requireIssuingStateDisclosure := reqIssuingState
  verifierChallengeHash := configuredVerifierChallengeHash

/-- What a claim is made with: the parts of the credential, of the presentation and of
their proofs the circuit looks at, and what the imported circuits answer about them. -/
structure ClaimEvidence where
  credentialRoot : Bytes32
  issuerVerificationMethodRef : VerificationMethodRef
  publicKeyHash : Bytes32
  hasExpiration : Bool
  expiresAt : UInt64
  (issuingStateValue documentNumberValue : Bytes32)
  ageThresholdYears : UInt8
  validPresentation : Bool
  satisfiesRequest : DigitalPassportPresentationRequest → Bool
  validAgePredicate : UInt32 → Bool

def blockTimeLt (blockTime time : UInt64) : Prop := blockTime < time

def blockTimeGte (blockTime time : UInt64) : Prop := time ≤ blockTime

instance decidableBlockTimeLt (blockTime time : UInt64) : Decidable (blockTimeLt blockTime time) :=
  inferInstanceAs (Decidable (blockTime < time))

instance decidableBlockTimeGte (blockTime time : UInt64) :
    Decidable (blockTimeGte blockTime time) :=
  inferInstanceAs (Decidable (time ≤ blockTime))

def checkPresentation (blockTime : UInt64) (evidence : ClaimEvidence) (rec : LockRecord)
    (ledger : Ledger) : CircuitM Unit := do
  require (evidence.issuerVerificationMethodRef.didContractAddress =
    ledger.trustedIssuer.didContractAddress)
    "Credential issuer DID contract does not match trusted issuer"
  require (evidence.issuerVerificationMethodRef.methodId = ledger.trustedIssuer.methodId)
    "Credential issuer verification method does not match trusted issuer"
  require (evidence.publicKeyHash = ledger.trustedIssuerPublicKeyHash)
    "Credential issuer signing key is not the pinned trusted issuer key"
  requireImported evidence.validPresentation "assertValidDigitalPassportPresentation"
  require (evidence.hasExpiration → blockTimeLt blockTime evidence.expiresAt)
    "Credential has expired"
  requireImported (evidence.satisfiesRequest (passportPolicyRequestFor ledger.trustedIssuer
    rec.verifierChallengeHash rec.requireIssuingState rec.requireDocumentNumber
    rec.minimumAgeYears)) "assertDigitalPassportPresentationSatisfiesRequest"
  require (rec.requireIssuingState →
    evidence.issuingStateValue = rec.requiredIssuingState)
    "Disclosed issuing state does not match the vault policy"
  require (rec.requireDocumentNumber →
    evidence.documentNumberValue = rec.requiredDocumentNumber)
    "Disclosed document number does not match the vault policy"

def checkAge (blockTime : UInt64) (evidence : ClaimEvidence) (currentDay : UInt32)
    (rec : LockRecord) : CircuitM Unit :=
  if 0 < rec.minimumAgeYears then do
    let startOfDaySeconds ← asUint64 (currentDay.toNat * 86400)
    let startOfNextDaySeconds ← asUint64 ((currentDay.toNat + 1) * 86400)
    require (blockTimeGte blockTime startOfDaySeconds)
      "currentDay is in the future relative to block time"
    require (blockTimeLt blockTime startOfNextDaySeconds)
      "currentDay is stale relative to block time"
    requireImported (evidence.validAgePredicate currentDay)
      "assertValidDigitalPassportAgePredicate"
  else .ok ()

def claimFromLock (persistentHash : ClaimNullifier → Bytes32) (blockTime : UInt64)
    (lockId : UInt64) (evidence : ClaimEvidence) (currentDay : UInt32) (requestedAmount : U128)
    (ledger : Ledger) : CircuitM Ledger := do
  let rec ← lookup ledger lockId
  require (0 < requestedAmount) "Requested amount must be positive"
  require (requestedAmount ≤ rec.maxClaimAmount) "Requested amount exceeds the per-claim maximum"
  let remaining ← difference rec.totalDeposited rec.totalReleased
  require (requestedAmount ≤ remaining) "Requested amount exceeds the remaining vault balance"
  let nullifier := persistentHash ⟨lockId, evidence.credentialRoot⟩
  require (ledger.consumedClaims.contains nullifier = false)
    "Credential has already claimed from this vault"
  checkPresentation blockTime evidence rec ledger
  checkAge blockTime evidence currentDay rec
  let released ← asUint128 (rec.totalReleased.val + requestedAmount.val)
  let totalReleased ← asUint128 (ledger.totalReleased.val + requestedAmount.val)
  let claimCount ← asUint64 (ledger.claimCount.toNat + 1)
  return { ledger with
    consumedClaims := ledger.consumedClaims.insert nullifier ()
    locks := ledger.locks.insert lockId { rec with totalReleased := released }
    totalReleased := totalReleased
    claimCount := claimCount
    lastVerifiedCredentialRoot := evidence.credentialRoot
    lastVerifiedCurrentDay := currentDay
    lastVerifiedThresholdYears := evidence.ageThresholdYears
    lastReleasedAmount := requestedAmount
    lastBusinessDecision := .released }

def setTrustedIssuer (caller : Bytes32) (newIssuerRef : VerificationMethodRef)
    (newIssuerPublicKeyHash : Bytes32) (ledger : Ledger) : CircuitM Ledger := do
  require (caller = ledger.admin) "Only the contract admin may rotate the trusted issuer"
  return { ledger with
    trustedIssuer := newIssuerRef
    trustedIssuerPublicKeyHash := newIssuerPublicKeyHash }

inductive Circuit
  | createLock (terms : LockTerms) (initialAmount : U128)
  | depositToLock (lockId : UInt64) (amount : U128)
  | withdrawFromLock (lockId : UInt64) (amount : U128)
  | claimFromLock (lockId : UInt64) (evidence : ClaimEvidence) (currentDay : UInt32)
      (requestedAmount : U128)
  | setTrustedIssuer (newIssuerRef : VerificationMethodRef) (newIssuerPublicKeyHash : Bytes32)

structure CallContext where
  ownPublicKey : Bytes32
  blockTime : UInt64

def Circuit.call (persistentHash : ClaimNullifier → Bytes32) (context : CallContext)
    (ledger : Ledger) : Circuit → CircuitM (Option UInt64 × Ledger)
  | .createLock terms initialAmount => do
    let (lockId, ledger) ← Contract.createLock context.ownPublicKey terms initialAmount ledger
    return (some lockId, ledger)
  | .depositToLock lockId amount =>
    (none, ·) <$> Contract.depositToLock context.ownPublicKey lockId amount ledger
  | .withdrawFromLock lockId amount =>
    (none, ·) <$> Contract.withdrawFromLock context.ownPublicKey lockId amount ledger
  | .claimFromLock lockId evidence currentDay requestedAmount =>
    (none, ·) <$> Contract.claimFromLock persistentHash context.blockTime lockId evidence
      currentDay requestedAmount ledger
  | .setTrustedIssuer newIssuerRef newIssuerPublicKeyHash =>
    (none, ·) <$> Contract.setTrustedIssuer context.ownPublicKey newIssuerRef
      newIssuerPublicKeyHash ledger

def step (persistentHash : ClaimNullifier → Bytes32) (ledger : Ledger)
    (call : CallContext × Circuit) : Option Ledger :=
  ((call.2.call persistentHash call.1 ledger).toOption).map Prod.snd

/-! ## What a circuit does -/

def Presented (blockTime : UInt64) (evidence : ClaimEvidence) (currentDay : UInt32)
    (rec : LockRecord) (ledger : Ledger) : Prop :=
  checkPresentation blockTime evidence rec ledger = .ok () ∧
    checkAge blockTime evidence currentDay rec = .ok ()

section Circuits
variable {persistentHash : ClaimNullifier → Bytes32} {context : CallContext}
  {ledger ledger' : Ledger} {caller : Bytes32} {lockId value : UInt64} {amount : U128}

theorem createLock_ok_iff {terms} : createLock caller terms amount ledger = .ok (value, ledger') ↔
      0 < terms.maxClaim ∧ ∃ count total, count.toNat = ledger.lockCount.toNat + 1 ∧
        total.val = ledger.totalDeposited.val + amount.val ∧ value = ledger.lockCount ∧
        ledger' = { ledger with
          locks := ledger.locks.insert ledger.lockCount (terms.record caller amount)
          lockCount := count
          totalDeposited := total } := by
  simp only [createLock, bind_ok_iff, require_ok_iff, asUint64_ok_iff, asUint128_ok_iff, pure,
    Except.pure, Except.ok.injEq, Prod.mk.injEq]
  constructor
  · rintro ⟨-, hpositive, count, hcount, total, htotal, rfl, rfl⟩
    exact ⟨hpositive, count, total, hcount, htotal, rfl, rfl⟩
  · rintro ⟨hpositive, count, total, hcount, htotal, rfl, rfl⟩
    exact ⟨(), hpositive, count, hcount, total, htotal, rfl, rfl⟩

theorem depositToLock_ok_iff : depositToLock caller lockId amount ledger = .ok ledger' ↔
      ∃ rec deposited total, ledger.locks.find? lockId = some rec ∧ caller = rec.locker ∧
        0 < amount ∧ deposited.val = rec.totalDeposited.val + amount.val ∧
        total.val = ledger.totalDeposited.val + amount.val ∧ ledger' = { ledger with
          locks := ledger.locks.insert lockId { rec with totalDeposited := deposited }
          totalDeposited := total } := by
  simp only [depositToLock, bind_ok_iff, lookup_ok_iff, require_ok_iff, asUint128_ok_iff, pure,
    Except.pure, Except.ok.injEq]
  constructor
  · rintro ⟨rec, hfound, -, hcaller, -, hpositive, deposited, hdeposited, total, htotal, rfl⟩
    exact ⟨rec, deposited, total, hfound, hcaller, hpositive, hdeposited, htotal, rfl⟩
  · rintro ⟨rec, deposited, total, hfound, hcaller, hpositive, hdeposited, htotal, rfl⟩
    exact ⟨rec, hfound, (), hcaller, (), hpositive, deposited, hdeposited, total, htotal, rfl⟩

theorem withdrawFromLock_ok_iff : withdrawFromLock caller lockId amount ledger = .ok ledger' ↔
      ∃ rec released total, ledger.locks.find? lockId = some rec ∧ caller = rec.locker ∧
        0 < amount ∧ rec.totalReleased ≤ rec.totalDeposited ∧
        amount ≤ rec.totalDeposited - rec.totalReleased ∧
        released.val = rec.totalReleased.val + amount.val ∧
        total.val = ledger.totalReleased.val + amount.val ∧ ledger' = { ledger with
          locks := ledger.locks.insert lockId { rec with totalReleased := released }
          totalReleased := total } := by
  simp only [withdrawFromLock, bind_ok_iff, lookup_ok_iff, require_ok_iff, difference_ok_iff,
    asUint128_ok_iff, pure, Except.pure, Except.ok.injEq]
  constructor
  · rintro ⟨rec, hfound, -, hcaller, -, hpositive, remaining, ⟨hcovered, rfl⟩, -, hbalance,
      released, hreleased, total, htotal, rfl⟩
    exact ⟨rec, released, total, hfound, hcaller, hpositive, hcovered, hbalance, hreleased,
      htotal, rfl⟩
  · rintro ⟨rec, released, total, hfound, hcaller, hpositive, hcovered, hbalance, hreleased,
      htotal, rfl⟩
    exact ⟨rec, hfound, (), hcaller, (), hpositive, _, ⟨hcovered, rfl⟩, (), hbalance, released,
      hreleased, total, htotal, rfl⟩

theorem claimFromLock_ok_iff {blockTime evidence currentDay} :
    claimFromLock persistentHash blockTime lockId evidence currentDay amount ledger = .ok ledger' ↔
      ∃ rec released total count, ledger.locks.find? lockId = some rec ∧ 0 < amount ∧
        amount ≤ rec.maxClaimAmount ∧ rec.totalReleased ≤ rec.totalDeposited ∧
        amount ≤ rec.totalDeposited - rec.totalReleased ∧
        ledger.consumedClaims.contains (persistentHash ⟨lockId, evidence.credentialRoot⟩) = false ∧
        Presented blockTime evidence currentDay rec ledger ∧
        released.val = rec.totalReleased.val + amount.val ∧
        total.val = ledger.totalReleased.val + amount.val ∧
        count.toNat = ledger.claimCount.toNat + 1 ∧ ledger' = { ledger with
          consumedClaims :=
            ledger.consumedClaims.insert (persistentHash ⟨lockId, evidence.credentialRoot⟩) ()
          locks := ledger.locks.insert lockId { rec with totalReleased := released }
          totalReleased := total
          claimCount := count
          lastVerifiedCredentialRoot := evidence.credentialRoot
          lastVerifiedCurrentDay := currentDay
          lastVerifiedThresholdYears := evidence.ageThresholdYears
          lastReleasedAmount := amount
          lastBusinessDecision := .released } := by
  simp only [claimFromLock, bind_ok_iff, lookup_ok_iff, require_ok_iff, difference_ok_iff,
    asUint64_ok_iff, asUint128_ok_iff, pure, Except.pure, Except.ok.injEq]
  constructor
  · rintro ⟨rec, hfound, -, hpositive, -, hmaximum, remaining, ⟨hcovered, rfl⟩, -, hbalance,
      -, hfresh, ⟨⟩, hpresentation, ⟨⟩, hage, released, hreleased, total, htotal, count, hcount,
      rfl⟩
    exact ⟨rec, released, total, count, hfound, hpositive, hmaximum, hcovered, hbalance, hfresh,
      ⟨hpresentation, hage⟩, hreleased, htotal, hcount, rfl⟩
  · rintro ⟨rec, released, total, count, hfound, hpositive, hmaximum, hcovered, hbalance, hfresh,
      ⟨hpresentation, hage⟩, hreleased, htotal, hcount, rfl⟩
    exact ⟨rec, hfound, (), hpositive, (), hmaximum, _, ⟨hcovered, rfl⟩, (), hbalance, (),
      hfresh, (), hpresentation, (), hage, released, hreleased, total, htotal, count, hcount, rfl⟩

theorem setTrustedIssuer_ok_iff {issuerRef keyHash} :
    setTrustedIssuer caller issuerRef keyHash ledger = .ok ledger' ↔ caller = ledger.admin ∧
        ledger' = { ledger with
          trustedIssuer := issuerRef
          trustedIssuerPublicKeyHash := keyHash } := by
  simp only [setTrustedIssuer, bind_ok_iff, require_ok_iff, pure, Except.pure, Except.ok.injEq]
  constructor
  · rintro ⟨-, hcaller, rfl⟩
    exact ⟨hcaller, rfl⟩
  · rintro ⟨hcaller, rfl⟩
    exact ⟨(), hcaller, rfl⟩

theorem step_eq_some_iff {call} : step persistentHash ledger call = some ledger' ↔
      ∃ value, call.2.call persistentHash call.1 ledger = .ok (value, ledger') := by
  rw [step, Option.map_eq_some_iff]
  cases call.2.call persistentHash call.1 ledger with
  | error => simp [Except.toOption]
  | ok => simp [Except.toOption, Prod.ext_iff]

theorem call_createLock_ok_iff {terms returned} :
    (Circuit.createLock terms amount).call persistentHash context ledger = .ok (returned, ledger') ↔
      ∃ lockId, returned = some lockId ∧
        createLock context.ownPublicKey terms amount ledger = .ok (lockId, ledger') := by
  simp only [Circuit.call, bind_ok_iff, pure, Except.pure, Except.ok.injEq, Prod.mk.injEq,
    Prod.exists]
  constructor
  · rintro ⟨lockId, after, hcall, rfl, rfl⟩
    exact ⟨lockId, rfl, hcall⟩
  · rintro ⟨lockId, rfl, hcall⟩
    exact ⟨lockId, ledger', hcall, rfl, rfl⟩

theorem map_none_ok_iff {result : CircuitM Ledger} {returned : Option UInt64} :
    (none, ·) <$> result = .ok (returned, ledger') ↔ returned = none ∧ result = .ok ledger' := by
  cases result with
  | error => simp [Functor.map, Except.map]
  | ok => simp [Functor.map, Except.map, eq_comm]

end Circuits

/-! ## What holds of every ledger -/

structure Sound (ledger : Ledger) : Prop where
  version : ledger.contractVersion = 1
  balanced : Balanced UInt64.toNat (·.totalDeposited.val) (·.totalReleased.val) ledger.locks
    ledger.lockCount.toNat ledger.totalDeposited.val ledger.totalReleased.val
  counted : ledger.claimCount.toNat = ledger.consumedClaims.size

theorem sound_deploy (initialAdmin : Bytes32) (issuerRef : VerificationMethodRef)
    (issuerPublicKeyHash : Bytes32) : Sound (.deploy initialAdmin issuerRef issuerPublicKeyHash) :=
  ⟨rfl, balanced_empty, rfl⟩

section Soundness
variable {persistentHash : ClaimNullifier → Bytes32} {ledger ledger' : Ledger}
  {rec : LockRecord}

theorem covered_of_balance {amount released : U128}
    (hcovered : rec.totalReleased ≤ rec.totalDeposited)
    (hbalance : amount ≤ rec.totalDeposited - rec.totalReleased)
    (hreleased : released.val = rec.totalReleased.val + amount.val) :
    released.val ≤ rec.totalDeposited.val := by
  rw [Fin.le_def, U128.val_sub hcovered] at hbalance
  rw [Fin.le_def] at hcovered
  omega

theorem Sound.step {call : CallContext × Circuit} (h : Sound ledger)
    (hstep : step persistentHash ledger call = some ledger') : Sound ledger' := by
  obtain ⟨value, hcall⟩ := step_eq_some_iff.mp hstep
  cases hcircuit : call.2 with
  | createLock =>
    rw [hcircuit, call_createLock_ok_iff] at hcall
    obtain ⟨lockId, -, hcall⟩ := hcall
    obtain ⟨-, count, total, hcount, htotal, -, rfl⟩ := createLock_ok_iff.mp hcall
    refine ⟨h.version, ?_, h.counted⟩
    dsimp only
    rw [hcount, htotal]
    exact h.balanced.open_account rfl (fun a b => UInt64.lt_iff_toNat_lt.mpr) (Nat.zero_le _)
  | depositToLock lockId =>
    rw [hcircuit, Circuit.call, map_none_ok_iff] at hcall
    obtain ⟨rec, deposited, total, hfound, -, -, hdeposited, htotal, rfl⟩ :=
      depositToLock_ok_iff.mp hcall.2
    have hcovered := h.balanced.covered lockId rec hfound
    refine ⟨h.version, h.balanced.move hfound ?_ ?_ rfl, h.counted⟩ <;> dsimp only <;> omega
  | withdrawFromLock =>
    rw [hcircuit, Circuit.call, map_none_ok_iff] at hcall
    obtain ⟨rec, released, total, hfound, -, -, hcovered, hbalance, hreleased, htotal, rfl⟩ :=
      withdrawFromLock_ok_iff.mp hcall.2
    have hafter := covered_of_balance hcovered hbalance hreleased
    refine ⟨h.version, h.balanced.move hfound hafter rfl ?_, h.counted⟩
    dsimp only
    omega
  | claimFromLock lockId evidence =>
    rw [hcircuit, Circuit.call, map_none_ok_iff] at hcall
    obtain ⟨rec, released, total, count, hfound, -, -, hcovered, hbalance, hfresh, -, hreleased,
      htotal, hcount, rfl⟩ := claimFromLock_ok_iff.mp hcall.2
    have hafter := covered_of_balance hcovered hbalance hreleased
    have hfree : ledger.consumedClaims.find?
        (persistentHash ⟨lockId, evidence.credentialRoot⟩) = none := by
      simpa [OrderedMap.contains] using hfresh
    refine ⟨h.version, h.balanced.move hfound hafter rfl ?_, ?_⟩
    · dsimp only
      omega
    · rw [hcount, h.counted]
      exact (OrderedMap.size_insert_of_find? hfree ()).symm
  | setTrustedIssuer =>
    rw [hcircuit, Circuit.call, map_none_ok_iff] at hcall
    obtain ⟨-, rfl⟩ := setTrustedIssuer_ok_iff.mp hcall.2
    exact ⟨h.version, h.balanced, h.counted⟩

theorem sound_of_run {initialAdmin issuerRef issuerPublicKeyHash calls}
    (hrun : run (Contract.step persistentHash)
      (.deploy initialAdmin issuerRef issuerPublicKeyHash) calls = some ledger) : Sound ledger :=
  run_invariant (sound_deploy initialAdmin issuerRef issuerPublicKeyHash)
    (fun _ _ _ hp hstep => Sound.step hp hstep) hrun

/-- The issuer is as before or one the admin set in a call. -/
def Trusts (p : Ledger) (calls : List (CallContext × Circuit)) (q : Ledger) : Prop :=
  q.admin = p.admin ∧
    (q.trustedIssuer = p.trustedIssuer ∧
      q.trustedIssuerPublicKeyHash = p.trustedIssuerPublicKeyHash ∨
    ∃ context, context.ownPublicKey = p.admin ∧
      (context, .setTrustedIssuer q.trustedIssuer q.trustedIssuerPublicKeyHash) ∈ calls)

theorem trusts_step {call} (hstep : step persistentHash ledger call = some ledger') :
    Trusts ledger [call] ledger' := by
  obtain ⟨_, hcall⟩ := step_eq_some_iff.mp hstep
  obtain ⟨context, circuit⟩ := call
  rw [Trusts]
  cases circuit with
  | createLock => grind [call_createLock_ok_iff, createLock_ok_iff]
  | depositToLock => grind [Circuit.call, map_none_ok_iff, depositToLock_ok_iff]
  | withdrawFromLock => grind [Circuit.call, map_none_ok_iff, withdrawFromLock_ok_iff]
  | claimFromLock => grind [Circuit.call, map_none_ok_iff, claimFromLock_ok_iff]
  | setTrustedIssuer => grind [Circuit.call, map_none_ok_iff, setTrustedIssuer_ok_iff]

theorem admin_sets_issuer {calls} (hrun : run (step persistentHash) ledger calls = some ledger') :
    Trusts ledger calls ledger' := by
  refine run_induction (motive := Trusts ledger) ⟨rfl, .inl ⟨rfl, rfl⟩⟩ ?_ _ _ hrun
  intro calls p call q _ ih hstep
  have := trusts_step hstep
  grind [Trusts]

theorem admin_rotates : Trusts (.deploy .zero ⟨.zero, .zero⟩ .zero)
    [(⟨.zero, 0⟩, .setTrustedIssuer ⟨.zero, .zero⟩ noCredential)]
    (.deploy .zero ⟨.zero, .zero⟩ noCredential) :=
  @admin_sets_issuer (fun _ => .zero) _ _ _ rfl

end Soundness
end Oxid.PassportVault.Contract
