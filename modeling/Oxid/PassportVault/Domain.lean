import Mathlib.Data.Prod.Lex
import Mathlib.Order.Lex
import Mathlib.Data.List.Lex
import Oxid.Foundation
import Oxid.OrderedMap
import Oxid.Result
import Oxid.Transaction

/-!
# The passport vault

The standalone ledger of `passport-vault/domain`.  Creators lock amounts under a policy; a
holder of a credential claims from a lock, once for each lock and credential.  The operations
are methods of `Transaction`, which keep whatever was written before an error.
-/

namespace Oxid.PassportVault

open Foundation Transaction

def maxVaultActorCharacters : ℕ := 128

def maxVaultLocks : ℕ := 4096

def maxVaultConsumedClaims : ℕ := 16384

def maxPassportVaultContractStateBytes : ℕ := 16 * 1024 * 1024

inductive PassportVaultError
  | invalidActor | invalidMinimumAge | invalidPolicy | invalidAmount | invalidCredentialEvidence
  | invalidState | capacityExceeded | lockNotFound | notLockCreator | claimExceedsMaximum
  | insufficientLockBalance | credentialAlreadyClaimed | overflow
  deriving DecidableEq

@[ext] structure VaultActorId where
  value : String
  nonempty : value.toList ≠ []
  short : value.toList.length ≤ maxVaultActorCharacters
  trimmed : trim value.toList = value.toList
  printable : value.toList.any isControl = false
  deriving Repr

instance instDecidableEqVaultActorId : DecidableEq VaultActorId := fun a b =>
  decidable_of_iff (a.value = b.value) VaultActorId.ext_iff.symm

def VaultActorId.parse (value : String) : Except PassportVaultError VaultActorId :=
  if h : value.toList ≠ [] ∧ value.toList.length ≤ maxVaultActorCharacters ∧
      trim value.toList = value.toList ∧ value.toList.any isControl = false then
    .ok ⟨value, h.1, h.2.1, h.2.2.1, h.2.2.2⟩
  else .error .invalidActor

theorem VaultActorId.parse_ok_iff {value actor} :
    VaultActorId.parse value = .ok actor ↔ value = actor.value := by
  rw [VaultActorId.parse]
  constructor
  · intro h
    split_ifs at h
    cases h
    rfl
  · rintro rfl
    rw [dif_pos ⟨actor.nonempty, actor.short, actor.trimmed, actor.printable⟩]

structure VaultLockId where
  value : UInt64
  deriving DecidableEq

instance instLinearOrderVaultLockId : LinearOrder VaultLockId :=
  LinearOrder.lift' VaultLockId.value fun a b h => by cases a; cases b; congr

@[ext] structure Bytes32 where
  bytes : List UInt8
  length_eq : bytes.length = 32
  deriving DecidableEq

def Bytes32.zero : Bytes32 := ⟨List.replicate 32 0, by simp⟩

structure CredentialFingerprint where
  bytes : Bytes32
  nonzero : bytes ≠ .zero
  deriving DecidableEq

def CredentialFingerprint.new (value : Bytes32) : Except PassportVaultError CredentialFingerprint :=
  if h : value = .zero then .error .invalidCredentialEvidence else .ok ⟨value, h⟩

theorem CredentialFingerprint.new_ok_iff {value credential} :
    CredentialFingerprint.new value = .ok credential ↔ value = credential.bytes := by
  rw [CredentialFingerprint.new]
  constructor
  · intro h
    split_ifs at h
    cases h
    rfl
  · rintro rfl
    rw [dif_neg credential.nonzero]

instance instLinearOrderCredentialFingerprint : LinearOrder CredentialFingerprint :=
  LinearOrder.lift' (fun c => c.bytes.bytes.map UInt8.toNat) fun a b h => by
    have hbytes := List.map_injective_iff.mpr (fun _ _ => UInt8.toNat_inj.mp) h
    cases a with | mk a => cases b with | mk b => cases a; cases b; congr

/-- `new` is the only way to a policy, so what it checks holds of every policy. -/
structure PassportVaultPolicy where
  minimumAgeYears : UInt8
  (requiredIssuingState requiredDocumentNumber : Option Bytes32)
  maximumClaimAmount : U128
  verifierChallengeHash : Bytes32
  age_le : minimumAgeYears ≤ 120
  maximum_ne : maximumClaimAmount ≠ 0
  challenge_ne : verifierChallengeHash ≠ .zero
  issuing_ne : requiredIssuingState ≠ some .zero
  document_ne : requiredDocumentNumber ≠ some .zero
  deriving DecidableEq

def PassportVaultPolicy.new (minimumAgeYears : UInt8)
    (requiredIssuingState requiredDocumentNumber : Option Bytes32) (maximumClaimAmount : U128)
    (verifierChallengeHash : Bytes32) : Except PassportVaultError PassportVaultPolicy :=
  if hage : 120 < minimumAgeYears then .error .invalidMinimumAge
  else if hmaximum : maximumClaimAmount = 0 then .error .invalidAmount
  else if h : verifierChallengeHash = .zero ∨ requiredIssuingState = some .zero ∨
      requiredDocumentNumber = some .zero then .error .invalidPolicy
  else
    .ok ⟨minimumAgeYears, requiredIssuingState, requiredDocumentNumber, maximumClaimAmount,
      verifierChallengeHash, UInt8.not_lt.mp hage, hmaximum, fun hc => h (.inl hc),
      fun hi => h (.inr (.inl hi)), fun hd => h (.inr (.inr hd))⟩

theorem PassportVaultPolicy.new_ok_iff {age issuing document maximum challenge policy} :
    PassportVaultPolicy.new age issuing document maximum challenge = .ok policy ↔
      age = policy.minimumAgeYears ∧ issuing = policy.requiredIssuingState ∧
      document = policy.requiredDocumentNumber ∧ maximum = policy.maximumClaimAmount ∧
      challenge = policy.verifierChallengeHash := by
  rw [PassportVaultPolicy.new]
  constructor
  · intro h
    split_ifs at h
    cases h
    exact ⟨rfl, rfl, rfl, rfl, rfl⟩
  · rintro ⟨rfl, rfl, rfl, rfl, rfl⟩
    have hpolicy : ¬ (policy.verifierChallengeHash = .zero ∨
        policy.requiredIssuingState = some .zero ∨ policy.requiredDocumentNumber = some .zero) := by
      simp [policy.challenge_ne, policy.issuing_ne, policy.document_ne]
    rw [dif_neg (UInt8.not_lt.mpr policy.age_le), dif_neg policy.maximum_ne, dif_neg hpolicy]

/-! ## The state -/

structure PassportVaultLock where
  id : VaultLockId
  creator : VaultActorId
  policy : PassportVaultPolicy
  (totalDeposited totalReleased : U128)
  deriving DecidableEq

def PassportVaultLock.remaining (lock : PassportVaultLock) : U128 :=
  lock.totalDeposited - lock.totalReleased

structure PassportVaultClaimReceipt where
  lockId : VaultLockId
  amount : U128
  currentDay : UInt32
  remaining : U128
  deriving DecidableEq

structure ConsumedClaim where
  lockId : VaultLockId
  credential : CredentialFingerprint
  deriving DecidableEq

instance instLinearOrderConsumedClaim : LinearOrder ConsumedClaim :=
  LinearOrder.lift' (fun c => toLex (c.lockId, c.credential)) fun a b h => by
    cases a
    cases b
    cases toLex.injective h
    rfl

structure PassportVaultState where
  nextLockId : UInt64
  locks : OrderedMap VaultLockId PassportVaultLock
  consumedClaims : OrderedMap ConsumedClaim Unit
  (totalDeposited totalReleased : U128)
  claimCount : UInt64
  deriving DecidableEq

def PassportVaultState.default : PassportVaultState where
  nextLockId := 0
  locks := .empty
  consumedClaims := .empty
  totalDeposited := 0
  totalReleased := 0
  claimCount := 0

/-- Does not underflow, as the vault never releases more than it has. -/
def PassportVaultState.totalLocked (s : PassportVaultState) : U128 :=
  s.totalDeposited - s.totalReleased

structure PassportVaultLockSnapshot where
  id : VaultLockId
  creator : VaultActorId
  policy : PassportVaultPolicy
  (totalDeposited totalReleased : U128)

structure PassportVaultStateSnapshot where
  nextLockId : UInt64
  locks : List PassportVaultLockSnapshot
  consumedClaims : List ConsumedClaim
  (totalDeposited totalReleased : U128)
  claimCount : UInt64

def PassportVaultLock.snapshot (lock : PassportVaultLock) : PassportVaultLockSnapshot :=
  ⟨lock.id, lock.creator, lock.policy, lock.totalDeposited, lock.totalReleased⟩

def PassportVaultLockSnapshot.lock (lock : PassportVaultLockSnapshot) : PassportVaultLock :=
  ⟨lock.id, lock.creator, lock.policy, lock.totalDeposited, lock.totalReleased⟩

namespace PassportVaultState

def snapshot (s : PassportVaultState) : PassportVaultStateSnapshot where
  nextLockId := s.nextLockId
  locks := s.locks.values.map (·.snapshot)
  consumedClaims := s.consumedClaims.keys
  totalDeposited := s.totalDeposited
  totalReleased := s.totalReleased
  claimCount := s.claimCount

/-- What `restore` has read and added up so far. -/
structure Restored where
  locks : OrderedMap VaultLockId PassportVaultLock
  (totalDeposited totalReleased : U128)

def restoreLock (acc : Restored) (expectedId : ℕ) (lock : PassportVaultLockSnapshot) :
    Except PassportVaultError Restored :=
  if lock.id.value ≠ UInt64.ofNat expectedId ∨ lock.totalDeposited < lock.totalReleased then
    .error .invalidState
  else
    match acc.totalDeposited.checkedAdd lock.totalDeposited,
        acc.totalReleased.checkedAdd lock.totalReleased with
    | some totalDeposited, some totalReleased =>
      if acc.locks.contains lock.id then .error .invalidState
      else .ok ⟨acc.locks.insert lock.id lock.lock, totalDeposited, totalReleased⟩
    | _, _ => .error .invalidState

def restoreLocks (acc : Restored) (expectedId : ℕ) :
    List PassportVaultLockSnapshot → Except PassportVaultError Restored
  | [] => .ok acc
  | lock :: rest => do
    let acc ← restoreLock acc expectedId lock
    restoreLocks acc (expectedId + 1) rest

def restoreClaims (locks : OrderedMap VaultLockId PassportVaultLock)
    (consumed : OrderedMap ConsumedClaim Unit) :
    List ConsumedClaim → Except PassportVaultError (OrderedMap ConsumedClaim Unit)
  | [] => .ok consumed
  | claim :: rest =>
    if !locks.contains claim.lockId || consumed.contains claim then .error .invalidState
    else restoreClaims locks (consumed.insert claim ()) rest

/-- The totals of a snapshot must be those of its locks. -/
def restore (snapshot : PassportVaultStateSnapshot) :
    Except PassportVaultError PassportVaultState := do
  Result.rejectIf (maxVaultLocks < snapshot.locks.length ||
    maxVaultConsumedClaims < snapshot.consumedClaims.length ||
    snapshot.claimCount ≠ UInt64.ofNat snapshot.consumedClaims.length ||
    snapshot.nextLockId ≠ UInt64.ofNat snapshot.locks.length) .invalidState
  let restored ← restoreLocks ⟨.empty, 0, 0⟩ 0 snapshot.locks
  Result.rejectIf (restored.totalDeposited ≠ snapshot.totalDeposited ||
    restored.totalReleased ≠ snapshot.totalReleased ||
    restored.totalDeposited < restored.totalReleased) .invalidState
  let consumed ← restoreClaims restored.locks .empty snapshot.consumedClaims
  return {
    nextLockId := snapshot.nextLockId
    locks := restored.locks
    consumedClaims := consumed
    totalDeposited := restored.totalDeposited
    totalReleased := restored.totalReleased
    claimCount := snapshot.claimCount }

end PassportVaultState

/-! ## Operations -/

abbrev VaultM := Method PassportVaultState PassportVaultError

namespace PassportVaultState

/-- A lock may be created empty. -/
def createLock (creator : VaultActorId) (policy : PassportVaultPolicy) (initialAmount : U128) :
    VaultM VaultLockId := do
  let self ← get
  failIf (maxVaultLocks ≤ self.locks.size) .capacityExceeded
  let id : VaultLockId := ⟨self.nextLockId⟩
  let nextLockId ← okOr (checkedAdd64 self.nextLockId 1) .overflow
  let totalDeposited ← okOr (self.totalDeposited.checkedAdd initialAmount) .overflow
  let lock : PassportVaultLock := ⟨id, creator, policy, initialAmount, 0⟩
  modify fun self => { self with locks := self.locks.insert id lock }
  modify fun self => { self with nextLockId := nextLockId }
  modify fun self => { self with totalDeposited := totalDeposited }
  return id

/-- Only the creator of a lock adds to it. -/
def deposit (actor : VaultActorId) (lockId : VaultLockId) (amount : U128) : VaultM Unit := do
  let self ← get
  failIf (amount = 0) .invalidAmount
  let nextTotal ← okOr (self.totalDeposited.checkedAdd amount) .overflow
  let lock ← okOr (self.locks.find? lockId) .lockNotFound
  failIf (lock.creator ≠ actor) .notLockCreator
  let totalDeposited ← okOr (lock.totalDeposited.checkedAdd amount) .overflow
  modify fun self => { self with
    locks := self.locks.insert lockId { lock with totalDeposited := totalDeposited } }
  modify fun self => { self with totalDeposited := nextTotal }

def withdraw (actor : VaultActorId) (lockId : VaultLockId) (amount : U128) : VaultM U128 := do
  let self ← get
  failIf (amount = 0) .invalidAmount
  let nextTotal ← okOr (self.totalReleased.checkedAdd amount) .overflow
  let lock ← okOr (self.locks.find? lockId) .lockNotFound
  failIf (lock.creator ≠ actor) .notLockCreator
  failIf (lock.remaining < amount) .insufficientLockBalance
  let totalReleased ← okOr (lock.totalReleased.checkedAdd amount) .overflow
  let lock := { lock with totalReleased := totalReleased }
  modify fun self => { self with locks := self.locks.insert lockId lock }
  modify fun self => { self with totalReleased := nextTotal }
  return lock.remaining

/-- Whoever presents the credential claims, once per lock. -/
def claim (lockId : VaultLockId) (credential : CredentialFingerprint) (amount : U128)
    (currentDay : UInt32) : VaultM PassportVaultClaimReceipt := do
  let self ← get
  failIf (amount = 0 ∨ currentDay = 0) .invalidAmount
  failIf (self.consumedClaims.contains ⟨lockId, credential⟩) .credentialAlreadyClaimed
  failIf (maxVaultConsumedClaims ≤ self.consumedClaims.size) .capacityExceeded
  let nextTotal ← okOr (self.totalReleased.checkedAdd amount) .overflow
  let nextCount ← okOr (checkedAdd64 self.claimCount 1) .overflow
  let lock ← okOr (self.locks.find? lockId) .lockNotFound
  failIf (lock.policy.maximumClaimAmount < amount) .claimExceedsMaximum
  failIf (lock.remaining < amount) .insufficientLockBalance
  let totalReleased ← okOr (lock.totalReleased.checkedAdd amount) .overflow
  let lock := { lock with totalReleased := totalReleased }
  modify fun self => { self with locks := self.locks.insert lockId lock }
  modify fun self => { self with
    consumedClaims := self.consumedClaims.insert ⟨lockId, credential⟩ () }
  modify fun self => { self with totalReleased := nextTotal }
  modify fun self => { self with claimCount := nextCount }
  return ⟨lockId, amount, currentDay, lock.remaining⟩

end PassportVaultState

inductive Operation
  | createLock (creator : VaultActorId) (policy : PassportVaultPolicy) (initialAmount : U128)
  | deposit (actor : VaultActorId) (lockId : VaultLockId) (amount : U128)
  | withdraw (actor : VaultActorId) (lockId : VaultLockId) (amount : U128)
  | claim (lockId : VaultLockId) (credential : CredentialFingerprint) (amount : U128)
      (currentDay : UInt32)

inductive Receipt
  | created (id : VaultLockId)
  | deposited
  | withdrawn (remaining : U128)
  | claimed (receipt : PassportVaultClaimReceipt)
  deriving DecidableEq

def Operation.perform : Operation → VaultM Receipt
  | .createLock creator policy amount =>
    .created <$> PassportVaultState.createLock creator policy amount
  | .deposit actor lockId amount =>
    (fun _ => .deposited) <$> PassportVaultState.deposit actor lockId amount
  | .withdraw actor lockId amount => .withdrawn <$> PassportVaultState.withdraw actor lockId amount
  | .claim lockId credential amount currentDay =>
    .claimed <$> PassportVaultState.claim lockId credential amount currentDay

end Oxid.PassportVault
