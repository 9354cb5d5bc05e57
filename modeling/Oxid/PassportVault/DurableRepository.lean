import Oxid.PassportVault.Operations
import Oxid.Text

/-!
# The stored vault

`durable_repository.rs` keeps the vault as a document of decimal and lower-case hexadecimal
texts.  Each reader is described by an equivalence with its writer.
-/

namespace Oxid.PassportVault

open Foundation Text Result List PassportVaultState

inductive PassportVaultRepositoryError
  | unavailable | integrity
  deriving DecidableEq

def schemaVersion : UInt32 := 1

/-! ## The document -/

structure StoredLock where
  (lockId creatorProfileId : String)
  minimumAgeYears : UInt8
  (requiredIssuingStateHex requiredDocumentNumberHex : Option String)
  (maximumClaimAmount verifierChallengeHex totalDeposited totalReleased : String)

structure StoredConsumedClaim where
  (lockId credentialFingerprintHex : String)

structure StoreDocument where
  schemaVersion : UInt32
  nextLockId : String
  locks : List StoredLock
  consumedClaims : List StoredConsumedClaim
  (totalDeposited totalReleased claimCount : String)

open StoreDocument

def decimal (n : ℕ) : String := String.ofList (Nat.toDigits 10 n)

def hex (bytes : Bytes32) : String := String.ofList (hexEncode bytes.bytes)

def StoredLock.ofSnapshot (lock : PassportVaultLockSnapshot) : StoredLock where
  lockId := decimal lock.id.value.toNat
  creatorProfileId := lock.creator.value
  minimumAgeYears := lock.policy.minimumAgeYears
  requiredIssuingStateHex := lock.policy.requiredIssuingState.map hex
  requiredDocumentNumberHex := lock.policy.requiredDocumentNumber.map hex
  maximumClaimAmount := decimal lock.policy.maximumClaimAmount.val
  verifierChallengeHex := hex lock.policy.verifierChallengeHash
  totalDeposited := decimal lock.totalDeposited.val
  totalReleased := decimal lock.totalReleased.val

def StoredConsumedClaim.ofClaim (claim : ConsumedClaim) : StoredConsumedClaim where
  lockId := decimal claim.lockId.value.toNat
  credentialFingerprintHex := hex claim.credential.bytes

def StoreDocument.ofSnapshot (snapshot : PassportVaultStateSnapshot) : StoreDocument where
  schemaVersion := PassportVault.schemaVersion
  nextLockId := decimal snapshot.nextLockId.toNat
  locks := snapshot.locks.map .ofSnapshot
  consumedClaims := snapshot.consumedClaims.map .ofClaim
  totalDeposited := decimal snapshot.totalDeposited.val
  totalReleased := decimal snapshot.totalReleased.val
  claimCount := decimal snapshot.claimCount.toNat

def StoreDocument.ofState (state : PassportVaultState) : StoreDocument :=
  .ofSnapshot state.snapshot

/-! ## Reading it -/

/-- The common part of `parse_u64` and `parse_u128`: a canonical decimal text below the
bound.  The source looks at bytes; a text with another character than a digit is
rejected either way. -/
def parseDecimal (bound : ℕ) (value : String) : Except PassportVaultRepositoryError ℕ := do
  Result.rejectIf (value.toList.isEmpty ||
    (1 < value.toList.length && value.toList.head? == some '0') ||
    !value.toList.all Char.isDigit) .integrity
  -- `str::parse` fails on overflow.
  Result.rejectIf (bound ≤ Nat.ofDigitChars 10 value.toList 0) .integrity
  return Nat.ofDigitChars 10 value.toList 0

def parseU64 (value : String) : Except PassportVaultRepositoryError UInt64 := do
  return UInt64.ofNat (← parseDecimal (2 ^ 64) value)

def parseU128 (value : String) : Except PassportVaultRepositoryError U128 := do
  return Fin.ofNat (2 ^ 128) (← parseDecimal (2 ^ 128) value)

def parseHex32 (value : String) : Except PassportVaultRepositoryError Bytes32 := do
  Result.rejectIf (value.toList.length != 64 || !value.toList.all isLowerHex) .integrity
  match hexDecode value.toList with
  | some bytes => if h : bytes.length = 32 then return ⟨bytes, h⟩ else .error .integrity
  | none => .error .integrity

def lockFromRecord (stored : StoredLock) :
    Except PassportVaultRepositoryError PassportVaultLockSnapshot := do
  let issuing ← stored.requiredIssuingStateHex.mapM parseHex32
  let document ← stored.requiredDocumentNumberHex.mapM parseHex32
  let maximum ← parseU128 stored.maximumClaimAmount
  let challenge ← parseHex32 stored.verifierChallengeHex
  let policy ← (PassportVaultPolicy.new stored.minimumAgeYears issuing document maximum
    challenge).mapError fun _ => .integrity
  let lockId ← parseU64 stored.lockId
  let creator ← (VaultActorId.parse stored.creatorProfileId).mapError fun _ => .integrity
  let totalDeposited ← parseU128 stored.totalDeposited
  let totalReleased ← parseU128 stored.totalReleased
  return ⟨⟨lockId⟩, creator, policy, totalDeposited, totalReleased⟩

def claimFromRecord (stored : StoredConsumedClaim) :
    Except PassportVaultRepositoryError ConsumedClaim := do
  let lockId ← parseU64 stored.lockId
  let bytes ← parseHex32 stored.credentialFingerprintHex
  let credential ← (CredentialFingerprint.new bytes).mapError fun _ => .integrity
  return ⟨⟨lockId⟩, credential⟩

def stateFromDocument (document : StoreDocument) :
    Except PassportVaultRepositoryError PassportVaultState := do
  Result.rejectIf (document.schemaVersion ≠ schemaVersion ||
    maxVaultLocks < document.locks.length ||
    maxVaultConsumedClaims < document.consumedClaims.length) .integrity
  let locks ← document.locks.mapM lockFromRecord
  let consumedClaims ← document.consumedClaims.mapM claimFromRecord
  let nextLockId ← parseU64 document.nextLockId
  let totalDeposited ← parseU128 document.totalDeposited
  let totalReleased ← parseU128 document.totalReleased
  let claimCount ← parseU64 document.claimCount
  (PassportVaultState.restore
    ⟨nextLockId, locks, consumedClaims, totalDeposited, totalReleased, claimCount⟩).mapError
    fun _ => .integrity

section Fields
variable {value : String}

theorem eq_ofList_iff {cs} : value = String.ofList cs ↔ value.toList = cs := by
  constructor
  · rintro rfl
    exact String.toList_ofList
  · intro h
    rw [← h, String.ofList_toList]

theorem parseDecimal_ok_iff {bound n} :
    parseDecimal bound value = .ok n ↔ n < bound ∧ value = decimal n := by
  have hcanonical : (value.toList.isEmpty ||
      (1 < value.toList.length && value.toList.head? == some '0') ||
      !value.toList.all Char.isDigit) = false ↔ CanonicalDecimal value.toList := by
    constructor
    · intro h
      simp only [Bool.or_eq_false_iff, Bool.not_eq_false', all_eq_true] at h
      exact ⟨by simpa using h.1.1, by simpa using h.1.2, h.2⟩
    · intro h
      have hleading := h.leading
      simp only [Bool.or_eq_false_iff, Bool.not_eq_false', all_eq_true]
      exact ⟨⟨by simpa using h.nonempty, by simpa using hleading⟩, h.digits⟩
  simp only [parseDecimal, bind_ok_iff, rejectIf_ok_iff, exists_const, hcanonical,
    decide_eq_false_iff_not, Nat.not_le]
  rw [decimal, eq_ofList_iff, ← canonicalDecimal_iff]
  constructor
  · rintro ⟨hdecimal, hlt, heq⟩
    cases heq
    exact ⟨hlt, hdecimal, rfl⟩
  · rintro ⟨hlt, hdecimal, rfl⟩
    exact ⟨hdecimal, hlt, rfl⟩

theorem parseU64_ok_iff (value : String) (n : UInt64) :
    parseU64 value = .ok n ↔ value = decimal n.toNat := by
  simp only [parseU64, bind_ok_iff, parseDecimal_ok_iff]
  constructor
  · rintro ⟨m, ⟨hlt, rfl⟩, heq⟩
    cases heq
    rw [UInt64.toNat_ofNat_of_lt' hlt]
  · rintro rfl
    refine ⟨n.toNat, ⟨n.toNat_lt, rfl⟩, ?_⟩
    rw [UInt64.ofNat_toNat]
    rfl

theorem parseU128_ok_iff (value : String) (n : U128) :
    parseU128 value = .ok n ↔ value = decimal n.val := by
  simp only [parseU128, bind_ok_iff, parseDecimal_ok_iff]
  constructor
  · rintro ⟨m, ⟨hlt, rfl⟩, heq⟩
    cases heq
    rw [Fin.val_ofNat, Nat.mod_eq_of_lt hlt]
  · rintro rfl
    refine ⟨n.val, ⟨n.isLt, rfl⟩, ?_⟩
    rw [Fin.ofNat_val_eq_self]
    rfl

theorem parseHex32_ok_iff (value : String) (bytes : Bytes32) :
    parseHex32 value = .ok bytes ↔ value = hex bytes := by
  simp only [parseHex32, bind_ok_iff, rejectIf_ok_iff, exists_const,
    Bool.or_eq_false_iff, Bool.not_eq_false', bne_eq_false_iff_eq, all_eq_true]
  rw [hex, eq_ofList_iff]
  constructor
  · rintro ⟨⟨-, hlower⟩, hok⟩
    split at hok
    · rename_i decoded hdecode
      split_ifs at hok with hlength
      cases hok
      exact (hexDecode_eq_some_iff hlower).mp hdecode
    · cases hok
  · intro heq
    have hlower : ∀ c ∈ value.toList, isLowerHex c := by
      rw [heq]
      intro c hc
      exact isLowerHex_of_mem_hexEncode hc
    have hdecode := (hexDecode_eq_some_iff hlower).mpr heq
    refine ⟨⟨?_, hlower⟩, ?_⟩
    · rw [heq, length_hexEncode, bytes.length_eq]
    · rw [hdecode]
      simp only [bytes.length_eq, dif_pos]
      rfl

end Fields

theorem lockFromRecord_ok_iff (stored : StoredLock) (lock : PassportVaultLockSnapshot) :
    lockFromRecord stored = .ok lock ↔ stored = .ofSnapshot lock := by
  simp only [lockFromRecord, bind_ok_iff, mapError_ok_iff, parseU64_ok_iff,
    parseU128_ok_iff, parseHex32_ok_iff, mapM_ok_iff_map parseHex32_ok_iff,
    PassportVaultPolicy.new_ok_iff, VaultActorId.parse_ok_iff]
  constructor
  · rintro ⟨issuing, hissuing, document, hdocument, maximum, hmaximum, challenge, hchallenge,
      policy, ⟨hage, rfl, rfl, rfl, rfl⟩, lockId, hlockId, creator, hcreator, deposited, hdeposited,
      released, hreleased, heq⟩
    cases heq
    cases stored
    simp_all [StoredLock.ofSnapshot]
  · rintro rfl
    exact ⟨_, rfl, _, rfl, _, rfl, _, rfl, _, ⟨rfl, rfl, rfl, rfl, rfl⟩, _, rfl, _, rfl, _, rfl, _,
      rfl, rfl⟩

theorem claimFromRecord_ok_iff (stored : StoredConsumedClaim) (claim : ConsumedClaim) :
    claimFromRecord stored = .ok claim ↔ stored = .ofClaim claim := by
  simp only [claimFromRecord, bind_ok_iff, mapError_ok_iff, parseU64_ok_iff,
    parseHex32_ok_iff, CredentialFingerprint.new_ok_iff]
  constructor
  · rintro ⟨lockId, hlockId, bytes, hbytes, credential, rfl, heq⟩
    cases heq
    cases stored
    simp_all [StoredConsumedClaim.ofClaim]
  · rintro rfl
    exact ⟨_, rfl, _, rfl, _, rfl, rfl⟩

theorem stateFromDocument_ok_iff {document s} : stateFromDocument document = .ok s ↔
      ∃ snapshot, document = .ofSnapshot snapshot ∧ restore snapshot = .ok s := by
  simp only [stateFromDocument, bind_ok_iff, rejectIf_ok_iff, exists_const,
    mapError_ok_iff, parseU64_ok_iff, parseU128_ok_iff,
    list_mapM_ok_iff lockFromRecord_ok_iff, list_mapM_ok_iff claimFromRecord_ok_iff,
    Bool.or_eq_false_iff, decide_eq_false_iff_not, Nat.not_lt, ne_eq, not_not]
  constructor
  · rintro ⟨⟨⟨hversion, -⟩, -⟩, locks, hlocks, claims, hclaims, next, hnext, deposited, hdeposited,
      released, hreleased, count, hcount, hrestore⟩
    refine ⟨⟨next, locks, claims, deposited, released, count⟩, ?_, hrestore⟩
    cases document
    simp_all [ofSnapshot]
  · rintro ⟨snapshot, rfl, hrestore⟩
    obtain ⟨haccounted, hmatches⟩ := restore_ok_iff.mp hrestore
    refine ⟨⟨⟨rfl, ?_⟩, ?_⟩, _, rfl, _, rfl, _, rfl, _, rfl, _, rfl, _, rfl, hrestore⟩
    · rw [ofSnapshot, length_map, ← hmatches.length_locks]
      exact haccounted.lockRoom
    · rw [ofSnapshot, length_map, ← hmatches.length_consumedClaims]
      exact haccounted.claimRoom

/-! ## Nothing is lost -/

/-- **Nothing is lost.**  The document of every vault a run leads to is read back as that vault; and
a document that is read has what is written for its vault, with the claims in some order. -/
theorem document_lossless :
    (∀ start ops s, Started start → Transition.run stepOperation start ops = some s →
      stateFromDocument (.ofState s) = .ok s) ∧ ∀ document s, stateFromDocument document = .ok s →
      (ofState s).schemaVersion = document.schemaVersion ∧
      (ofState s).nextLockId = document.nextLockId ∧ (ofState s).locks = document.locks ∧
      (ofState s).consumedClaims.Perm document.consumedClaims ∧
      (ofState s).totalDeposited = document.totalDeposited ∧
      (ofState s).totalReleased = document.totalReleased ∧
      (ofState s).claimCount = document.claimCount := by
  constructor
  · intro start ops s hstart hrun
    have haccounted := accounted_of_run hstart hrun
    exact stateFromDocument_ok_iff.mpr ⟨s.snapshot, rfl,
      restore_ok_iff.mpr ⟨haccounted, s.matches_snapshot⟩⟩
  · intro document s hread
    obtain ⟨snapshot, rfl, hrestore⟩ := stateFromDocument_ok_iff.mp hread
    obtain ⟨-, h⟩ := restore_ok_iff.mp hrestore
    refine ⟨rfl, ?_, ?_, h.consumedClaims.map _, ?_, ?_, ?_⟩
    · exact congrArg (fun n : UInt64 => decimal n.toNat) h.nextLockId
    · exact congrArg (map StoredLock.ofSnapshot) h.locks
    · exact congrArg (fun n : U128 => decimal n.val) h.totalDeposited
    · exact congrArg (fun n : U128 => decimal n.val) h.totalReleased
    · exact congrArg (fun n : UInt64 => decimal n.toNat) h.claimCount

open Sample

def moreOperations : List Operation :=
  operations ++ [.claim ⟨0⟩ ⟨⟨List.replicate 32 8, by simp⟩, by decide⟩ 20 1]

def claimedTwice : PassportVaultState :=
  (Transition.run stepOperation .default moreOperations).getD .default

def reordered : StoreDocument :=
  { StoreDocument.ofState claimedTwice with
    consumedClaims := (StoreDocument.ofState claimedTwice).consumedClaims.reverse }

theorem document_lossless_claimed : Started .default ∧
    Transition.run stepOperation .default moreOperations = some claimedTwice ∧
    stateFromDocument (.ofState claimedTwice) = .ok claimedTwice ∧
    stateFromDocument reordered = .ok claimedTwice ∧
    (ofState claimedTwice).consumedClaims.Perm reordered.consumedClaims := by
  have hrun : Transition.run stepOperation .default moreOperations = some claimedTwice := rfl
  have hread := document_lossless.1 .default moreOperations _ (.inl rfl) hrun
  have hreordered : stateFromDocument reordered = .ok claimedTwice := by
    decide +kernel
  exact ⟨.inl rfl, hrun, hread, hreordered, (document_lossless.2 _ _ hreordered).2.2.2.1⟩

end Oxid.PassportVault
