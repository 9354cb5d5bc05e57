import Oxid.PassportVault.Contract
import Oxid.PassportVault.DurableRepository

/-!
# Reading the state of the contract

`contract_state.rs` takes a serialized contract state apart by position and returns a view of
decimal and hexadecimal texts.  What the decoder needs of the ledger's encoding is
`LedgerEncoding`, with the round trips as fields.
-/

namespace Oxid.PassportVault
open Foundation Result Text Contract OrderedMap List UInt64

inductive PassportVaultContractStateError
  | unavailable
  | invalidEncoding
  | layoutMismatch
  | unsupportedVersion
  | capacityExceeded
  | integrity

structure PassportVaultLockView where
  lockId : UInt64
  creatorProfileId : String
  minimumAgeYears : UInt8
  (requiredIssuingState requiredDocumentNumber : Option String)
  (maximumClaimAmount totalDeposited totalReleased remaining verifierChallengeHex : String)

structure PassportVaultChainAnchorView where
  (contractAddressHex transactionHashHex actionBlockHashHex : String)
  actionBlockHeight : UInt64
  finalizedHeadHashHex : String
  (finalizedHeadHeight finalizedHeadTimeSeconds : UInt64)
  stateAuthentication : String

structure PassportVaultContractView where
  version : UInt32
  (trustedIssuerDidContractHex trustedIssuerMethodHex trustedIssuerPublicKeyHashHex : String)
  consumedClaimCount : UInt64
  lastVerifiedCurrentDay : UInt32
  lastVerifiedThresholdYears : UInt8
  (lastReleasedAmount lastBusinessDecision : String)

structure PassportVaultView where
  source : String
  chainAnchor : Option PassportVaultChainAnchorView
  contract : Option PassportVaultContractView
  locks : List PassportVaultLockView
  (totalDeposited totalReleased totalLocked : String)
  claimCount : UInt64

structure AlignedValue (A Atom : Type) where
  alignment : List A
  value : List Atom
  deriving DecidableEq

inductive StateValue (A Atom : Type)
  | null
  | cell (value : AlignedValue A Atom)
  | map (entries : List (AlignedValue A Atom × StateValue A Atom))
  | array (fields : List (StateValue A Atom))

structure AtomCodec (A Atom α : Type) where
  alignment : A
  encode : α → Atom
  decode : Atom → Option α
  decode_encode : ∀ a, decode (encode a) = some a

structure LedgerEncoding (A Atom : Type) where
  u8 : AtomCodec A Atom UInt8
  u32 : AtomCodec A Atom UInt32
  u64 : AtomCodec A Atom UInt64
  u128 : AtomCodec A Atom U128
  bool : AtomCodec A Atom Bool
  bytes32 : AtomCodec A Atom Bytes32
  taggedDeserialize : List UInt8 → Option (StateValue A Atom × ℕ)

section Decoder
variable {A Atom α : Type} [DecidableEq A] [DecidableEq Atom]

def AtomCodec.value (codec : AtomCodec A Atom α) (a : α) : AlignedValue A Atom :=
  ⟨[codec.alignment], [codec.encode a]⟩

def decodeAtom (codec : AtomCodec A Atom α) (atom : Atom) :
    Except PassportVaultContractStateError α :=
  okOr (codec.decode atom) .layoutMismatch

def cell : Option (StateValue A Atom) → Except PassportVaultContractStateError (AlignedValue A Atom)
  | some (.cell value) => .ok value
  | _ => .error .layoutMismatch

def decodeCell (codec : AtomCodec A Atom α) (value : Option (StateValue A Atom)) :
    Except PassportVaultContractStateError α := do
  let value ← cell value
  rejectIf (value.alignment ≠ [codec.alignment]) .layoutMismatch
  match value.value with
  | [atom] => decodeAtom codec atom
  | _ => .error .layoutMismatch

def decodeBytes32 (encoding : LedgerEncoding A Atom) (value : Option (StateValue A Atom)) :
    Except PassportVaultContractStateError Bytes32 :=
  decodeCell encoding.bytes32 value

def decodeTwoBytes32 (encoding : LedgerEncoding A Atom) (value : Option (StateValue A Atom)) :
    Except PassportVaultContractStateError (Bytes32 × Bytes32) := do
  let value ← cell value
  rejectIf (value.alignment ≠ [encoding.bytes32.alignment, encoding.bytes32.alignment])
    .layoutMismatch
  match value.value with
  | [first, second] => do
    let first ← decodeAtom encoding.bytes32 first
    let second ← decodeAtom encoding.bytes32 second
    return (first, second)
  | _ => .error .layoutMismatch

def lockRecordAlignment (encoding : LedgerEncoding A Atom) : List A :=
  [encoding.bytes32.alignment, encoding.u8.alignment, encoding.bool.alignment,
    encoding.bytes32.alignment, encoding.bool.alignment, encoding.bytes32.alignment,
    encoding.u128.alignment, encoding.bytes32.alignment, encoding.u128.alignment,
    encoding.u128.alignment]

def decodeLockRecord (encoding : LedgerEncoding A Atom) (value : Option (StateValue A Atom)) :
    Except PassportVaultContractStateError LockRecord := do
  let value ← cell value
  rejectIf (value.alignment ≠ lockRecordAlignment encoding) .layoutMismatch
  match value.value with
  | [atom₀, atom₁, atom₂, atom₃, atom₄, atom₅, atom₆, atom₇, atom₈, atom₉] => do
    let locker ← decodeAtom encoding.bytes32 atom₀
    let minimumAgeYears ← decodeAtom encoding.u8 atom₁
    let requireIssuingState ← decodeAtom encoding.bool atom₂
    let requiredIssuingState ← decodeAtom encoding.bytes32 atom₃
    let requireDocumentNumber ← decodeAtom encoding.bool atom₄
    let requiredDocumentNumber ← decodeAtom encoding.bytes32 atom₅
    let maxClaimAmount ← decodeAtom encoding.u128 atom₆
    let verifierChallengeHash ← decodeAtom encoding.bytes32 atom₇
    let totalDeposited ← decodeAtom encoding.u128 atom₈
    let totalReleased ← decodeAtom encoding.u128 atom₉
    return {
      locker := locker
      minimumAgeYears := minimumAgeYears
      requireIssuingState := requireIssuingState
      requiredIssuingState := requiredIssuingState
      requireDocumentNumber := requireDocumentNumber
      requiredDocumentNumber := requiredDocumentNumber
      maxClaimAmount := maxClaimAmount
      verifierChallengeHash := verifierChallengeHash
      totalDeposited := totalDeposited
      totalReleased := totalReleased }
  | _ => .error .layoutMismatch

def isAsciiGraphic (byte : UInt8) : Bool := 0x21 ≤ byte && byte ≤ 0x7e

def policyValue (value : Bytes32) : String :=
  let shown := value.bytes.rdropWhile (· = 0)
  if shown.all fun byte => isAsciiGraphic byte || byte = 0x20 then
    String.ofList (shown.map fun byte => Char.ofNat byte.toNat)
  else "0x" ++ hex value

def lockView (lockId : UInt64) (rec : LockRecord) (remaining : U128) : PassportVaultLockView where
  lockId := lockId
  creatorProfileId := "coinpk:" ++ hex rec.locker
  minimumAgeYears := rec.minimumAgeYears
  requiredIssuingState :=
    if rec.requireIssuingState then some (policyValue rec.requiredIssuingState) else none
  requiredDocumentNumber :=
    if rec.requireDocumentNumber then some (policyValue rec.requiredDocumentNumber) else none
  maximumClaimAmount := decimal rec.maxClaimAmount.val
  totalDeposited := decimal rec.totalDeposited.val
  totalReleased := decimal rec.totalReleased.val
  remaining := decimal remaining.val
  verifierChallengeHex := hex rec.verifierChallengeHash

structure DecodedLocks where
  views : List PassportVaultLockView
  (summedDeposited summedReleased : U128)

def mapGet (entries : List (AlignedValue A Atom × StateValue A Atom))
    (key : AlignedValue A Atom) : Option (StateValue A Atom) :=
  (entries.find? fun entry => entry.1 = key).map Prod.snd

def decodeLock (encoding : LedgerEncoding A Atom)
    (locks : List (AlignedValue A Atom × StateValue A Atom)) (decoded : DecodedLocks)
    (lockId : UInt64) : Except PassportVaultContractStateError DecodedLocks := do
  let value ← okOr (mapGet locks (encoding.u64.value lockId)) .layoutMismatch
  let rec ← decodeLockRecord encoding (some value)
  let remaining ← okOr (rec.totalDeposited.checkedSub rec.totalReleased) .integrity
  let summedDeposited ← okOr (decoded.summedDeposited.checkedAdd rec.totalDeposited) .integrity
  let summedReleased ← okOr (decoded.summedReleased.checkedAdd rec.totalReleased) .integrity
  return ⟨decoded.views ++ [lockView lockId rec remaining], summedDeposited, summedReleased⟩

def decodeLocks (encoding : LedgerEncoding A Atom)
    (locks : List (AlignedValue A Atom × StateValue A Atom)) (lockCount : UInt64) :
    Except PassportVaultContractStateError DecodedLocks :=
  ((List.range lockCount.toNat).map UInt64.ofNat).foldlM (decodeLock encoding locks) ⟨[], 0, 0⟩

def passportVaultContractVersion : UInt32 := 1

def passportVaultLedgerFields : ℕ := 15

def maxPassportVaultLocks : UInt64 := 4096

def ledgerFields : StateValue A Atom →
    Except PassportVaultContractStateError (List (StateValue A Atom))
  | .array fields =>
    if fields.length = passportVaultLedgerFields then .ok fields else .error .layoutMismatch
  | _ => .error .layoutMismatch

def mapEntries : Option (StateValue A Atom) →
    Except PassportVaultContractStateError (List (AlignedValue A Atom × StateValue A Atom))
  | some (.map entries) => .ok entries
  | _ => .error .layoutMismatch

def businessDecision : UInt8 → Except PassportVaultContractStateError String
  | 0 => .ok "no_decision"
  | 1 => .ok "released"
  | _ => .error .layoutMismatch

def decodeFields (encoding : LedgerEncoding A Atom) (fields : List (StateValue A Atom)) :
    Except PassportVaultContractStateError PassportVaultView := do
  let version ← decodeCell encoding.u32 fields[0]?
  rejectIf (version ≠ passportVaultContractVersion) .unsupportedVersion
  let issuer ← decodeTwoBytes32 encoding fields[2]?
  let issuerKeyHash ← decodeBytes32 encoding fields[3]?
  let lockCount ← decodeCell encoding.u64 fields[5]?
  rejectIf (maxPassportVaultLocks < lockCount) .capacityExceeded
  let locks ← mapEntries fields[4]?
  rejectIf (locks.length ≠ lockCount.toNat) .layoutMismatch
  let consumed ← mapEntries fields[6]?
  rejectIf (2 ^ 64 ≤ consumed.length) .capacityExceeded
  let consumedClaimCount := UInt64.ofNat consumed.length
  let decoded ← decodeLocks encoding locks lockCount
  let totalDeposited ← decodeCell encoding.u128 fields[7]?
  let totalReleased ← decodeCell encoding.u128 fields[8]?
  let totalLocked ← okOr (totalDeposited.checkedSub totalReleased) .integrity
  rejectIf (totalDeposited ≠ decoded.summedDeposited || totalReleased ≠ decoded.summedReleased)
    .integrity
  let claimCount ← decodeCell encoding.u64 fields[9]?
  rejectIf (claimCount ≠ consumedClaimCount) .integrity
  let lastDecision ← decodeCell encoding.u8 fields[14]?
  let lastBusinessDecision ← businessDecision lastDecision
  let _ ← decodeBytes32 encoding fields[10]?
  let lastVerifiedCurrentDay ← decodeCell encoding.u32 fields[11]?
  let lastVerifiedThresholdYears ← decodeCell encoding.u8 fields[12]?
  let lastReleasedAmount ← decodeCell encoding.u128 fields[13]?
  return {
    source := "pinned_contract_layout"
    chainAnchor := none
    contract := some {
      version := version
      trustedIssuerDidContractHex := hex issuer.1
      trustedIssuerMethodHex := hex issuer.2
      trustedIssuerPublicKeyHashHex := hex issuerKeyHash
      consumedClaimCount := consumedClaimCount
      lastVerifiedCurrentDay := lastVerifiedCurrentDay
      lastVerifiedThresholdYears := lastVerifiedThresholdYears
      lastReleasedAmount := decimal lastReleasedAmount.val
      lastBusinessDecision := lastBusinessDecision }
    locks := decoded.views
    totalDeposited := decimal totalDeposited.val
    totalReleased := decimal totalReleased.val
    totalLocked := decimal totalLocked.val
    claimCount := claimCount }

def decodeContractState (encoding : LedgerEncoding A Atom) (serializedContractState : List UInt8) :
    Except PassportVaultContractStateError PassportVaultView := do
  let state ← okOr (encoding.taggedDeserialize serializedContractState) .invalidEncoding
  rejectIf (state.2 ≠ serializedContractState.length) .invalidEncoding
  let fields ← ledgerFields state.1
  decodeFields encoding fields

end Decoder

section Encoding
variable {A Atom : Type}

def Contract.PassportVaultDecision.index : PassportVaultDecision → UInt8
  | .noDecision => 0
  | .released => 1

def Contract.VerificationMethodRef.value (encoding : LedgerEncoding A Atom)
    (issuer : VerificationMethodRef) : AlignedValue A Atom :=
  ⟨[encoding.bytes32.alignment, encoding.bytes32.alignment],
    [encoding.bytes32.encode issuer.didContractAddress, encoding.bytes32.encode issuer.methodId]⟩

def Contract.LockRecord.value (encoding : LedgerEncoding A Atom) (rec : LockRecord) :
    AlignedValue A Atom :=
  ⟨lockRecordAlignment encoding,
    [encoding.bytes32.encode rec.locker, encoding.u8.encode rec.minimumAgeYears,
      encoding.bool.encode rec.requireIssuingState,
      encoding.bytes32.encode rec.requiredIssuingState,
      encoding.bool.encode rec.requireDocumentNumber,
      encoding.bytes32.encode rec.requiredDocumentNumber,
      encoding.u128.encode rec.maxClaimAmount, encoding.bytes32.encode rec.verifierChallengeHash,
      encoding.u128.encode rec.totalDeposited, encoding.u128.encode rec.totalReleased]⟩

def lockEntries (encoding : LedgerEncoding A Atom) (locks : OrderedMap UInt64 LockRecord) :
    List (AlignedValue A Atom × StateValue A Atom) :=
  locks.entries.map fun entry => (encoding.u64.value entry.1, .cell (entry.2.value encoding))

def claimEntries (encoding : LedgerEncoding A Atom) (claims : OrderedMap Bytes32 Unit) :
    List (AlignedValue A Atom × StateValue A Atom) :=
  claims.keys.map fun nullifier => (encoding.bytes32.value nullifier, .null)

def Contract.Ledger.fields (encoding : LedgerEncoding A Atom) (ledger : Ledger) :
    List (StateValue A Atom) :=
  [ .cell (encoding.u32.value ledger.contractVersion),
    .cell (encoding.bytes32.value ledger.admin),
    .cell (ledger.trustedIssuer.value encoding),
    .cell (encoding.bytes32.value ledger.trustedIssuerPublicKeyHash),
    .map (lockEntries encoding ledger.locks),
    .cell (encoding.u64.value ledger.lockCount),
    .map (claimEntries encoding ledger.consumedClaims),
    .cell (encoding.u128.value ledger.totalDeposited),
    .cell (encoding.u128.value ledger.totalReleased),
    .cell (encoding.u64.value ledger.claimCount),
    .cell (encoding.bytes32.value ledger.lastVerifiedCredentialRoot),
    .cell (encoding.u32.value ledger.lastVerifiedCurrentDay),
    .cell (encoding.u8.value ledger.lastVerifiedThresholdYears),
    .cell (encoding.u128.value ledger.lastReleasedAmount),
    .cell (encoding.u8.value ledger.lastBusinessDecision.index)]

def Contract.Ledger.stateValue (encoding : LedgerEncoding A Atom) (ledger : Ledger) :
    StateValue A Atom :=
  .array (ledger.fields encoding)

def Contract.Ledger.view (ledger : Ledger) : PassportVaultView where
  source := "pinned_contract_layout"
  chainAnchor := none
  contract := some {
    version := ledger.contractVersion
    trustedIssuerDidContractHex := hex ledger.trustedIssuer.didContractAddress
    trustedIssuerMethodHex := hex ledger.trustedIssuer.methodId
    trustedIssuerPublicKeyHashHex := hex ledger.trustedIssuerPublicKeyHash
    consumedClaimCount := ledger.claimCount
    lastVerifiedCurrentDay := ledger.lastVerifiedCurrentDay
    lastVerifiedThresholdYears := ledger.lastVerifiedThresholdYears
    lastReleasedAmount := decimal ledger.lastReleasedAmount.val
    lastBusinessDecision :=
      match ledger.lastBusinessDecision with
      | .noDecision => "no_decision"
      | .released => "released" }
  locks := ledger.locks.entries.map fun entry =>
    lockView entry.1 entry.2 (entry.2.totalDeposited - entry.2.totalReleased)
  totalDeposited := decimal ledger.totalDeposited.val
  totalReleased := decimal ledger.totalReleased.val
  totalLocked := decimal (ledger.totalDeposited - ledger.totalReleased).val
  claimCount := ledger.claimCount

end Encoding

section Correctness
variable {A Atom α : Type}

@[simp] theorem decodeAtom_encode (codec : AtomCodec A Atom α) (a : α) :
    decodeAtom codec (codec.encode a) = .ok a := by
  rw [decodeAtom, codec.decode_encode]
  rfl

theorem AtomCodec.value_injective (codec : AtomCodec A Atom α) :
    Function.Injective codec.value := by
  intro a b h
  have hencode : codec.encode a = codec.encode b := by simpa [AtomCodec.value] using h
  have hdecode := codec.decode_encode a
  rw [hencode, codec.decode_encode, Option.some.injEq] at hdecode
  exact hdecode.symm

variable [DecidableEq A] {encoding : LedgerEncoding A Atom}

@[simp] theorem decodeCell_value (codec : AtomCodec A Atom α) (a : α) :
    decodeCell codec (some (.cell (codec.value a))) = .ok a := by
  simp [decodeCell, cell, AtomCodec.value, bind, Except.bind]

@[simp] theorem decodeTwoBytes32_value (issuer : VerificationMethodRef) :
    decodeTwoBytes32 encoding (some (.cell (issuer.value encoding))) =
      .ok (issuer.didContractAddress, issuer.methodId) := by
  simp [decodeTwoBytes32, cell, VerificationMethodRef.value, bind, Except.bind, pure, Except.pure]

@[simp] theorem decodeLockRecord_value (rec : LockRecord) :
    decodeLockRecord encoding (some (.cell (rec.value encoding))) = .ok rec := by
  simp [decodeLockRecord, cell, LockRecord.value, bind, Except.bind, pure, Except.pure]

@[simp] theorem businessDecision_index (decision : PassportVaultDecision) :
    businessDecision decision.index = .ok (match decision with
      | .noDecision => "no_decision"
      | .released => "released") := by
  cases decision <;> rfl

variable [DecidableEq Atom] {ledger : Ledger}

section
variable {locks : OrderedMap UInt64 LockRecord}

theorem mapGet_lockEntries {lockId rec} (hfound : locks.find? lockId = some rec) :
    mapGet (lockEntries encoding locks) (encoding.u64.value lockId) =
      some (.cell (rec.value encoding)) := by
  have key : ∀ l : List (UInt64 × LockRecord), findEntry lockId l = some rec →
      mapGet (l.map fun entry => (encoding.u64.value entry.1,
        StateValue.cell (entry.2.value encoding))) (encoding.u64.value lockId) =
        some (.cell (rec.value encoding)) := by
    intro l hl
    induction l with
    | nil => cases hl
    | cons entry l ih =>
      by_cases hid : lockId = entry.1
      · rw [findEntry, if_pos hid, Option.some.injEq] at hl
        simp [mapGet, hid, hl]
      · rw [findEntry, if_neg hid] at hl
        have hne : encoding.u64.value entry.1 ≠ encoding.u64.value lockId :=
          fun heq => hid (encoding.u64.value_injective heq).symm
        rw [map_cons, mapGet, find?_cons_of_neg (by simpa using hne)]
        exact ih hl
  exact key locks.entries hfound

theorem decodeLock_ok (encoding : LedgerEncoding A Atom) (decoded : DecodedLocks) {lockId rec}
    (deposited released : U128) (hfound : locks.find? lockId = some rec)
    (hcovered : rec.totalReleased ≤ rec.totalDeposited)
    (hdeposited : deposited.val = decoded.summedDeposited.val + rec.totalDeposited.val)
    (hreleased : released.val = decoded.summedReleased.val + rec.totalReleased.val) :
    decodeLock encoding (lockEntries encoding locks) decoded lockId =
      .ok ⟨decoded.views ++ [lockView lockId rec (rec.totalDeposited - rec.totalReleased)],
        deposited, released⟩ := by
  rw [decodeLock, mapGet_lockEntries hfound]
  simp only [okOr, Option.elim_some, bind, Except.bind, decodeLockRecord_value, pure, Except.pure,
    U128.checkedSub, if_pos hcovered, U128.checkedAdd_eq_some_iff.mpr hdeposited,
    U128.checkedAdd_eq_some_iff.mpr hreleased]

theorem foldlM_decodeLock {decoded deposited released} (l : List (UInt64 × LockRecord))
    (hfound : ∀ entry ∈ l, locks.find? entry.1 = some entry.2)
    (hcovered : ∀ entry ∈ l, entry.2.totalReleased ≤ entry.2.totalDeposited)
    (hdeposited : deposited.val =
      decoded.summedDeposited.val + (l.map fun entry => entry.2.totalDeposited.val).sum)
    (hreleased : released.val =
      decoded.summedReleased.val + (l.map fun entry => entry.2.totalReleased.val).sum) :
    (l.map Prod.fst).foldlM (decodeLock encoding (lockEntries encoding locks)) decoded =
      .ok ⟨decoded.views ++ l.map fun entry =>
        lockView entry.1 entry.2 (entry.2.totalDeposited - entry.2.totalReleased),
        deposited, released⟩ := by
  induction l generalizing decoded with
  | nil =>
    have hd : deposited = decoded.summedDeposited := Fin.ext (by simpa using hdeposited)
    have hr : released = decoded.summedReleased := Fin.ext (by simpa using hreleased)
    rw [hd, hr]
    simp [pure, Except.pure]
  | cons entry l ih =>
    rw [map_cons, sum_cons] at hdeposited hreleased
    have hroom := deposited.isLt
    have hroom' := released.isLt
    have hstep := decodeLock_ok encoding decoded
      ⟨decoded.summedDeposited.val + entry.2.totalDeposited.val, by omega⟩
      ⟨decoded.summedReleased.val + entry.2.totalReleased.val, by omega⟩
      (hfound entry mem_cons_self) (hcovered entry mem_cons_self) rfl rfl
    rw [map_cons, foldlM_cons, hstep, ok_bind]
    rw [ih (fun e he => hfound e (mem_cons_of_mem entry he))
      (fun e he => hcovered e (mem_cons_of_mem entry he))
      (by dsimp only; omega) (by dsimp only; omega)]
    simp

end

theorem keys_eq_range (h : Sound ledger) :
    ledger.locks.keys = (range ledger.lockCount.toNat).map ofNat := by
  have hnumbered : ledger.locks.keys.map toNat = range ledger.lockCount.toNat :=
    h.balanced.numbered
  rw [← hnumbered, map_map]
  have hid : ofNat ∘ toNat = id := by
    funext id
    exact UInt64.ofNat_toNat
  rw [hid, map_id]

theorem decodeLocks_ok (h : Sound ledger) :
    decodeLocks encoding (lockEntries encoding ledger.locks) ledger.lockCount =
      .ok ⟨ledger.view.locks, ledger.totalDeposited, ledger.totalReleased⟩ := by
  rw [decodeLocks, ← keys_eq_range h, OrderedMap.keys]
  have hentry : ∀ entry ∈ ledger.locks.entries, ledger.locks.find? entry.1 = some entry.2 :=
    fun entry hentry => find?_eq_some_iff.mpr hentry
  have hdeposited := h.balanced.credited
  have hreleased := h.balanced.debited
  rw [values, map_map] at hdeposited hreleased
  exact foldlM_decodeLock ledger.locks.entries hentry
    (fun entry hmem => h.balanced.covered entry.1 entry.2 (hentry entry hmem))
    (hdeposited.trans (Nat.zero_add _).symm) (hreleased.trans (Nat.zero_add _).symm)

theorem decodeFields_fields (h : Sound ledger) : decodeFields encoding (ledger.fields encoding) =
      if ledger.lockCount ≤ maxPassportVaultLocks then .ok ledger.view
      else .error .capacityExceeded := by
  have hlocks : (lockEntries encoding ledger.locks).length = ledger.lockCount.toNat := by
    rw [lockEntries, length_map]
    exact h.balanced.numbered.size_eq
  have hclaims : (claimEntries encoding ledger.consumedClaims).length =
      ledger.claimCount.toNat := by
    rw [claimEntries, length_map, length_keys, h.counted]
  have hcount := ledger.claimCount.toNat_lt
  have hcovered : ledger.totalReleased ≤ ledger.totalDeposited := h.balanced.debited_le
  simp only [decodeFields, Ledger.fields, getElem?_cons_zero, getElem?_cons_succ,
    decodeCell_value, decodeTwoBytes32_value, decodeBytes32, ok_bind, h.version, ne_eq, not_true,
    decide_false, passportVaultContractVersion, rejectIf_false, mapEntries, hlocks, hclaims]
  by_cases hroom : ledger.lockCount ≤ maxPassportVaultLocks
  · have hfree : ¬ maxPassportVaultLocks < ledger.lockCount := UInt64.not_lt.mpr hroom
    have hsmall : ¬ 2 ^ 64 ≤ ledger.claimCount.toNat := by omega
    rw [if_pos hroom]
    simp only [hfree, hsmall, decide_false, rejectIf_false, ok_bind, decodeLocks_ok h, okOr,
      U128.checkedSub, if_pos hcovered, Option.elim_some, UInt64.ofNat_toNat, not_true,
      Bool.or_false, businessDecision_index]
    rw [Ledger.view, h.version]
    rfl
  · rw [if_neg hroom, rejectIf, if_pos (by simpa using hroom)]
    rfl

theorem decodeContractState_stateValue {bytes} (h : Sound ledger)
    (hbytes : encoding.taggedDeserialize bytes = some (ledger.stateValue encoding, bytes.length)) :
    decodeContractState encoding bytes =
      if ledger.lockCount ≤ maxPassportVaultLocks then .ok ledger.view
      else .error .capacityExceeded := by
  have hfields : ledgerFields (ledger.stateValue encoding) = .ok (ledger.fields encoding) := rfl
  simp only [decodeContractState, hbytes, okOr, Option.elim_some, ok_bind, ne_eq, not_true,
    decide_false, rejectIf_false, hfields]
  exact decodeFields_fields h

end Correctness

/-! ## What a view tells -/

theorem hex_injective : Function.Injective hex := by
  intro a b h
  have hbytes := hexEncode_injective (String.ofList_injective h)
  cases a
  cases b
  congr

theorem decimal_injective : Function.Injective decimal :=
  fun _ _ h => toDigits_injective (String.ofList_injective h)

theorem eq_of_rdropWhile_eq {a b : List UInt8} (hlength : a.length = b.length)
    (h : a.rdropWhile (· = 0) = b.rdropWhile (· = 0)) : a = b := by
  have hsplit : ∀ l : List UInt8, ∃ n, l = l.rdropWhile (· = 0) ++ replicate n 0 := by
    intro l
    refine ⟨(l.rtakeWhile (· = 0)).length, ?_⟩
    have hzeros : l.rtakeWhile (· = 0) = replicate (l.rtakeWhile (· = 0)).length 0 :=
      eq_replicate_iff.mpr
        ⟨rfl, fun byte hbyte => by simpa using mem_rtakeWhile_imp hbyte⟩
    rw [← hzeros, rdropWhile_append_rtakeWhile]
  obtain ⟨m, hm⟩ := hsplit a
  obtain ⟨n, hn⟩ := hsplit b
  have hmn : m = n := by
    have ha := congrArg length hm
    have hb := congrArg length hn
    rw [length_append, length_replicate] at ha hb
    rw [h] at ha
    omega
  rw [hm, hn, h, hmn]

theorem char_ofNat_toNat_injective :
    Function.Injective fun byte : UInt8 => Char.ofNat byte.toNat := by
  have hvalue : ∀ byte : UInt8, (Char.ofNat byte.toNat).toNat = byte.toNat := by
    intro byte
    have hbyte := byte.toNat_lt
    have hvalid : byte.toNat.isValidChar := .inl (by omega)
    rw [Char.ofNat, dif_pos hvalid]
    rfl
  intro a b h
  have htoNat := congrArg Char.toNat h
  dsimp only at htoNat
  rw [hvalue, hvalue] at htoNat
  exact UInt8.toNat_inj.mp htoNat

theorem text_ne_hex (a b : Bytes32) :
    String.ofList ((a.bytes.rdropWhile (· = 0)).map fun byte => Char.ofNat byte.toNat) ≠
      "0x" ++ hex b := by
  intro h
  have hlength := congrArg (fun s => s.toList.length) h
  have hshort := ( rdropWhile_prefix (· = (0 : UInt8)) (l := a.bytes)).length_le
  simp only [String.toList_ofList, length_map, String.toList_append, length_append, hex,
    length_hexEncode, b.length_eq, a.length_eq] at hlength hshort
  omega

theorem policyValue_injective : Function.Injective policyValue := by
  intro a b h
  rw [policyValue, policyValue] at h
  split_ifs at h
  · have hshown := map_injective_iff.mpr char_ofNat_toNat_injective (String.ofList_injective h)
    have hbytes := eq_of_rdropWhile_eq (a.length_eq.trans b.length_eq.symm) hshown
    cases a
    cases b
    congr
  · exact absurd h (text_ne_hex a b)
  · exact absurd h.symm (text_ne_hex b a)
  · exact hex_injective ((String.append_right_inj "0x").mp h)

theorem gateView_injective {required required' : Bool} {value value' : Bytes32}
    (h : (if required then some (policyValue value) else none) =
      (if required' then some (policyValue value') else none)) :
    required = required' ∧ (required → value = value') := by
  cases required with
  | false => cases required' <;> simp_all
  | true =>
    cases required' with
    | false => simp at h
    | true => exact ⟨rfl, fun _ => policyValue_injective (by simpa using h)⟩

structure SameLock (rec rec' : LockRecord) : Prop where
  locker : rec.locker = rec'.locker
  minimumAgeYears : rec.minimumAgeYears = rec'.minimumAgeYears
  maxClaimAmount : rec.maxClaimAmount = rec'.maxClaimAmount
  totalDeposited : rec.totalDeposited = rec'.totalDeposited
  totalReleased : rec.totalReleased = rec'.totalReleased
  verifierChallengeHash : rec.verifierChallengeHash = rec'.verifierChallengeHash
  requireIssuingState : rec.requireIssuingState = rec'.requireIssuingState
  requiredIssuingState : rec.requireIssuingState →
    rec.requiredIssuingState = rec'.requiredIssuingState
  requireDocumentNumber : rec.requireDocumentNumber = rec'.requireDocumentNumber
  requiredDocumentNumber : rec.requireDocumentNumber →
    rec.requiredDocumentNumber = rec'.requiredDocumentNumber

/-- **A lock is told by its view**, but for the values of gates that are off. -/
theorem lockView_injective {id id' rec rec' remaining remaining'}
    (h : lockView id rec remaining = lockView id' rec' remaining') :
    id = id' ∧ SameLock rec rec' := by
  simp only [lockView, PassportVaultLockView.mk.injEq] at h
  obtain ⟨hid, hlocker, hage, hissuing, hdocument, hmaximum, hdeposited, hreleased, -,
    hchallenge⟩ := h
  have hissuing := gateView_injective hissuing
  have hdocument := gateView_injective hdocument
  exact ⟨hid, {
    locker := hex_injective ((String.append_right_inj "coinpk:").mp hlocker)
    minimumAgeYears := hage
    maxClaimAmount := Fin.ext (decimal_injective hmaximum)
    totalDeposited := Fin.ext (decimal_injective hdeposited)
    totalReleased := Fin.ext (decimal_injective hreleased)
    verifierChallengeHash := hex_injective hchallenge
    requireIssuingState := hissuing.1
    requiredIssuingState := hissuing.2
    requireDocumentNumber := hdocument.1
    requiredDocumentNumber := hdocument.2 }⟩

structure SameLedger (ledger ledger' : Ledger) : Prop where
  trustedIssuer : ledger.trustedIssuer = ledger'.trustedIssuer
  trustedIssuerPublicKeyHash :
    ledger.trustedIssuerPublicKeyHash = ledger'.trustedIssuerPublicKeyHash
  locks : ∀ id, Option.Rel SameLock (ledger.locks.find? id) (ledger'.locks.find? id)

theorem findEntry_rel {l l'} (h : List.Forall₂ (fun a b => a.1 = b.1 ∧ SameLock a.2 b.2) l l')
    (id : UInt64) : Option.Rel SameLock (findEntry id l) (findEntry id l') := by
  induction h with
  | nil => exact .none
  | @cons a b _ _ hab _ ih =>
    rw [findEntry, findEntry, ← hab.1]
    by_cases hid : id = a.1
    · rw [if_pos hid, if_pos hid]
      exact .some hab.2
    · rw [if_neg hid, if_neg hid]
      exact ih

theorem sameLedger_of_view_eq {ledger ledger'} (h : ledger.view = ledger'.view) :
    SameLedger ledger ledger' := by
  simp only [Ledger.view, PassportVaultView.mk.injEq, Option.some.injEq,
    PassportVaultContractView.mk.injEq] at h
  obtain ⟨-, -, ⟨-, hcontract, hmethod, hkey, -⟩, hlocks, -⟩ := h
  refine ⟨?_, hex_injective hkey, fun id => findEntry_rel ?_ id⟩
  · rw [VerificationMethodRef.mk.injEq]
    exact ⟨hex_injective hcontract, hex_injective hmethod⟩
  · rw [← forall₂_eq_eq_eq, forall₂_map_left_iff, forall₂_map_right_iff] at hlocks
    exact hlocks.imp fun _ _ hview => lockView_injective hview

/-! ## Every ledger the contract reaches -/

def Reached (ledger : Ledger) : Prop :=
  ∃ persistentHash initialAdmin issuerRef issuerPublicKeyHash calls,
    Transition.run (Contract.step persistentHash)
      (.deploy initialAdmin issuerRef issuerPublicKeyHash) calls = some ledger

theorem Reached.sound {ledger} (h : Reached ledger) : Sound ledger := by
  obtain ⟨persistentHash, initialAdmin, issuerRef, issuerPublicKeyHash, calls, hrun⟩ := h
  exact sound_of_run hrun

namespace Sample

inductive LedgerAtom
  | u8 (value : UInt8)
  | u32 (value : UInt32)
  | u64 (value : UInt64)
  | u128 (value : U128)
  | bool (value : Bool)
  | bytes32 (value : Bytes32)
  deriving DecidableEq

def lockTerms : LockTerms :=
  ⟨18, true, ⟨"UTO".toList.map (fun c => UInt8.ofNat c.toNat) ++ List.replicate 29 0, by decide⟩,
    false, .zero, 40, ⟨List.replicate 32 5, by simp⟩⟩

def lockedLedger : Ledger :=
  { Ledger.deploy .zero ⟨.zero, .zero⟩ .zero with
    locks := OrderedMap.empty.insert 0 (lockTerms.record .zero 100)
    lockCount := 1
    totalDeposited := 100 }

def valueEncoding : LedgerEncoding ℕ LedgerAtom where
  u8 := ⟨1, .u8, fun | .u8 value => some value | _ => none, fun _ => rfl⟩
  u32 := ⟨4, .u32, fun | .u32 value => some value | _ => none, fun _ => rfl⟩
  u64 := ⟨8, .u64, fun | .u64 value => some value | _ => none, fun _ => rfl⟩
  u128 := ⟨16, .u128, fun | .u128 value => some value | _ => none, fun _ => rfl⟩
  bool := ⟨1, .bool, fun | .bool value => some value | _ => none, fun _ => rfl⟩
  bytes32 := ⟨32, .bytes32, fun | .bytes32 value => some value | _ => none, fun _ => rfl⟩
  taggedDeserialize _ := none

def ledgerEncoding : LedgerEncoding ℕ LedgerAtom :=
  { valueEncoding with
    taggedDeserialize := fun bytes =>
      if bytes = [1] then some (lockedLedger.stateValue valueEncoding, 1) else none }

end Sample

open Sample

section Views
variable {A Atom : Type} [DecidableEq A] [DecidableEq Atom] {encoding : LedgerEncoding A Atom}
  {ledger : Ledger} {bytes : List UInt8}

def Serializes (encoding : LedgerEncoding A Atom) (bytes : List UInt8) (ledger : Ledger) : Prop :=
  encoding.taggedDeserialize bytes = some (ledger.stateValue encoding, bytes.length)

theorem decodeContractState_ok_iff (h : Reached ledger)
    (hbytes : Serializes encoding bytes ledger) (view : PassportVaultView) :
    decodeContractState encoding bytes = .ok view ↔
      ledger.lockCount ≤ maxPassportVaultLocks ∧ view = ledger.view := by
  rw [decodeContractState_stateValue h.sound hbytes]
  by_cases hroom : ledger.lockCount ≤ maxPassportVaultLocks
  · simp [hroom, eq_comm]
  · simp [hroom]

theorem view_locks (h : Sound ledger) :
    ledger.view.locks.map (·.lockId.toNat) = range ledger.lockCount.toNat ∧
    ∀ lock ∈ ledger.view.locks, ∃ rec, ledger.locks.find? lock.lockId = some rec ∧
      rec.totalReleased ≤ rec.totalDeposited ∧
      lock.totalDeposited = decimal rec.totalDeposited.val ∧
      lock.totalReleased = decimal rec.totalReleased.val ∧
      lock.remaining = decimal (rec.totalDeposited.val - rec.totalReleased.val) := by
  constructor
  · have hnumbered : ledger.locks.keys.map toNat = range ledger.lockCount.toNat :=
      h.balanced.numbered
    rw [← hnumbered, Ledger.view, OrderedMap.keys, map_map, map_map]
    rfl
  · intro lock hlock
    obtain ⟨entry, hentry, rfl⟩ := mem_map.mp hlock
    have hfound := find?_eq_some_iff.mpr hentry
    have hcovered : entry.2.totalReleased ≤ entry.2.totalDeposited :=
      h.balanced.covered entry.1 entry.2 hfound
    refine ⟨entry.2, hfound, hcovered, rfl, rfl, ?_⟩
    rw [← U128.val_sub hcovered]
    rfl

/-- **Every state is readable and shown as it is.**  The decoder accepts the state of a reached
ledger iff there are not too many locks; and two ledgers with the same view have the same issuer
and, lock by lock, the same terms and amounts. -/
theorem decodeContractState_faithful (hreached : Reached ledger)
    (hbytes : Serializes encoding bytes ledger) :
    ((∃ view, decodeContractState encoding bytes = .ok view) ↔ ledger.lockCount.toNat ≤ 4096) ∧
    (∀ view, decodeContractState encoding bytes = .ok view →
      view.locks.map (·.lockId.toNat) = List.range ledger.lockCount.toNat ∧
      (∀ lock ∈ view.locks, ∃ rec, ledger.locks.find? lock.lockId = some rec ∧
        rec.totalReleased ≤ rec.totalDeposited ∧
        lock.totalDeposited = decimal rec.totalDeposited.val ∧
        lock.totalReleased = decimal rec.totalReleased.val ∧
        lock.remaining = decimal (rec.totalDeposited.val - rec.totalReleased.val)) ∧
      view.totalDeposited = decimal ledger.totalDeposited.val ∧
      view.totalReleased = decimal ledger.totalReleased.val ∧
      view.totalLocked = decimal (ledger.totalDeposited.val - ledger.totalReleased.val) ∧
      view.claimCount = ledger.claimCount ∧
      ∀ ledger' bytes', Reached ledger' → Serializes encoding bytes' ledger' →
        decodeContractState encoding bytes' = .ok view → SameLedger ledger ledger') := by
  have hiff := decodeContractState_ok_iff hreached hbytes
  constructor
  · constructor
    · rintro ⟨view, hview⟩
      exact le_iff_toNat_le.mp ((hiff view).mp hview).1
    · intro hcount
      exact ⟨ledger.view, (hiff ledger.view).mpr ⟨le_iff_toNat_le.mpr hcount, rfl⟩⟩
  · intro view hview
    obtain ⟨-, rfl⟩ := (hiff view).mp hview
    obtain ⟨hnumbers, hlocks⟩ := view_locks hreached.sound
    have hcovered : ledger.totalReleased ≤ ledger.totalDeposited :=
      hreached.sound.balanced.debited_le
    refine ⟨hnumbers, hlocks, rfl, rfl, ?_, rfl, ?_⟩
    · rw [← U128.val_sub hcovered]
      rfl
    · intro ledger' bytes' hreached' hbytes' hview'
      exact sameLedger_of_view_eq ((decodeContractState_ok_iff hreached' hbytes' _).mp hview').2

theorem decodeContractState_lockedLedger :
    Reached lockedLedger ∧ Serializes ledgerEncoding [1] lockedLedger ∧
    ∃ view, decodeContractState ledgerEncoding [1] = .ok view ∧
      view.totalDeposited = decimal 100 := by
  have hreached : Reached lockedLedger :=
    ⟨fun _ => .zero, .zero, ⟨.zero, .zero⟩, .zero, [(⟨.zero, 0⟩, .createLock lockTerms 100)],
      by decide +kernel⟩
  have hbytes : Serializes ledgerEncoding [1] lockedLedger := rfl
  obtain ⟨hreadable, hshown⟩ := decodeContractState_faithful hreached hbytes
  obtain ⟨view, hview⟩ := hreadable.mpr (by decide)
  exact ⟨hreached, hbytes, view, hview, (hshown view hview).2.2.1⟩

end Views
end Oxid.PassportVault
