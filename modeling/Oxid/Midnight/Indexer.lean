import Mathlib.Data.Char
import Mathlib.Data.List.Lex
import Mathlib.Data.Prod.Lex
import Oxid.OrderedMap
import Oxid.Wallet.Assets

/-!
# The account indexer

`SnapshotAccumulator` folds a stream of transactions, each with a cursor, to a snapshot, from
which a later stream is continued and balances and a history are made.
-/

namespace Oxid.Midnight
open Foundation Result Text Wallet List

inductive IndexerTransportError
  | runtime | connect | timeout | protocol | invalidData | limitExceeded
  deriving DecidableEq

inductive WalletAccountPortError
  | notFound | unsupportedNetwork | protectionNotInitialized | protectionLocked | unavailable
  | invalidData

def maxEvents : ℕ := 100000

def maxUtxoRecords : ℕ := 100000

def nativeNightTokenType : List Char := List.replicate 64 '0'

instance instNeZeroU32 : NeZero (2 ^ 32) := ⟨by decide⟩

structure IndexerUtxo where
  tokenType : List Char
  value : U128
  intentHash : List Char
  outputIndex : Fin (2 ^ 32)
  createdAtSeconds : Option UInt64
  registeredForDustGeneration : Bool
  deriving DecidableEq

abbrev UtxoKey := List Char ×ₗ Fin (2 ^ 32)

/-- The order of the map of UTXOs, and so of every snapshot. -/
def utxoKey (utxo : IndexerUtxo) : UtxoKey := toLex (utxo.intentHash, utxo.outputIndex)

inductive IndexerTransactionStatus
  | success | partialSuccess | failure
  deriving DecidableEq

structure IndexerTransaction where
  hash : List Char
  (blockHeight timestampMillis : UInt64)
  status : IndexerTransactionStatus
  feeSpecks : Option U128
  (created spent : List IndexerUtxo)
  deriving DecidableEq

open IndexerTransaction

def IndexerTransaction.records (tx : IndexerTransaction) : ℕ :=
  tx.created.length + tx.spent.length

inductive IndexerEvent
  | transaction (cursor : UInt64) (transaction : IndexerTransaction)
  | progress (target : UInt64)
  deriving DecidableEq

structure IndexerSnapshot where
  (currentCursor targetCursor : UInt64)
  chainTipHeight : Option UInt64
  utxos : List IndexerUtxo
  transactions : List IndexerTransaction
  deriving DecidableEq

/-! ## Decoding -/

inductive CtimeValue
  | null
  | integer (value : Int64)
  | other

structure GraphqlUtxo where
  (owner tokenType value intentHash : List Char)
  outputIndex : Int64
  ctime : CtimeValue
  registeredForDustGeneration : Bool

structure GraphqlTransaction where
  id : Int64
  hash : List Char
  (blockHeight blockTimestamp : Int64)
  typename : String
  status : Option String
  paidFees : Option (List Char)

structure GraphqlEvent where
  typename : String
  transaction : Option GraphqlTransaction
  (createdUtxos spentUtxos : Option (List GraphqlUtxo))
  highestTransactionId : Option Int64

def isAsciiHexDigit (c : Char) : Bool := isLowerHex c || ('A' ≤ c && c ≤ 'F')

def strip0x : List Char → List Char
  | '0' :: 'x' :: rest => rest
  | value => value

/-- Digits of either case come out lower case, without the `0x`. -/
def normalizeHex32 (value : List Char) : Except IndexerTransportError (List Char) := do
  let value := strip0x value
  rejectIf (value.length ≠ 64 || !value.all isAsciiHexDigit) .invalidData
  return value.map Char.toLower

structure NormalHex (value : List Char) : Prop where
  length : value.length = 64
  digits : ∀ c ∈ value, isLowerHex c

variable {c : Char}

theorem mem_of_isAsciiHexDigit (h : isAsciiHexDigit c) : c ∈ "0123456789abcdefABCDEF".toList := by
  have hc : c = Char.ofNat c.toNat := (Char.ofNat_toNat c).symm
  simp only [isAsciiHexDigit, isLowerHex, Char.isDigit, Bool.or_eq_true, Bool.and_eq_true,
    decide_eq_true_eq, ge_iff_le, Char.le_def, UInt32.le_iff_toNat_le] at h
  change ((48 ≤ c.toNat ∧ c.toNat ≤ 57) ∨ 97 ≤ c.toNat ∧ c.toNat ≤ 102) ∨
    65 ≤ c.toNat ∧ c.toNat ≤ 70 at h
  rw [hc]
  generalize c.toNat = n at h
  have hle : n ≤ 102 := by omega
  have hge : 48 ≤ n := by omega
  interval_cases n <;> first | decide | omega

theorem isLowerHex_toLower (h : isAsciiHexDigit c) : isLowerHex c.toLower := by
  have key : "0123456789abcdefABCDEF".toList.all (fun d => isLowerHex d.toLower) := by
    decide +kernel
  exact all_eq_true.mp key c (mem_of_isAsciiHexDigit h)

theorem of_isLowerHex {p : Char → Bool} (h : isLowerHex c)
    (hp : "0123456789abcdefABCDEF".toList.all fun d => !isLowerHex d || p d) : p c := by
  have hc := all_eq_true.mp hp c (mem_of_isAsciiHexDigit (by rw [isAsciiHexDigit, h, Bool.true_or]))
  simpa [h] using hc

theorem toLower_of_isLowerHex (h : isLowerHex c) : c.toLower = c := by
  simpa using of_isLowerHex (p := fun d => d.toLower == d) h (by decide +kernel)

theorem normalHex_of_normalizeHex32 {value normal} (h : normalizeHex32 value = .ok normal) :
    NormalHex normal := by
  simp only [normalizeHex32, bind_ok_iff, rejectIf_ok_iff, Bool.or_eq_false_iff,
    decide_eq_false_iff_not, not_not, Bool.not_eq_false', all_eq_true, exists_const] at h
  obtain ⟨⟨hlength, hdigits⟩, heq⟩ := h
  cases heq
  refine ⟨by rw [length_map, hlength], ?_⟩
  intro c hc
  obtain ⟨d, hd, rfl⟩ := mem_map.mp hc
  exact isLowerHex_toLower (hdigits d hd)

theorem NormalHex.normalizeHex32_eq {value} (h : NormalHex value) :
    normalizeHex32 value = .ok value := by
  have hstrip : strip0x value = value := by
    rw [strip0x]
    intro rest heq
    have hx := h.digits 'x' (by simp [heq])
    exact absurd hx (by decide)
  have hall : value.all isAsciiHexDigit := by
    rw [all_eq_true]
    intro c hc
    rw [isAsciiHexDigit, h.digits c hc, Bool.true_or]
  have hlower : value.map Char.toLower = value := by
    conv_rhs => rw [← map_id value]
    exact map_congr_left fun c hc => toLower_of_isLowerHex (h.digits c hc)
  simp [normalizeHex32, hstrip, h.length, hall, hlower]

def nonnegativeI64 (value : Int64) : Except IndexerTransportError UInt64 := do
  rejectIf (value.toInt < 0) .invalidData
  return UInt64.ofNat value.toInt.toNat

def optionalNonnegativeI64 : CtimeValue → Except IndexerTransportError (Option UInt64)
  | .null => .ok none
  | .integer value => do return some (← nonnegativeI64 value)
  | .other => .error .invalidData

def u32OfI64 (value : Int64) : Option (Fin (2 ^ 32)) :=
  if h : 0 ≤ value.toInt ∧ value.toInt.toNat < 2 ^ 32 then some ⟨value.toInt.toNat, h.2⟩
  else none

/-- A UTXO of somebody else fails the whole event. -/
def decodeUtxo (expectedAddress : List Char) (utxo : GraphqlUtxo) :
    Except IndexerTransportError IndexerUtxo := do
  rejectIf (utxo.owner ≠ expectedAddress) .invalidData
  let outputIndex ← okOr (u32OfI64 utxo.outputIndex) .invalidData
  let tokenType ← normalizeHex32 utxo.tokenType
  let value ← okOr (parseU128 utxo.value) .invalidData
  let intentHash ← normalizeHex32 utxo.intentHash
  let createdAtSeconds ← optionalNonnegativeI64 utxo.ctime
  return { tokenType, value, intentHash, outputIndex, createdAtSeconds,
           registeredForDustGeneration := utxo.registeredForDustGeneration }

def decodeStatus : String → Except IndexerTransportError IndexerTransactionStatus
  | "SUCCESS" => .ok .success
  | "PARTIAL_SUCCESS" => .ok .partialSuccess
  | "FAILURE" => .ok .failure
  | _ => .error .invalidData

/-- A system transaction pays no fee. -/
def decodeOutcome (tx : GraphqlTransaction) :
    Except IndexerTransportError (IndexerTransactionStatus × Option U128) :=
  match tx.typename with
  | "RegularTransaction" => do
      let status ← okOr tx.status .invalidData
      let status ← decodeStatus status
      let fees ← okOr tx.paidFees .invalidData
      let fee ← okOr (parseU128 fees) .invalidData
      return (status, some fee)
  | "SystemTransaction" => .ok (.success, none)
  | _ => .error .invalidData

def decodeEvent (event : Option GraphqlEvent) (expectedAddress : List Char) :
    Except IndexerTransportError IndexerEvent := do
  let event ← okOr event .invalidData
  match event.typename with
  | "UnshieldedTransactionsProgress" => do
      let highest ← okOr event.highestTransactionId .invalidData
      return .progress (← nonnegativeI64 highest)
  | "UnshieldedTransaction" => do
      let tx ← okOr event.transaction .invalidData
      let cursor ← nonnegativeI64 tx.id
      let created ← okOr event.createdUtxos .invalidData
      let created ← created.mapM (decodeUtxo expectedAddress)
      let spent ← okOr event.spentUtxos .invalidData
      let spent ← spent.mapM (decodeUtxo expectedAddress)
      let (status, feeSpecks) ← decodeOutcome tx
      let hash ← normalizeHex32 tx.hash
      let blockHeight ← nonnegativeI64 tx.blockHeight
      let timestampMillis ← nonnegativeI64 tx.blockTimestamp
      return .transaction cursor
        { hash, blockHeight, timestampMillis, status, feeSpecks, created, spent }
  | _ => .error .invalidData

structure NormalUtxo (utxo : IndexerUtxo) : Prop where
  tokenType : NormalHex utxo.tokenType
  intentHash : NormalHex utxo.intentHash

structure NormalTransaction (tx : IndexerTransaction) : Prop where
  hash : NormalHex tx.hash
  created : ∀ utxo ∈ tx.created, NormalUtxo utxo
  spent : ∀ utxo ∈ tx.spent, NormalUtxo utxo

variable {address : List Char}

theorem normalUtxo_of_decodeUtxo {raw utxo} (h : decodeUtxo address raw = .ok utxo) :
    NormalUtxo utxo := by
  simp only [decodeUtxo, bind_ok_iff] at h
  obtain ⟨-, -, outputIndex, -, tokenType, htoken, value, -, intentHash, hintent, createdAt, -,
    heq⟩ := h
  cases heq
  exact ⟨normalHex_of_normalizeHex32 htoken, normalHex_of_normalizeHex32 hintent⟩

theorem normalUtxo_of_mapM {raw : List GraphqlUtxo} {utxos : List IndexerUtxo}
    (h : raw.mapM (decodeUtxo address) = .ok utxos) : ∀ utxo ∈ utxos, NormalUtxo utxo := by
  intro utxo hmem
  obtain ⟨u, -, hu⟩ := exists_of_mem_of_mapM_ok h hmem
  exact normalUtxo_of_decodeUtxo hu

theorem normalTransaction_of_decodeEvent {raw : Option GraphqlEvent} {cursor}
    {tx : IndexerTransaction} (h : decodeEvent raw address = .ok (.transaction cursor tx)) :
    NormalTransaction tx := by
  simp only [decodeEvent, bind_ok_iff] at h
  obtain ⟨event, -, h⟩ := h
  split at h
  · obtain ⟨highest, -, h⟩ := bind_ok_iff.mp h
    obtain ⟨target, -, h⟩ := bind_ok_iff.mp h
    cases h
  · simp only [bind_ok_iff] at h
    obtain ⟨rawTx, -, c, -, rawCreated, -, created, hcreated, rawSpent, -, spent, hspent,
      outcome, -, hash, hhash, height, -, timestamp, -, heq⟩ := h
    cases heq
    exact ⟨normalHex_of_normalizeHex32 hhash, normalUtxo_of_mapM hcreated,
      normalUtxo_of_mapM hspent⟩
  · cases h

/-! ## Checkpoints -/

def validateIndexerUtxo (utxo : IndexerUtxo) : Except IndexerTransportError Unit := do
  let tokenType ← normalizeHex32 utxo.tokenType
  rejectIf (tokenType ≠ utxo.tokenType) .invalidData
  let intentHash ← normalizeHex32 utxo.intentHash
  rejectIf (intentHash ≠ utxo.intentHash) .invalidData

def checkUtxo (available : OrderedMap UtxoKey IndexerUtxo) (utxo : IndexerUtxo) :
    Except IndexerTransportError (OrderedMap UtxoKey IndexerUtxo) := do
  validateIndexerUtxo utxo
  rejectIf (available.contains (utxoKey utxo)) .invalidData
  return available.insert (utxoKey utxo) utxo

/-- One round of the loop of `validate_checkpoint`. -/
def checkTransaction (seen : OrderedMap (List Char) Unit × ℕ) (tx : IndexerTransaction) :
    Except IndexerTransportError (OrderedMap (List Char) Unit × ℕ) := do
  let hash ← normalizeHex32 tx.hash
  rejectIf (hash ≠ tx.hash) .invalidData
  rejectIf (seen.1.contains tx.hash) .invalidData
  -- A sum that does not fit a `usize` is above the limit as well.
  let records := seen.2 + tx.records
  rejectIf (maxUtxoRecords < records) .limitExceeded
  (tx.created ++ tx.spent).forM validateIndexerUtxo
  return (seen.1.insert tx.hash (), records)

def IndexerSnapshot.validateCheckpoint (s : IndexerSnapshot) :
    Except IndexerTransportError Unit := do
  rejectIf (s.currentCursor ≠ s.targetCursor || maxUtxoRecords < s.utxos.length ||
    maxEvents < s.transactions.length) .invalidData
  let _ ← s.utxos.foldlM checkUtxo .empty
  let _ ← s.transactions.foldlM checkTransaction (.empty, 0)
  rejectIf (s.chainTipHeight.any fun height =>
    s.transactions.any fun tx => height < tx.blockHeight) .invalidData

theorem NormalUtxo.validateIndexerUtxo_eq {utxo} (h : NormalUtxo utxo) :
    validateIndexerUtxo utxo = .ok () := by
  simp [validateIndexerUtxo, h.tokenType.normalizeHex32_eq, h.intentHash.normalizeHex32_eq, ok_bind]

theorem exists_foldlM_checkUtxo {utxos : List IndexerUtxo} (hkeys : (utxos.map utxoKey).Nodup)
    (hnormal : ∀ utxo ∈ utxos, NormalUtxo utxo) :
    ∃ available, utxos.foldlM checkUtxo .empty = .ok available := by
  refine exists_foldlM_ok (P := fun available rest =>
    (rest.map utxoKey).Nodup ∧ (∀ utxo ∈ rest, NormalUtxo utxo) ∧
      ∀ utxo ∈ rest, available.find? (utxoKey utxo) = none)
    ⟨hkeys, hnormal, fun _ _ => rfl⟩ ?_
  intro available utxo rest hinv
  obtain ⟨hkeys, hnormal, hfree⟩ := hinv
  rw [map_cons, nodup_cons] at hkeys
  have hnew : available.contains (utxoKey utxo) = false := by
    rw [OrderedMap.contains, hfree utxo mem_cons_self]
    rfl
  refine ⟨available.insert (utxoKey utxo) utxo, ?_, hkeys.2,
    fun u hu => hnormal u (mem_cons_of_mem _ hu), ?_⟩
  · rw [checkUtxo, (hnormal utxo mem_cons_self).validateIndexerUtxo_eq, ok_bind, hnew]
    rfl
  · intro u hu
    rw [OrderedMap.find?_insert_of_ne, hfree u (mem_cons_of_mem _ hu)]
    intro heq
    exact hkeys.1 (heq ▸ mem_map_of_mem hu)

theorem exists_foldlM_checkTransaction {txs : List IndexerTransaction}
    (hhashes : (txs.map hash).Nodup) (hnormal : ∀ tx ∈ txs, NormalTransaction tx)
    (hrecords : (txs.map records).sum ≤ maxUtxoRecords) :
    ∃ seen, txs.foldlM checkTransaction (.empty, 0) = .ok seen := by
  refine exists_foldlM_ok (P := fun seen rest =>
    (rest.map hash).Nodup ∧ (∀ tx ∈ rest, NormalTransaction tx) ∧
      (∀ tx ∈ rest, seen.1.find? tx.hash = none) ∧
      seen.2 + (rest.map records).sum ≤ maxUtxoRecords)
    ⟨hhashes, hnormal, fun _ _ => rfl, by rwa [Nat.zero_add]⟩ ?_
  intro seen tx rest hinv
  obtain ⟨hhashes, hnormal, hfree, hrecords⟩ := hinv
  rw [map_cons, nodup_cons] at hhashes
  rw [map_cons, sum_cons] at hrecords
  have htx := hnormal tx mem_cons_self
  have hnew : seen.1.contains tx.hash = false := by
    rw [OrderedMap.contains, hfree tx mem_cons_self]
    rfl
  have hlimit : ¬ maxUtxoRecords < seen.2 + tx.records := by omega
  have hutxos : (tx.created ++ tx.spent).forM validateIndexerUtxo = .ok () := by
    refine forM_ok ?_
    intro utxo hutxo
    rcases mem_append.mp hutxo with hc | hs
    · exact (htx.created utxo hc).validateIndexerUtxo_eq
    · exact (htx.spent utxo hs).validateIndexerUtxo_eq
  refine ⟨(seen.1.insert tx.hash (), seen.2 + tx.records), ?_, hhashes.2,
    fun t ht => hnormal t (mem_cons_of_mem _ ht), ?_, by omega⟩
  · simp [checkTransaction, htx.hash.normalizeHex32_eq, ok_bind, hnew, hlimit, hutxos]
  · intro t ht
    rw [OrderedMap.find?_insert_of_ne, hfree t (mem_cons_of_mem _ ht)]
    intro heq
    exact hhashes.1 (heq ▸ mem_map_of_mem ht)

/-- What the snapshots that `finish` makes have in common. -/
structure Coherent (s : IndexerSnapshot) : Prop where
  cursor : s.currentCursor = s.targetCursor
  utxos : ∀ utxo ∈ s.utxos, NormalUtxo utxo
  keys : (s.utxos.map utxoKey).Nodup
  utxoCount : s.utxos.length ≤ maxUtxoRecords
  transactions : ∀ tx ∈ s.transactions, NormalTransaction tx
  hashes : (s.transactions.map IndexerTransaction.hash).Nodup
  transactionCount : s.transactions.length ≤ maxEvents
  records : (s.transactions.map IndexerTransaction.records).sum ≤ maxUtxoRecords

theorem Coherent.validateCheckpoint_eq {s : IndexerSnapshot} (h : Coherent s)
    (htip : s.chainTipHeight = none) : s.validateCheckpoint = .ok () := by
  obtain ⟨available, havailable⟩ := exists_foldlM_checkUtxo h.keys h.utxos
  obtain ⟨seen, hseen⟩ := exists_foldlM_checkTransaction h.hashes h.transactions h.records
  have hutxos : ¬ maxUtxoRecords < s.utxos.length := not_lt.mpr h.utxoCount
  have htransactions : ¬ maxEvents < s.transactions.length := not_lt.mpr h.transactionCount
  simp [IndexerSnapshot.validateCheckpoint, h.cursor, hutxos, htransactions, havailable, hseen,
    htip, ok_bind]

/-! ## The fold -/

structure SnapshotAccumulator where
  currentCursor : UInt64
  targetCursor : Option UInt64
  (eventCount utxoRecordCount : ℕ)
  utxos : OrderedMap UtxoKey IndexerUtxo
  transactions : OrderedMap (List Char) IndexerTransaction

namespace SnapshotAccumulator

def default : SnapshotAccumulator where
  currentCursor := 0
  targetCursor := none
  eventCount := 0
  utxoRecordCount := 0
  utxos := .empty
  transactions := .empty

/-- A continued stream has to announce its target again. -/
def fromCheckpoint (checkpoint : IndexerSnapshot) :
    Except IndexerTransportError SnapshotAccumulator := do
  checkpoint.validateCheckpoint
  return {
    currentCursor := checkpoint.currentCursor
    targetCursor := none
    eventCount := checkpoint.transactions.length
    utxoRecordCount := (checkpoint.transactions.map IndexerTransaction.records).sum
    utxos := .ofEntries (checkpoint.utxos.map fun utxo => (utxoKey utxo, utxo))
    transactions := .ofEntries (checkpoint.transactions.map fun tx => (tx.hash, tx)) }

/-- A spent UTXO must be the one that was created, in every field. -/
def spend (utxos : OrderedMap UtxoKey IndexerUtxo) (utxo : IndexerUtxo) :
    Except IndexerTransportError (OrderedMap UtxoKey IndexerUtxo) := do
  let existing ← okOr (utxos.find? (utxoKey utxo)) .invalidData
  rejectIf (existing ≠ utxo) .invalidData
  return utxos.erase (utxoKey utxo)

def create (utxos : OrderedMap UtxoKey IndexerUtxo) (utxo : IndexerUtxo) :
    Except IndexerTransportError (OrderedMap UtxoKey IndexerUtxo) := do
  rejectIf (utxos.contains (utxoKey utxo)) .invalidData
  return utxos.insert (utxoKey utxo) utxo

variable (acc : SnapshotAccumulator)

/-- What is spent goes first, so a key may be used again at once. -/
def applyTransaction (cursor : UInt64) (tx : IndexerTransaction) :
    Except IndexerTransportError SnapshotAccumulator := do
  rejectIf (cursor ≤ acc.currentCursor && acc.transactions.size ≠ 0) .protocol
  rejectIf (acc.targetCursor.any fun target => target < cursor) .protocol
  let utxoRecordCount := acc.utxoRecordCount + tx.records
  rejectIf (maxUtxoRecords < utxoRecordCount) .limitExceeded
  let utxos ← tx.spent.foldlM spend acc.utxos
  let utxos ← tx.created.foldlM create utxos
  return { acc with
    currentCursor := cursor
    utxoRecordCount
    utxos
    transactions := acc.transactions.insert tx.hash tx }

/-- A transaction may be sent twice in a row, unchanged. -/
def apply (event : IndexerEvent) : Except IndexerTransportError SnapshotAccumulator := do
  let acc := { acc with eventCount := acc.eventCount + 1 }
  rejectIf (maxEvents < acc.eventCount) .limitExceeded
  match event with
  | .progress target => do
      rejectIf (target < acc.currentCursor) .protocol
      rejectIf acc.targetCursor.isSome .protocol
      return { acc with targetCursor := some target }
  | .transaction cursor tx =>
    match acc.transactions.find? tx.hash with
    | some existing => do
        rejectIf (existing ≠ tx || cursor ≠ acc.currentCursor) .invalidData
        return acc
    | none => acc.applyTransaction cursor tx

def finish : Except IndexerTransportError IndexerSnapshot := do
  let targetCursor ← okOr acc.targetCursor .protocol
  rejectIf (acc.currentCursor < targetCursor) .protocol
  return {
    currentCursor := acc.currentCursor
    targetCursor
    chainTipHeight := none
    utxos := acc.utxos.values
    transactions := acc.transactions.values }

end SnapshotAccumulator

/-! ## Balances and history -/

def addToToken (byToken : OrderedMap (List Char) U128) (utxo : IndexerUtxo) :
    Except WalletAccountPortError (OrderedMap (List Char) U128) := do
  let amount := (byToken.find? utxo.tokenType).getD 0
  let amount ← okOr (U128.checkedAdd amount utxo.value) .invalidData
  return byToken.insert utxo.tokenType amount

def amountsByToken (utxos : List IndexerUtxo) :
    Except WalletAccountPortError (OrderedMap (List Char) U128) :=
  utxos.foldlM addToToken .empty

def midnightAsset (id symbol : String) (atomicUnitsPerWhole : U128) :
    Except WalletAccountPortError ChainAsset := do
  let decimals ← okOr (decimalPlaces atomicUnitsPerWhole) .invalidData
  let id ← (ChainAssetId.parse id).mapError fun _ => .invalidData
  let symbol ← (AssetSymbol.parse symbol).mapError fun _ => .invalidData
  return { id, symbol, decimals }

def starsPerNight : U128 := 1000000

def specksPerDust : U128 := 1000000000000000

def assetForToken (tokenType : List Char) : Except WalletAccountPortError ChainAsset := do
  if tokenType = nativeNightTokenType then
    midnightAsset "midnight:night" "NIGHT" starsPerNight
  else
    rejectIf (tokenType.length < 8) .invalidData
    let id ← (ChainAssetId.parse ("midnight:unshielded:" ++ String.ofList tokenType)).mapError
      fun _ => .invalidData
    let symbol ← (AssetSymbol.parse ("TKN-" ++ String.ofList (tokenType.take 8))).mapError
      fun _ => .invalidData
    let decimals ← okOr (decimalPlaces 1) .invalidData
    return { id, symbol, decimals }

def tokenBalance (entry : List Char × U128) : Except WalletAccountPortError AssetBalance := do
  return ⟨← assetForToken entry.1, entry.2⟩

def aggregateChanges (utxos : List IndexerUtxo) (direction : BalanceChangeDirection) :
    Except WalletAccountPortError (List AssetBalanceChange) := do
  let byToken ← amountsByToken utxos
  byToken.entries.mapM fun entry => do return ⟨direction, ← tokenBalance entry⟩

/-- With both sides present, each token is compared on its own. -/
def transactionDirection (created spent : List IndexerUtxo) :
    Except WalletAccountPortError WalletTransactionDirection := do
  match created.isEmpty, spent.isEmpty with
  | false, true => return .incoming
  | true, false => return .outgoing
  | true, true => return .unknown
  | false, false =>
    let created ← amountsByToken created
    let spent ← amountsByToken spent
    let tokens := created.keys ++ spent.keys
    let credit := fun token => (created.find? token).getD 0
    let debit := fun token => (spent.find? token).getD 0
    match tokens.any fun token => debit token < credit token,
        tokens.any fun token => credit token < debit token with
    | false, true => return .outgoing
    | true, false => return .incoming
    | false, false => return .selfTransfer
    | true, true => return .unknown

def mapTransaction (tx : IndexerTransaction) : Except WalletAccountPortError WalletTransaction := do
  let direction ← transactionDirection tx.created tx.spent
  let credits ← aggregateChanges tx.created .credit
  let debits ← aggregateChanges tx.spent .debit
  let status := match tx.status with
    | .success => .confirmed
    | .partialSuccess => .partiallyApplied
    | .failure => .failed
  let fee ← tx.feeSpecks.mapM fun amount => do
    return ⟨← midnightAsset "midnight:dust" "DUST" specksPerDust, amount⟩
  let id ← (ChainTransactionId.parse (String.ofList tx.hash)).mapError fun _ => .invalidData
  return { id, direction, status, blockHeight := some tx.blockHeight,
           observedAt := some tx.timestampMillis, changes := credits ++ debits, fee }

def mapIndexerSnapshot (indexer : IndexerSnapshot) :
    Except WalletAccountPortError (List AssetBalance × List WalletTransaction) := do
  -- The source writes the loop of `amounts_by_token` out a second time here.
  let balanceByToken ← amountsByToken indexer.utxos
  let balances ← balanceByToken.entries.mapM tokenBalance
  let transactions ← indexer.transactions.mapM mapTransaction
  return (balances, transactions)

end Oxid.Midnight
