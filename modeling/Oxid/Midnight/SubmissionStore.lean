import Oxid.PassportVault.DurableRepository
import Oxid.Midnight.SubmissionJournal

/-!
# Where the submission journal is kept

In memory a vector behind a lock, and durably a JSON document, where reading is more liberal
than writing.  `serde_json` is a parameter, `DocumentFormat`; the lock, the directory and the
file may fail at every save.
-/

namespace Oxid.Midnight
open Foundation Wallet PassportVault Transaction Result List Nat

/-! ## The document -/

structure JournalRecord where
  (profileId networkId draftId planningFingerprint : String)
  (expiresAtMillis updatedAtMillis : UInt64)
  (feeSpecks transactionHash anchorBlockHash : String)
  blockHash : Option String
  blockHeight : Option UInt64
  (state mode : String)

structure JournalDocument where
  version : UInt32
  records : List JournalRecord

def journalSchemaVersion : UInt32 := 2

def legacyJournalSchemaVersion : UInt32 := 1

def maxJournalFileBytes : ℕ := 256 * 1024

structure DocumentFormat where
  toVecPretty : JournalDocument → Option (List UInt8)
  fromSlice : List UInt8 → Option JournalDocument
  fromSlice_toVecPretty : ∀ {document bytes},
    toVecPretty document = some bytes → fromSlice bytes = some document

def storedStateName : StoredSubmissionState → String
  | .broadcasting => "broadcasting"
  | .outcomeUnknown => "outcome_unknown"
  | .included => "included"
  | .rejected => "rejected"
  | .expired => "expired"

def parseStoredState (value : String) : Except SubmissionJournalStoreError StoredSubmissionState :=
  if value = "broadcasting" then .ok .broadcasting
  else if value = "outcome_unknown" then .ok .outcomeUnknown
  else if value = "included" then .ok .included
  else if value = "rejected" then .ok .rejected
  else if value = "expired" then .ok .expired
  else .error .invalidData

def submissionModeName : SubmissionMode → String
  | .simulated => "simulated"
  | .live => "live"

def parseSubmissionMode (value : String) : Except SubmissionJournalStoreError SubmissionMode :=
  if value = "simulated" then .ok .simulated
  else if value = "live" then .ok .live
  else .error .invalidData

def decodeHash (value : String) : Except SubmissionJournalStoreError Bytes32 :=
  match Text.hexDecode value.toList with
  | some bytes => if h : bytes.length = 32 then .ok ⟨bytes, h⟩ else .error .invalidData
  | none => .error .invalidData

/-- `u128::from_str`: digits after an optional plus sign, for a number that fits. -/
def parseFee (value : String) : Except SubmissionJournalStoreError U128 := do
  let digits := match value.toList with
    | '+' :: digits => digits
    | digits => digits
  Result.rejectIf (digits.isEmpty || !digits.all Char.isDigit) .invalidData
  if h : Nat.ofDigitChars 10 digits 0 < 2 ^ 128 then .ok ⟨Nat.ofDigitChars 10 digits 0, h⟩
  else .error .invalidData

def JournalRecord.ofEntry (stored : StoredEntry) : JournalRecord where
  profileId := stored.1.profileId.id.asStr
  networkId := stored.2.attempt.networkId.id.asStr
  draftId := stored.1.draftId.id.asStr
  planningFingerprint := hex stored.2.attempt.planningFingerprint
  expiresAtMillis := stored.2.attempt.expiresAt
  updatedAtMillis := stored.2.attempt.updatedAt
  feeSpecks := decimal stored.2.intent.feeSpecks.val
  transactionHash := hex stored.2.intent.transactionHash
  anchorBlockHash := hex stored.2.intent.anchorBlockHash
  blockHash := stored.2.blockHash.map hex
  blockHeight := stored.2.blockHeight
  state := storedStateName stored.2.state
  mode := submissionModeName stored.2.intent.mode

def entryFromRecord (record : JournalRecord) : Except SubmissionJournalStoreError StoredEntry := do
  let profileId ← (WalletProfileId.parse record.profileId).mapError fun _ => .invalidData
  let networkId ← (ChainNetworkId.parse record.networkId).mapError fun _ => .invalidData
  let draftId ← (WalletTransactionDraftId.parse record.draftId).mapError fun _ => .invalidData
  let planningFingerprint ← decodeHash record.planningFingerprint
  let feeSpecks ← parseFee record.feeSpecks
  let transactionHash ← decodeHash record.transactionHash
  let anchorBlockHash ← decodeHash record.anchorBlockHash
  let blockHash ← record.blockHash.mapM decodeHash
  let state ← parseStoredState record.state
  let mode ← parseSubmissionMode record.mode
  let entry : JournalEntry :=
    { attempt := ⟨networkId, planningFingerprint, record.expiresAtMillis, record.updatedAtMillis⟩
      intent := ⟨feeSpecks, transactionHash, anchorBlockHash, mode⟩
      blockHash := blockHash
      blockHeight := record.blockHeight
      state := state }
  validateEntry entry
  return (⟨profileId, draftId⟩, entry)

/-- The loop of `encode_document` and of `decode_document`: convert each item, and refuse
a key that was seen before.  The source keeps the keys as pairs of strings. -/
def collectDistinct {α β : Type} (convert : α → Except SubmissionJournalStoreError β)
    (key : β → SubmissionKey) :
    List SubmissionKey → List α → Except SubmissionJournalStoreError (List β)
  | _, [] => .ok []
  | seen, item :: items => do
    let converted ← convert item
    Result.rejectIf (key converted ∈ seen) .invalidData
    let rest ← collectDistinct convert key (key converted :: seen) items
    return converted :: rest

def encodeDocument (format : DocumentFormat) (entries : List StoredEntry) :
    Except SubmissionJournalStoreError (List UInt8) := do
  Result.rejectIf (maxRecords < entries.length) .invalidData
  let checked ← collectDistinct (fun stored => (validateEntry stored.2).map fun _ => stored)
    Prod.fst [] entries
  let bytes ← Result.okOr
    (format.toVecPretty ⟨journalSchemaVersion, checked.map .ofEntry⟩) .invalidData
  Result.rejectIf (maxJournalFileBytes < bytes.length) .invalidData
  return bytes

def decodeDocument (format : DocumentFormat) (bytes : List UInt8) :
    Except SubmissionJournalStoreError (List StoredEntry) := do
  let document ← Result.okOr (format.fromSlice bytes) .invalidData
  Result.rejectIf
    ((document.version ≠ legacyJournalSchemaVersion && document.version ≠ journalSchemaVersion) ||
      maxRecords < document.records.length) .invalidData
  Result.rejectIf
    (document.version = legacyJournalSchemaVersion &&
      document.records.any fun record => record.blockHeight.isSome) .invalidData
  collectDistinct entryFromRecord Prod.fst [] document.records

/-! ## Reading what was written -/

theorem parseStoredState_storedStateName (state : StoredSubmissionState) :
    parseStoredState (storedStateName state) = .ok state := by
  cases state <;> decide

theorem parseSubmissionMode_submissionModeName (mode : SubmissionMode) :
    parseSubmissionMode (submissionModeName mode) = .ok mode := by
  cases mode <;> decide

theorem decodeHash_hex (bytes : Bytes32) : decodeHash (hex bytes) = .ok bytes := by
  have hdecode : Text.hexDecode (Text.hexEncode bytes.bytes) = some bytes.bytes :=
    (Text.hexDecode_eq_some_iff fun _ => Text.isLowerHex_of_mem_hexEncode).mpr rfl
  rw [decodeHash, hex, String.toList_ofList, hdecode]
  simp only [bytes.length_eq, dif_pos]

theorem parseFee_decimal (fee : U128) : parseFee (decimal fee.val) = .ok fee := by
  have hdigits := (Text.canonicalDecimal_toDigits fee.val).digits
  have hhead : ∀ rest, toDigits 10 fee.val ≠ '+' :: rest := by
    intro rest heq
    have hplus := hdigits '+' (by rw [heq]; exact mem_cons_self)
    revert hplus
    decide
  have hstrip : (match (decimal fee.val).toList with
      | '+' :: digits => digits
      | digits => digits) = toDigits 10 fee.val := by
    rw [decimal, String.toList_ofList]
    split
    · rename_i rest heq
      exact absurd heq (hhead rest)
    · rfl
  have hgood : ((toDigits 10 fee.val).isEmpty ||
      !(toDigits 10 fee.val).all Char.isDigit) = false := by
    simp only [Bool.or_eq_false_iff, Bool.not_eq_false', all_eq_true]
    exact ⟨by simp, hdigits⟩
  rw [parseFee, hstrip, hgood, rejectIf_false, ok_bind]
  simp [ofDigitChars_ten_toDigits]

theorem mapM_decodeHash_map_hex (bytes : Option Bytes32) :
    (bytes.map hex).mapM decodeHash = .ok bytes := by
  rw [mapM_ok_iff]
  cases bytes with
  | none => exact .inl ⟨rfl, rfl⟩
  | some bytes => exact .inr ⟨hex bytes, bytes, rfl, decodeHash_hex bytes, rfl⟩

theorem entryFromRecord_ofEntry {stored} (h : validateEntry stored.2 = .ok ()) :
    entryFromRecord (.ofEntry stored) = .ok stored := by
  simp only [entryFromRecord, bind_ok_iff, mapError_ok_iff,
    WalletProfileId.parse_ok_iff, ChainNetworkId.parse_ok_iff,
    WalletTransactionDraftId.parse_ok_iff]
  exact ⟨_, rfl, _, rfl, _, rfl, _, decodeHash_hex _, _, parseFee_decimal _, _, decodeHash_hex _, _,
    decodeHash_hex _, _, mapM_decodeHash_map_hex _, _, parseStoredState_storedStateName _, _,
    parseSubmissionMode_submissionModeName _, _, h, rfl⟩

theorem validateEntry_of_entryFromRecord {record stored} (h : entryFromRecord record = .ok stored) :
    validateEntry stored.2 = .ok () := by
  simp only [entryFromRecord, bind_ok_iff] at h
  obtain ⟨_, -, _, -, _, -, _, -, _, -, _, -, _, -, _, -, _, -, _, -, _, hvalid, heq⟩ := h
  cases heq
  exact hvalid

section Collect
variable {α β : Type} {convert : α → Except SubmissionJournalStoreError β}
  {key : β → SubmissionKey} {seen : List SubmissionKey} {items : List α} {converted : List β}

theorem collectDistinct_spec (h : collectDistinct convert key seen items = .ok converted) :
    (converted.map key).Nodup ∧ (∀ b ∈ converted, key b ∉ seen) ∧
      items.Forall₂ (fun a b => convert a = .ok b) converted := by
  induction items generalizing seen converted with
  | nil =>
    cases h
    simp
  | cons _ _ ih =>
    simp only [collectDistinct, bind_ok_iff, rejectIf_ok_iff, exists_const,
      decide_eq_false_iff_not] at h
    obtain ⟨b, hb, hnew, rest, hrest, heq⟩ := h
    cases heq
    obtain ⟨hnodup, hunseen, hconverted⟩ := ih hrest
    refine ⟨?_, ?_, .cons hb hconverted⟩
    · rw [map_cons, nodup_cons]
      refine ⟨fun hmem => ?_, hnodup⟩
      obtain ⟨b', hb', hkey⟩ := mem_map.mp hmem
      exact hunseen b' hb' (hkey ▸ mem_cons_self)
    · intro b' hb'
      rcases mem_cons.mp hb' with rfl | hb'
      · exact hnew
      · exact fun hmem => hunseen b' hb' (mem_cons_of_mem _ hmem)

theorem collectDistinct_map {write} (hread : ∀ b ∈ converted, convert (write b) = .ok b)
    (hnodup : (converted.map key).Nodup) (hunseen : ∀ b ∈ converted, key b ∉ seen) :
    collectDistinct convert key seen (converted.map write) = .ok converted := by
  induction converted generalizing seen with
  | nil => rfl
  | cons b converted ih =>
    rw [map_cons, nodup_cons] at hnodup
    have hrest : ∀ b' ∈ converted, key b' ∉ key b :: seen := by
      intro b' hb' hmem
      rcases mem_cons.mp hmem with heq | hmem
      · exact hnodup.1 (heq ▸ mem_map_of_mem hb')
      · exact hunseen b' (mem_cons_of_mem b hb') hmem
    rw [map_cons, collectDistinct, hread b mem_cons_self, ok_bind,
      decide_eq_false (hunseen b mem_cons_self), rejectIf_false, ok_bind,
      ih (fun b' hb' => hread b' (mem_cons_of_mem b hb')) hnodup.2 hrest]
    rfl

end Collect

section Documents
variable {format : DocumentFormat} {bytes : List UInt8} {entries : List StoredEntry}

/-- **What is read.**  A document that is read holds the entries of a journal. -/
theorem decodeDocument_spec (h : decodeDocument format bytes = .ok entries) :
    Recordable entries := by
  simp only [decodeDocument, bind_ok_iff, rejectIf_ok_iff, exists_const,
    Bool.or_eq_false_iff, decide_eq_false_iff_not, not_lt] at h
  obtain ⟨document, -, ⟨-, hroom⟩, -, hcollect⟩ := h
  obtain ⟨hnodup, -, hconverted⟩ := collectDistinct_spec hcollect
  have hvalid := (forall₂_and_left _ _).mp <| hconverted.flip.imp (S := fun stored record =>
      validateEntry stored.2 = .ok () ∧ entryFromRecord record = .ok stored)
    fun _ _ hread => ⟨validateEntry_of_entryFromRecord hread, hread⟩
  exact ⟨hnodup, hconverted.length_eq ▸ hroom, hvalid.1⟩

/-- **What was written is read back**, and fits the bound of the reader. -/
theorem decode_encodeDocument (h : encodeDocument format entries = .ok bytes) :
    decodeDocument format bytes = .ok entries ∧ bytes.length ≤ maxJournalFileBytes := by
  simp only [encodeDocument, bind_ok_iff, rejectIf_ok_iff, exists_const,
    okOr_ok_iff, decide_eq_false_iff_not, not_lt] at h
  obtain ⟨hroom, checked, hcollect, bytes', hwrite, hbytes, heq⟩ := h
  cases heq
  refine ⟨?_, hbytes⟩
  obtain ⟨hnodup, -, hchecked⟩ := collectDistinct_spec hcollect
  -- checking an entry does not change it
  have hsame := hchecked.imp (S := fun stored stored' => validateEntry stored.2 = .ok () ∧
      stored = stored') fun _ _ hcheck => by
    obtain ⟨_, hvalid, rfl⟩ := map_ok_iff.mp hcheck
    exact ⟨hvalid, rfl⟩
  obtain ⟨hvalid, heq⟩ := (forall₂_and_left _ _).mp hsame
  rw [forall₂_eq_eq_eq] at heq
  subst heq
  have hcollected : collectDistinct entryFromRecord Prod.fst [] (entries.map .ofEntry) =
      .ok entries :=
    collectDistinct_map (fun stored hmem => entryFromRecord_ofEntry (hvalid stored hmem)) hnodup
      fun _ _ => not_mem_nil
  simp only [decodeDocument, bind_ok_iff, rejectIf_ok_iff, exists_const, okOr_ok_iff]
  refine ⟨_, format.fromSlice_toVecPretty hwrite, ?_, ?_, hcollected⟩
  · simpa using hroom
  · rfl

end Documents

/-! ## Stores -/

inductive JournalStore
  | memory (entries : List StoredEntry)
  | json (file : Option (List UInt8))

inductive JournalBacking
  | memory
  | json (file : Option (List UInt8))

/-- What the environment does to a save: the lock is poisoned or the file cannot be read
(`before`), or it cannot be written (`after`). -/
structure StoreFaults where
  (before after : Option SubmissionJournalStoreError)

structure SaveCall where
  faults : StoreFaults
  key : SubmissionKey
  entry : JournalEntry

namespace JournalStore

def opened : JournalBacking → JournalStore
  | .memory => .memory []
  | .json file => .json file

def loadEntries (format : DocumentFormat) :
    Option (List UInt8) → Except SubmissionJournalStoreError (List StoredEntry)
  | none => .ok []
  | some bytes => do
    Result.rejectIf (maxJournalFileBytes < bytes.length) .unavailable
    decodeDocument format bytes

def entries (format : DocumentFormat) :
    JournalStore → Except SubmissionJournalStoreError (List StoredEntry)
  | .memory entries => .ok entries
  | .json file => loadEntries format file

def raise (fault : Option SubmissionJournalStoreError) : Except SubmissionJournalStoreError Unit :=
  fault.elim (.ok ()) .error

def save (format : DocumentFormat) (c : SaveCall) :
    Method JournalStore SubmissionJournalStoreError Unit := do
  ofResult (validateEntry c.entry)
  ofResult (raise c.faults.before)
  match ← get with
  | .memory entries =>
    let candidate ← ofResult (upsertEntry entries c.key c.entry)
    set (JournalStore.memory candidate)
  | .json file =>
    let entries ← ofResult (loadEntries format file)
    let entries ← ofResult (upsertEntry entries c.key c.entry)
    let bytes ← ofResult (encodeDocument format entries)
    ofResult (raise c.faults.after)
    set (JournalStore.json (some bytes))

def afterSaves (format : DocumentFormat) (store : JournalStore) (saves : List SaveCall) :
    JournalStore :=
  saves.foldl (fun store c => (call store (save format c)).2) store

def findPlanningFingerprint (format : DocumentFormat) (store : JournalStore)
    (profileId : WalletProfileId) (fingerprint : Bytes32) :
    Except SubmissionJournalStoreError (Option StoredEntry) :=
  (store.entries format).map fun entries =>
    dominantFingerprintEntry entries profileId fingerprint

section Saves
variable {format : DocumentFormat} {store : JournalStore} {c : SaveCall}

def Sound (format : DocumentFormat) (store : JournalStore) : Prop :=
  ∀ entries, store.entries format = .ok entries → Recordable entries

theorem sound_json (format : DocumentFormat) (file : Option (List UInt8)) :
    Sound format (.json file) := by
  intro entries h
  cases file with
  | none =>
    cases h
    exact recordable_nil
  | some =>
    obtain ⟨_, -, hdecode⟩ := bind_ok_iff.mp h
    exact decodeDocument_spec hdecode

theorem sound_opened (format : DocumentFormat) (backing : JournalBacking) :
    Sound format (opened backing) := by
  cases backing with
  | memory =>
    intro entries h
    cases h
    exact recordable_nil
  | json file => exact sound_json format file

theorem loadEntries_encodeDocument {entries bytes} (h : encodeDocument format entries = .ok bytes) :
    loadEntries format (some bytes) = .ok entries := by
  obtain ⟨hdecode, hbytes⟩ := decode_encodeDocument h
  exact bind_ok_iff.mpr ⟨(), rejectIf_ok_iff.mpr (decide_eq_false (not_lt.mpr hbytes)), hdecode⟩

theorem save_allOrNothing (format : DocumentFormat) (store : JournalStore) (c : SaveCall) :
    AllOrNothing store (save format c) fun _ store' =>
      ∃ old new, store.entries format = .ok old ∧ store'.entries format = .ok new ∧
        saveEntry old c.key c.entry = .ok new := by
  refine allOrNothing_ofResult fun _ hvalid => allOrNothing_ofResult fun _ _ => ?_
  refine allOrNothing_get ?_
  cases store with
  | memory entries =>
    refine allOrNothing_ofResult fun candidate hcandidate => ?_
    refine allOrNothing_of_call rfl ⟨entries, candidate, rfl, rfl, ?_⟩
    exact bind_ok_iff.mpr ⟨(), hvalid, hcandidate⟩
  | json =>
    refine allOrNothing_ofResult fun old hold => allOrNothing_ofResult fun new hnew => ?_
    refine allOrNothing_ofResult fun bytes hbytes => allOrNothing_ofResult fun _ _ => ?_
    refine allOrNothing_of_call rfl ⟨old, new, hold, loadEntries_encodeDocument hbytes, ?_⟩
    exact bind_ok_iff.mpr ⟨(), hvalid, hnew⟩

theorem Sound.save (h : Sound format store) : Sound format (call store (save format c)).2 := by
  rcases save_allOrNothing format store c with
    ⟨e, hcall⟩ | ⟨_, store', hcall, old, new, hold, hnew, hsave⟩
  · rw [hcall]
    exact h
  · rw [hcall]
    intro entries hentries
    rw [hnew] at hentries
    cases hentries
    exact (h old hold).save hsave

theorem Sound.afterSaves (h : Sound format store) (saves : List SaveCall) :
    Sound format (store.afterSaves format saves) := by
  induction saves generalizing store with
  | nil => exact h
  | cons c _ ih => exact ih h.save

end Saves
end JournalStore

open JournalStore

/-- **Submission barriers are never lost.** -/
theorem submission_barriers_never_lost (format : DocumentFormat) (backing : JournalBacking)
    (saves : List SaveCall) : let store := (opened backing).afterSaves format saves
    (∀ entries, store.entries format = .ok entries →
      entries.length ≤ 128 ∧ (entries.map Prod.fst).Nodup) ∧
    (∀ c e store', call store (save format c) = (.error e, store') →
      store' = store) ∧
    (∀ c store', call store (save format c) = (.ok (), store') →
      ∃ old new, store.entries format = .ok old ∧ store'.entries format = .ok new ∧
        (∀ other ∈ old, other.1 ≠ c.key → other.2.state.IsBarrier → other ∈ new) ∧
        (c.entry.state.IsBarrier → (c.key, c.entry) ∈ new)) ∧
    ∀ profileId fingerprint found,
      store.findPlanningFingerprint format profileId fingerprint = .ok found →
      ∃ entries, store.entries format = .ok entries ∧
        (found = none ↔ ∀ other ∈ entries, plans profileId fingerprint other = false) ∧
        ∀ stored, found = some stored → Dominant entries profileId fingerprint stored := by
  intro store
  have hsound : store.Sound format :=
    (sound_opened format backing).afterSaves saves
  refine ⟨?_, ?_, ?_, ?_⟩
  · intro entries hentries
    exact ⟨(hsound entries hentries).room, (hsound entries hentries).distinct⟩
  · intro c e store' hcall
    rcases save_allOrNothing format store c with ⟨e', herror⟩ | ⟨_, _, hok, -⟩
    · rw [herror] at hcall
      cases hcall
      rfl
    · rw [hok] at hcall
      cases hcall
  · intro c store' hcall
    rcases save_allOrNothing format store c with
      ⟨e', herror⟩ | ⟨_, _, hok, old, new, hold, hnew, hsave⟩
    · rw [herror] at hcall
      cases hcall
    · rw [hok] at hcall
      cases hcall
      obtain ⟨-, hkept⟩ := saveEntry_spec (hsound old hold).distinct hsave
      refine ⟨old, new, hold, hnew, ?_, fun hbarrier => hkept.stored hbarrier.not_evictable⟩
      intro other hmem hne hbarrier
      exact hkept.others other hmem hne hbarrier.not_evictable
  · intro profileId fingerprint found hfound
    obtain ⟨entries, hentries, rfl⟩ := map_ok_iff.mp hfound
    exact ⟨entries, hentries, dominantFingerprintEntry_eq_none, fun _ => dominant_of_eq_some⟩

end Oxid.Midnight
