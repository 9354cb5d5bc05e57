import Mathlib.Data.List.MinMax
import Oxid.Retention
import Oxid.Rows
import Oxid.Midnight.Submission

/-!
# The submission journal

`submission_journal.rs` keeps at most 128 entries.  One that is included or not yet settled is
a barrier against submitting the same funds again, so only rejected and expired entries are
evicted, as in `Oxid.Retention`.
-/

namespace Oxid.Midnight
open Foundation Wallet PassportVault List

def maxRecords : ℕ := 128

inductive SubmissionJournalStoreError
  | unavailable | invalidData
  deriving DecidableEq

abbrev StoredEntry := SubmissionKey × JournalEntry

def isSafelyEvictable : StoredSubmissionState → Bool
  | .rejected | .expired => true
  | .included | .broadcasting | .outcomeUnknown => false

def submissionBarrierPriority : StoredSubmissionState → ℕ
  | .included => 3
  | .broadcasting | .outcomeUnknown => 2
  | .rejected | .expired => 1

def StoredSubmissionState.IsBarrier (state : StoredSubmissionState) : Prop :=
  state = .included ∨ state = .broadcasting ∨ state = .outcomeUnknown

def StoredSubmissionState.IsUnresolved (state : StoredSubmissionState) : Prop :=
  state = .broadcasting ∨ state = .outcomeUnknown

theorem StoredSubmissionState.IsBarrier.not_evictable {state} (h : state.IsBarrier) :
    isSafelyEvictable state = false := by
  rcases h with rfl | rfl | rfl <;> rfl

def validateEntry (entry : JournalEntry) : Except SubmissionJournalStoreError Unit :=
  Result.rejectIf
    (entry.intent.transactionHash = Bytes32.zero ||
      (entry.intent.mode = .live && entry.intent.anchorBlockHash = Bytes32.zero) ||
      (decide (entry.state = .included) != entry.blockHash.isSome) ||
      (entry.state ≠ .included && entry.blockHeight.isSome) ||
      entry.blockHeight = some 0)
    .invalidData

def upsertEntry (entries : List StoredEntry) (key : SubmissionKey) (entry : JournalEntry) :
    Except SubmissionJournalStoreError (List StoredEntry) :=
  Result.okOr
    (Retention.retain maxRecords (fun entry => entry.attempt.updatedAt.toNat)
      (fun entry => isSafelyEvictable entry.state) entries key entry)
    .unavailable

def saveEntry (entries : List StoredEntry) (key : SubmissionKey) (entry : JournalEntry) :
    Except SubmissionJournalStoreError (List StoredEntry) := do
  validateEntry entry
  upsertEntry entries key entry

def barrierRank (stored : StoredEntry) : ℕ ×ₗ ℕ :=
  toLex (submissionBarrierPriority stored.2.state, stored.2.attempt.updatedAt.toNat)

def plans (profileId : WalletProfileId) (fingerprint : Bytes32) (stored : StoredEntry) : Bool :=
  stored.1.profileId = profileId && stored.2.attempt.planningFingerprint = fingerprint

def dominantFingerprintEntry (entries : List StoredEntry) (profileId : WalletProfileId)
    (fingerprint : Bytes32) : Option StoredEntry :=
  (entries.filter (plans profileId fingerprint)).reverse.argmax barrierRank

section Saving
variable {entries entries' : List StoredEntry} {key : SubmissionKey} {entry : JournalEntry}

theorem saveEntry_ok (h : saveEntry entries key entry = .ok entries') :
    validateEntry entry = .ok () ∧
      Retention.retain maxRecords (fun entry => entry.attempt.updatedAt.toNat)
        (fun entry => isSafelyEvictable entry.state) entries key entry = some entries' := by
  obtain ⟨_, hvalid, hupsert⟩ := Result.bind_ok_iff.mp h
  exact ⟨hvalid, Result.okOr_ok_iff.mp hupsert⟩

/-- **Saving an entry.**  A save that succeeds keeps every entry that may not go. -/
theorem saveEntry_spec (hdistinct : (entries.map Prod.fst).Nodup)
    (h : saveEntry entries key entry = .ok entries') : validateEntry entry = .ok () ∧
      Retention.Kept maxRecords (fun entry => isSafelyEvictable entry.state) entries key entry
        entries' := by
  obtain ⟨hvalid, hretain⟩ := saveEntry_ok h
  exact ⟨hvalid, Retention.retain_spec hdistinct hretain⟩

structure Recordable (entries : List StoredEntry) : Prop where
  distinct : (entries.map Prod.fst).Nodup
  room : entries.length ≤ maxRecords
  valid : ∀ stored ∈ entries, validateEntry stored.2 = .ok ()

theorem recordable_nil : Recordable [] := ⟨nodup_nil, Nat.zero_le _, by simp⟩

theorem Recordable.save (h : Recordable entries)
    (hsave : saveEntry entries key entry = .ok entries') : Recordable entries' := by
  obtain ⟨hvalid, hkept⟩ := saveEntry_spec h.distinct hsave
  refine ⟨hkept.distinct, hkept.room, ?_⟩
  intro stored hmem
  rcases hkept.origin stored hmem with rfl | ⟨hold, -⟩
  · exact hvalid
  · exact h.valid stored hold

end Saving

section Dominant
variable {entries : List StoredEntry} {profileId : WalletProfileId} {fingerprint : Bytes32}
  {stored other : StoredEntry}

theorem dominantFingerprintEntry_eq_none :
    dominantFingerprintEntry entries profileId fingerprint = none ↔
      ∀ other ∈ entries, plans profileId fingerprint other = false := by
  rw [dominantFingerprintEntry, argmax_eq_none, reverse_eq_nil_iff, filter_eq_nil_iff]
  simp only [Bool.not_eq_true]

theorem dominantFingerprintEntry_mem
    (h : dominantFingerprintEntry entries profileId fingerprint = some stored) :
    stored ∈ entries ∧ plans profileId fingerprint stored := by
  have hmem := argmax_mem h
  rwa [mem_reverse, mem_filter] at hmem

theorem priority_le_dominant
    (h : dominantFingerprintEntry entries profileId fingerprint = some stored)
    (hmem : other ∈ entries) (hplans : plans profileId fingerprint other) :
    submissionBarrierPriority other.2.state ≤ submissionBarrierPriority stored.2.state := by
  have hle : barrierRank other ≤ barrierRank stored :=
    le_of_mem_argmax (mem_reverse.mpr (mem_filter.mpr ⟨hmem, hplans⟩)) h
  rcases Prod.Lex.le_iff.mp hle with hlt | ⟨heq, -⟩
  · exact Nat.le_of_lt hlt
  · exact Nat.le_of_eq heq

/-- The entry stands for the fingerprint: an included one if there is one, otherwise an
unresolved one if there is one, and only otherwise a rejected or expired one. -/
structure Dominant (entries : List StoredEntry) (profileId : WalletProfileId)
    (fingerprint : Bytes32) (stored : StoredEntry) : Prop where
  mem : stored ∈ entries
  planned : plans profileId fingerprint stored
  included : (∃ other ∈ entries, plans profileId fingerprint other ∧
    other.2.state = .included) → stored.2.state = .included
  unresolved : (∀ other ∈ entries, plans profileId fingerprint other →
      other.2.state ≠ .included) →
    (∃ other ∈ entries, plans profileId fingerprint other ∧ other.2.state.IsUnresolved) →
    stored.2.state.IsUnresolved
  settled : ¬ stored.2.state.IsBarrier → ∀ other ∈ entries,
    plans profileId fingerprint other → ¬ other.2.state.IsBarrier

theorem dominant_of_eq_some
    (h : dominantFingerprintEntry entries profileId fingerprint = some stored) :
    Dominant entries profileId fingerprint stored := by
  obtain ⟨hmem, hplanned⟩ := dominantFingerprintEntry_mem h
  have hle : ∀ other ∈ entries, plans profileId fingerprint other →
      submissionBarrierPriority other.2.state ≤ submissionBarrierPriority stored.2.state :=
    fun _ => priority_le_dominant h
  refine ⟨hmem, hplanned, ?_, ?_, ?_⟩
  · rintro ⟨other, hother, hplans, hincluded⟩
    have := hle other hother hplans
    rw [hincluded] at this
    revert this
    cases stored.2.state <;> simp [submissionBarrierPriority]
  · rintro hnone ⟨other, hother, hplans, hunresolved⟩
    have hpriority : submissionBarrierPriority other.2.state = 2 := by
      rcases hunresolved with heq | heq <;> rw [heq] <;> rfl
    have := hle other hother hplans
    have hne := hnone stored hmem hplanned
    rw [hpriority] at this
    revert this hne
    cases stored.2.state <;> simp [submissionBarrierPriority, StoredSubmissionState.IsUnresolved]
  · intro hsettled other hother hplans hbarrier
    have := hle other hother hplans
    revert this hsettled hbarrier
    cases stored.2.state <;> cases other.2.state <;>
      simp [submissionBarrierPriority, StoredSubmissionState.IsBarrier]

end Dominant

/-! ## Journals -/

structure Journal where
  entries : List StoredEntry
  recordable : Recordable entries

namespace Journal

def empty : Journal := ⟨[], recordable_nil⟩

variable (journal : Journal)

def rows : Rows SubmissionKey JournalEntry :=
  ⟨journal.entries, journal.recordable.distinct⟩

def load (key : SubmissionKey) : Option JournalEntry := journal.rows.get key

def save (key : SubmissionKey) (entry : JournalEntry) :
    Except SubmissionJournalStoreError Journal :=
  match h : saveEntry journal.entries key entry with
  | .error e => .error e
  | .ok entries => .ok ⟨entries, journal.recordable.save h⟩

/-- A save under a new key may evict this record: the journal is full, and none of the records
that may go is older. -/
def mayEvict (stored : StoredEntry) : Bool :=
  journal.entries.length = maxRecords && isSafelyEvictable stored.2.state &&
    journal.entries.all fun other => !isSafelyEvictable other.2.state ||
      stored.2.attempt.updatedAt.toNat ≤ other.2.attempt.updatedAt.toNat

variable {journal journal' : Journal} {key key' : SubmissionKey} {entry : JournalEntry}

@[simp] theorem load_empty : empty.load key = none := rfl

theorem mem_entries_iff : (key, entry) ∈ journal.entries ↔ journal.load key = some entry := by
  rw [load, ← Rows.mem_list_iff]
  rfl

theorem saveEntry_of_save (h : journal.save key entry = .ok journal') :
    saveEntry journal.entries key entry = .ok journal'.entries := by
  rw [save] at h
  split at h
  · cases h
  · rename_i entries hsave
    cases h
    exact hsave

theorem save_spec (h : journal.save key entry = .ok journal') : validateEntry entry = .ok () ∧
      Retention.Kept maxRecords (fun entry => isSafelyEvictable entry.state) journal.entries key
        entry journal'.entries :=
  saveEntry_spec journal.recordable.distinct (saveEntry_of_save h)

theorem exists_save_empty (h : validateEntry entry = .ok ()) :
    ∃ journal, empty.save key entry = .ok journal := by
  have hsave : saveEntry [] key entry = .ok [(key, entry)] := by
    rw [saveEntry, h, Result.ok_bind]
    simp [upsertEntry, Result.okOr, Retention.retain, Retention.put, Retention.evict,
      Sorting.sortBy, maxRecords]
  rw [save]
  split
  · rename_i herror
    cases hsave.symm.trans herror
  · exact ⟨_, rfl⟩

section
variable (h : journal.save key entry = .ok journal')
include h

theorem load_save : journal'.load key = some entry ∨
      isSafelyEvictable entry.state ∧ journal'.load key = none := by
  obtain ⟨-, hkept⟩ := save_spec h
  cases hload : journal'.load key with
  | some =>
    rcases hkept.origin _ (mem_entries_iff.mpr hload) with heq | ⟨-, hne⟩
    · cases heq
      exact .inl rfl
    · exact absurd rfl hne
  | none =>
    refine .inr ⟨?_, rfl⟩
    by_contra hbarrier
    have hstored := mem_entries_iff.mp (hkept.stored (by simpa using hbarrier))
    rw [hload] at hstored
    cases hstored

theorem load_save_barrier
    (hbarrier : isSafelyEvictable entry.state = false) : journal'.load key = some entry := by
  rcases load_save h with hload | ⟨hevictable, -⟩
  · exact hload
  · rw [hbarrier] at hevictable
    cases hevictable

theorem load_save_of_ne (hne : key' ≠ key) : journal'.load key' = journal.load key' ∨
      journal'.load key' = none ∧
        ∃ old, journal.load key' = some old ∧ isSafelyEvictable old.state := by
  obtain ⟨-, hkept⟩ := save_spec h
  cases hload : journal'.load key' with
  | some =>
    rcases hkept.origin _ (mem_entries_iff.mpr hload) with heq | ⟨hold, -⟩
    · cases heq
      exact absurd rfl hne
    · exact .inl (mem_entries_iff.mp hold).symm
  | none =>
    cases hold : journal.load key' with
    | none => exact .inl rfl
    | some old =>
      refine .inr ⟨rfl, old, rfl, ?_⟩
      by_contra hbarrier
      have hstays := hkept.others _ (mem_entries_iff.mpr hold) hne (by simpa using hbarrier)
      rw [mem_entries_iff, hload] at hstays
      cases hstays

/-- A record stays unless it is the one that a save under a new key evicts. -/
theorem isSome_load_save (hload : (journal.load key').isSome)
    (hspared : journal.load key = none → ∀ old, journal.load key' = some old →
      journal.mayEvict (key', old) = false) : (journal'.load key').isSome := by
  obtain ⟨old, hold⟩ := Option.isSome_iff_exists.mp hload
  by_contra hnone
  have hgone : key' ∉ journal'.entries.map Prod.fst := by
    intro hmem
    obtain ⟨⟨_, found⟩, hfound, rfl⟩ := mem_map.mp hmem
    rw [mem_entries_iff.mp hfound] at hnone
    exact hnone rfl
  obtain ⟨hnew, hfull, hevictable, holdest⟩ := Retention.retain_evicts
    journal.recordable.distinct journal.recordable.room (saveEntry_ok (saveEntry_of_save h)).2
    (mem_entries_iff.mpr hold) hgone
  have hkey : journal.load key = none := by
    by_contra hsome
    obtain ⟨found, hfound⟩ := Option.ne_none_iff_exists'.mp hsome
    exact hnew (mem_map.mpr ⟨_, mem_entries_iff.mpr hfound, rfl⟩)
  have hevicted : journal.mayEvict (key', old) := by
    simp only [mayEvict, hfull, hevictable, Bool.and_eq_true, all_eq_true, Bool.or_eq_true,
      Bool.not_eq_true', decide_eq_true_eq, true_and]
    intro other hother
    exact (Bool.eq_false_or_eq_true _).symm.imp_right (holdest other hother)
  cases hevicted.symm.trans (hspared hkey old hold)

end

end Journal
end Oxid.Midnight
