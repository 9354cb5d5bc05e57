import Oxid.PassportVault.Accounting

/-!
# Restoring the vault

`PassportVaultState::restore` walks over the locks of a snapshot and then over its claims, and
rejects what does not fit; `restore_ok_iff` says exactly what does.
-/

namespace Oxid.PassportVault

open Foundation OrderedMap

def PassportVaultLockSnapshot.entry (lock : PassportVaultLockSnapshot) :
    VaultLockId × PassportVaultLock :=
  (lock.id, lock.lock)

namespace PassportVaultState

structure Restored.Balanced (acc : Restored) (count : ℕ) : Prop where
  locks : LocksInOrder acc.locks count
  deposited : acc.totalDeposited.val = depositedIn acc.locks
  released : acc.totalReleased.val = releasedFrom acc.locks

section Locks
variable {acc r : Restored} {i : ℕ} {lock : PassportVaultLockSnapshot}
  {locks : List PassportVaultLockSnapshot}

theorem Restored.Balanced.entries_insert (h : acc.Balanced i) (hid : lock.id.value.toNat = i) :
    (acc.locks.insert lock.id lock.lock).entries = acc.locks.entries ++ [lock.entry] := by
  apply entries_insert_of_lt
  intro k hk
  have hlt := h.locks.lt_count hk
  rw [← hid, ← UInt64.lt_iff_toNat_lt] at hlt
  exact hlt

theorem restoreLock_ok_iff (h : acc.Balanced i) (hi : i < 2 ^ 64) : restoreLock acc i lock = .ok r ↔
      lock.id.value.toNat = i ∧ lock.totalReleased ≤ lock.totalDeposited ∧
      r.locks = acc.locks.insert lock.id lock.lock ∧
      r.totalDeposited.val = acc.totalDeposited.val + lock.totalDeposited.val ∧
      r.totalReleased.val = acc.totalReleased.val + lock.totalReleased.val := by
  have hnumber : lock.id.value = UInt64.ofNat i ↔ lock.id.value.toNat = i := by
    rw [← UInt64.toNat_inj, UInt64.toNat_ofNat_of_lt' hi]
  have hfree (hid : lock.id.value.toNat = i) : acc.locks.contains lock.id = false := by
    rw [contains, h.locks.find?_eq_none hid.ge]
    rfl
  rw [restoreLock]
  by_cases hid : lock.id.value.toNat = i
  swap
  · simp [hnumber, hid]
  by_cases hcovered : lock.totalDeposited < lock.totalReleased
  · simp [hcovered]
  rw [if_neg (by simp [hnumber, hid, hcovered])]
  rw [Fin.not_lt] at hcovered
  constructor
  · intro hok
    split at hok
    · rename_i totalDeposited totalReleased hdeposited hreleased
      rw [if_neg (by simp [hfree hid])] at hok
      cases hok
      exact ⟨hid, hcovered, rfl, U128.checkedAdd_eq_some_iff.mp hdeposited,
        U128.checkedAdd_eq_some_iff.mp hreleased⟩
    · cases hok
  · rintro ⟨-, -, hlocks, hdeposited, hreleased⟩
    rw [U128.checkedAdd_eq_some_iff.mpr hdeposited, U128.checkedAdd_eq_some_iff.mpr hreleased]
    simp only [hfree hid, Bool.false_eq_true, if_false, ← hlocks]

theorem Restored.Balanced.next (h : acc.Balanced i) (hi : i < 2 ^ 64)
    (hok : restoreLock acc i lock = .ok r) : r.Balanced (i + 1) := by
  obtain ⟨hid, hcovered, hlocks, hdeposited, hreleased⟩ := (restoreLock_ok_iff h hi).mp hok
  have hbalanced : Accounts.Balanced (fun k : VaultLockId => k.value.toNat)
      (·.totalDeposited.val) (·.totalReleased.val) acc.locks i acc.totalDeposited.val
      acc.totalReleased.val :=
    ⟨h.locks.numbered, h.locks.covered, h.deposited, h.released⟩
  have hnext := hbalanced.open_account (k := lock.id) (v := lock.lock) hid
    (fun _ _ => UInt64.lt_iff_toNat_lt.mpr) hcovered
  rw [← hlocks] at hnext
  refine ⟨⟨hnext.numbered, ?_, hnext.covered⟩, hdeposited.trans hnext.credited,
    hreleased.trans hnext.debited⟩
  rw [hlocks]
  exact forall_find?_insert h.locks.named rfl

theorem depositedIn_eq (m : OrderedMap VaultLockId PassportVaultLock) :
    depositedIn m = (m.entries.map fun a => a.2.totalDeposited.val).sum := by
  rw [depositedIn, values, List.map_map]
  rfl

theorem releasedFrom_eq (m : OrderedMap VaultLockId PassportVaultLock) :
    releasedFrom m = (m.entries.map fun a => a.2.totalReleased.val).sum := by
  rw [releasedFrom, values, List.map_map]
  rfl

theorem Restored.Balanced.ext {a b : Restored} (ha : a.Balanced i) (hb : b.Balanced i)
    (hentries : a.locks.entries = b.locks.entries) : a = b := by
  have hlocks := ext_entries hentries
  have hdeposited : a.totalDeposited = b.totalDeposited :=
    Fin.ext (by rw [ha.deposited, hb.deposited, hlocks])
  have hreleased : a.totalReleased = b.totalReleased :=
    Fin.ext (by rw [ha.released, hb.released, hlocks])
  cases a
  cases b
  simp_all

theorem Restored.Balanced.exists_restoreLock (h : acc.Balanced i) {n} (hr : r.Balanced n)
    (hi : i < 2 ^ 64)
    (hentries : r.locks.entries = acc.locks.entries ++ lock.entry :: locks.map (·.entry)) :
    ∃ next, restoreLock acc i lock = .ok next := by
  -- The position of the lock in the restored map is its number.
  have hid : lock.id.value.toNat = i := by
    have hlength : acc.locks.entries.length = i := h.locks.size_eq
    have hget := congrArg (fun l => l[i]?) hr.locks.numbered
    rw [keys, hentries] at hget
    simp only [List.map_append, List.map_cons, List.map_map, List.length_map, hlength, le_refl,
      List.getElem?_append_right, Nat.sub_self, List.getElem?_cons_zero] at hget
    obtain ⟨hlt, heq⟩ := List.getElem?_eq_some_iff.mp hget.symm
    rw [List.getElem_range] at heq
    exact heq.symm
  have hmem : lock.entry ∈ r.locks.entries := by
    rw [hentries]
    simp
  have hcovered : lock.totalReleased ≤ lock.totalDeposited :=
    hr.locks.covered lock.id lock.lock (find?_eq_some_iff.mpr hmem)
  -- The totals of the restored locks have room for this one.
  have hdeposited := hr.deposited
  have hreleased := hr.released
  have hfitsDeposited := r.totalDeposited.isLt
  have hfitsReleased := r.totalReleased.isLt
  rw [depositedIn_eq, hentries, List.map_append, List.sum_append, ← depositedIn_eq,
    ← h.deposited] at hdeposited
  rw [releasedFrom_eq, hentries, List.map_append, List.sum_append, ← releasedFrom_eq,
    ← h.released] at hreleased
  simp only [List.map_cons, List.sum_cons, PassportVaultLockSnapshot.entry,
    PassportVaultLockSnapshot.lock] at hdeposited hreleased
  exact ⟨⟨acc.locks.insert lock.id lock.lock,
      ⟨acc.totalDeposited.val + lock.totalDeposited.val, by omega⟩,
      ⟨acc.totalReleased.val + lock.totalReleased.val, by omega⟩⟩,
    (restoreLock_ok_iff h hi).mpr ⟨hid, hcovered, rfl, rfl, rfl⟩⟩

theorem restoreLocks_ok_iff (h : acc.Balanced i) (hroom : i + locks.length ≤ 2 ^ 64) :
    restoreLocks acc i locks = .ok r ↔ r.Balanced (i + locks.length) ∧
      r.locks.entries = acc.locks.entries ++ locks.map (·.entry) := by
  induction locks generalizing acc i with
  | nil =>
    rw [restoreLocks, Except.ok.injEq]
    constructor
    · intro heq
      rw [← heq]
      exact ⟨h, by simp⟩
    · intro hr
      exact h.ext hr.1 (by simpa using hr.2.symm)
  | cons lock locks ih =>
    rw [List.length_cons] at hroom
    rw [restoreLocks, Result.bind_ok_iff]
    have hsucc : i + (lock :: locks).length = i + 1 + locks.length := by
      rw [List.length_cons]
      omega
    have hnext {next : Restored} (hok : restoreLock acc i lock = .ok next) :
        restoreLocks next (i + 1) locks = .ok r ↔
          r.Balanced (i + (lock :: locks).length) ∧
          r.locks.entries = acc.locks.entries ++ (lock :: locks).map (·.entry) := by
      obtain ⟨hid, -, hlocks, -⟩ := (restoreLock_ok_iff h (by omega)).mp hok
      rw [ih (h.next (by omega) hok) (by omega), hsucc, hlocks, h.entries_insert hid,
        List.append_assoc, List.map_cons, List.singleton_append]
    constructor
    · rintro ⟨next, hok, hrest⟩
      exact (hnext hok).mp hrest
    · intro hr
      obtain ⟨next, hok⟩ := h.exists_restoreLock hr.1 (by omega) hr.2
      exact ⟨next, hok, (hnext hok).mpr hr⟩

end Locks

section Claims
variable {locks : OrderedMap VaultLockId PassportVaultLock}
  {consumed c : OrderedMap ConsumedClaim Unit} {claims : List ConsumedClaim}

theorem restoreClaims_ok_iff : restoreClaims locks consumed claims = .ok c ↔
      (∀ claim ∈ claims, locks.contains claim.lockId) ∧ c.keys.Perm (consumed.keys ++ claims) := by
  induction claims generalizing consumed with
  | nil =>
    rw [restoreClaims, Except.ok.injEq, List.append_nil]
    constructor
    · intro heq
      rw [heq]
      exact ⟨fun _ hmem => absurd hmem List.not_mem_nil, .refl _⟩
    · intro h
      exact (eq_of_keys_perm h.2).symm
  | cons claim claims ih =>
    rw [restoreClaims]
    by_cases hlock : locks.contains claim.lockId
    swap
    · simp [hlock]
    by_cases hfresh : consumed.contains claim
    · rw [if_pos (by simp [hfresh])]
      constructor
      · intro h
        cases h
      · -- A set does not hold the claim twice.
        intro h
        have hnodup := h.2.nodup_iff.mp c.nodup_keys
        have hmem := contains_iff.mp hfresh
        rw [List.nodup_append] at hnodup
        exact absurd rfl (hnodup.2.2 claim hmem claim List.mem_cons_self)
    · have hnone : consumed.find? claim = none := by
        simpa [contains] using hfresh
      rw [if_neg (by simp [hlock, hfresh]), ih, List.forall_mem_cons]
      have hperm : ((consumed.insert claim ()).keys ++ claims).Perm
          (consumed.keys ++ claim :: claims) :=
        ((keys_insert_perm hnone ()).append_right claims).trans
          List.perm_middle.symm
      constructor
      · intro h
        exact ⟨⟨hlock, h.1⟩, h.2.trans hperm⟩
      · intro h
        exact ⟨h.1.2, h.2.trans hperm.symm⟩

end Claims

section Restore
variable {snapshot : PassportVaultStateSnapshot} {s : PassportVaultState}

/-- The state a snapshot describes: the same locks in the same order, the same claims
in some order, the same totals and counters. -/
structure Matches (s : PassportVaultState) (snapshot : PassportVaultStateSnapshot) : Prop where
  nextLockId : s.nextLockId = snapshot.nextLockId
  locks : s.locks.values.map (·.snapshot) = snapshot.locks
  consumedClaims : s.consumedClaims.keys.Perm snapshot.consumedClaims
  totalDeposited : s.totalDeposited = snapshot.totalDeposited
  totalReleased : s.totalReleased = snapshot.totalReleased
  claimCount : s.claimCount = snapshot.claimCount

theorem Matches.length_locks (h : Matches s snapshot) : s.locks.size = snapshot.locks.length := by
  rw [← h.locks, List.length_map, values, List.length_map, size]

theorem Matches.length_consumedClaims (h : Matches s snapshot) :
    s.consumedClaims.size = snapshot.consumedClaims.length := by
  rw [← length_keys, h.consumedClaims.length_eq]

theorem balanced_empty : Restored.Balanced ⟨.empty, 0, 0⟩ 0 where
  locks := accounted_default.locks
  deposited := accounted_default.deposited
  released := accounted_default.released

theorem entries_eq_iff {locks count snapshots} (h : LocksInOrder locks count) :
    locks.entries = snapshots.map (·.entry) ↔ locks.values.map (·.snapshot) = snapshots := by
  have hentries : locks.entries = (locks.values.map (·.snapshot)).map (·.entry) := by
    rw [values, List.map_map, List.map_map]
    refine (List.map_id locks.entries).symm.trans (List.map_congr_left fun a ha => ?_)
    have hid := h.named a.1 a.2 (find?_eq_some_iff.mpr ha)
    exact Prod.ext hid.symm rfl
  constructor
  · intro heq
    rw [values, heq, List.map_map, List.map_map]
    exact List.map_id snapshots
  · intro heq
    rw [hentries, heq]

theorem accounted_of_restore (h : restore snapshot = .ok s) : Accounted s ∧ Matches s snapshot := by
  simp only [restore, Result.bind_ok_iff, Result.rejectIf_ok_iff, exists_const,
    Bool.or_eq_false_iff, decide_eq_false_iff_not, Nat.not_lt, ne_eq, not_not] at h
  obtain ⟨⟨⟨⟨hlocks, hclaims⟩, hcount⟩, hnext⟩, restored, hrestored,
    ⟨⟨hdeposited, hreleased⟩, -⟩, consumed, hconsumed, heq⟩ := h
  rw [maxVaultLocks] at hlocks
  rw [maxVaultConsumedClaims] at hclaims
  obtain ⟨hbalanced, hentries⟩ := (restoreLocks_ok_iff balanced_empty (by omega)).mp hrestored
  obtain ⟨hnamed, hperm⟩ := restoreClaims_ok_iff.mp hconsumed
  rw [Nat.zero_add] at hbalanced
  cases heq
  refine ⟨⟨?_, hbalanced.deposited, hbalanced.released, ?_, ?_, ?_, ?_⟩,
    ⟨rfl, (entries_eq_iff hbalanced.locks).mp hentries, hperm, hdeposited, hreleased, rfl⟩⟩
  · rw [hnext, UInt64.toNat_ofNat_of_lt' (hlocks.trans_lt (by decide))]
    exact hbalanced.locks
  · rw [hcount, UInt64.toNat_ofNat_of_lt' (hclaims.trans_lt (by decide)), ← length_keys]
    exact hperm.length_eq.symm
  · intro c hc
    exact hnamed c (hperm.mem_iff.mp hc)
  · rw [hbalanced.locks.size_eq]
    exact hlocks
  · rw [← length_keys, hperm.length_eq]
    exact hclaims

theorem restore_of_accounted (h : Accounted s) (hmatches : Matches s snapshot) :
    restore snapshot = .ok s := by
  have hlocks := hmatches.length_locks
  have hclaims := hmatches.length_consumedClaims
  have hcount : s.nextLockId.toNat = snapshot.locks.length := by
    rw [← h.locks.size_eq, hlocks]
  have hroom := h.lockRoom
  rw [hlocks, maxVaultLocks] at hroom
  have hbalanced : Restored.Balanced ⟨s.locks, s.totalDeposited, s.totalReleased⟩
      (0 + snapshot.locks.length) := by
    rw [Nat.zero_add, ← hcount]
    exact ⟨h.locks, h.deposited, h.released⟩
  have hrestored : restoreLocks ⟨.empty, 0, 0⟩ 0 snapshot.locks =
      .ok ⟨s.locks, s.totalDeposited, s.totalReleased⟩ :=
    (restoreLocks_ok_iff balanced_empty (by omega)).mpr
      ⟨hbalanced, (entries_eq_iff h.locks).mpr hmatches.locks⟩
  have hconsumed : restoreClaims s.locks .empty snapshot.consumedClaims = .ok s.consumedClaims :=
    restoreClaims_ok_iff.mpr
      ⟨fun c hc => h.claimed c (hmatches.consumedClaims.mem_iff.mpr hc), hmatches.consumedClaims⟩
  simp only [restore, Result.bind_ok_iff, Result.rejectIf_ok_iff, exists_const,
    Bool.or_eq_false_iff, decide_eq_false_iff_not, Nat.not_lt, ne_eq, not_not]
  refine ⟨⟨⟨⟨hroom, ?_⟩, ?_⟩, ?_⟩, _, hrestored,
    ⟨⟨hmatches.totalDeposited, hmatches.totalReleased⟩, Fin.not_lt.mpr h.covered⟩, _, hconsumed, ?_⟩
  · rw [← hclaims]
    exact h.claimRoom
  · rw [← hmatches.claimCount, ← hclaims, ← h.counted, UInt64.ofNat_toNat]
  · rw [← hmatches.nextLockId, ← hcount, UInt64.ofNat_toNat]
  · rw [← hmatches.nextLockId, ← hmatches.claimCount]
    rfl

/-- **Restoring.**  A snapshot is restored to the one accounted state it describes. -/
theorem restore_ok_iff : restore snapshot = .ok s ↔ Accounted s ∧ Matches s snapshot :=
  ⟨accounted_of_restore, fun h => restore_of_accounted h.1 h.2⟩

theorem matches_snapshot (s : PassportVaultState) : Matches s s.snapshot :=
  ⟨rfl, rfl, .refl _, rfl, rfl, rfl⟩

end Restore

end PassportVaultState

end Oxid.PassportVault
