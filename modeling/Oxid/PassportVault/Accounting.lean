import Oxid.Accounts
import Oxid.PassportVault.Domain

/-!
# Vault accounting

An operation of the vault updates locks, totals, counters and claims in separate writes.
`Applies` says once what a successful one does; a failed one does nothing.  Everything else is
read off it, first of all that the books balance.
-/

namespace Oxid.PassportVault

open Foundation Transaction Accounts OrderedMap U128 PassportVaultState

/-- A successful operation: what it was allowed to assume, and all it writes. -/
inductive Applies (s : PassportVaultState) :
    Operation → Receipt → PassportVaultState → Prop
  | created (creator policy amount) {next total} (room : s.locks.size < maxVaultLocks)
      (numbered : next.toNat = s.nextLockId.toNat + 1)
      (counted : total.val = s.totalDeposited.val + amount.val) :
      Applies s (.createLock creator policy amount) (.created ⟨s.nextLockId⟩)
        { s with
          locks := s.locks.insert ⟨s.nextLockId⟩ ⟨⟨s.nextLockId⟩, creator, policy, amount, 0⟩
          nextLockId := next
          totalDeposited := total }
  | deposited {lock} (lockId amount) {deposited total} (positive : amount ≠ 0)
      (found : s.locks.find? lockId = some lock)
      (added : deposited.val = lock.totalDeposited.val + amount.val)
      (counted : total.val = s.totalDeposited.val + amount.val) :
      Applies s (.deposit lock.creator lockId amount) .deposited
        { s with
          locks := s.locks.insert lockId { lock with totalDeposited := deposited }
          totalDeposited := total }
  | withdrawn {lock} (lockId amount) {released total} (positive : amount ≠ 0)
      (found : s.locks.find? lockId = some lock) (balance : amount ≤ lock.remaining)
      (taken : released.val = lock.totalReleased.val + amount.val)
      (counted : total.val = s.totalReleased.val + amount.val) :
      Applies s (.withdraw lock.creator lockId amount)
        (.withdrawn { lock with totalReleased := released }.remaining)
        { s with
          locks := s.locks.insert lockId { lock with totalReleased := released }
          totalReleased := total }
  | claimed {lock} (lockId credential amount currentDay) {released total count}
      (positive : amount ≠ 0) (unclaimed : s.consumedClaims.contains ⟨lockId, credential⟩ = false)
      (room : s.consumedClaims.size < maxVaultConsumedClaims)
      (found : s.locks.find? lockId = some lock) (allowed : amount ≤ lock.policy.maximumClaimAmount)
      (balance : amount ≤ lock.remaining)
      (taken : released.val = lock.totalReleased.val + amount.val)
      (counted : total.val = s.totalReleased.val + amount.val)
      (numbered : count.toNat = s.claimCount.toNat + 1) :
      Applies s (.claim lockId credential amount currentDay)
        (.claimed ⟨lockId, amount, currentDay, { lock with totalReleased := released }.remaining⟩)
        { s with
          locks := s.locks.insert lockId { lock with totalReleased := released }
          consumedClaims := s.consumedClaims.insert ⟨lockId, credential⟩ ()
          totalReleased := total
          claimCount := count }

theorem allOrNothing_perform (s : PassportVaultState) (op : Operation) :
    AllOrNothing s op.perform (Applies s op) := by
  cases op with
  | createLock creator policy amount =>
    refine allOrNothing_map _ (allOrNothing_get (allOrNothing_failIf fun room => ?_))
    refine allOrNothing_okOr fun next hnext => allOrNothing_okOr fun total htotal => ?_
    refine allOrNothing_of_call rfl ?_
    exact .created creator policy amount (not_le.mp room) (checkedAdd64_eq_some_iff.mp hnext)
      (checkedAdd_eq_some_iff.mp htotal)
  | deposit _ lockId amount =>
    refine allOrNothing_map _ (allOrNothing_get (allOrNothing_failIf fun positive => ?_))
    refine allOrNothing_okOr fun total htotal => allOrNothing_okOr fun lock found => ?_
    refine allOrNothing_failIf fun creator => allOrNothing_okOr fun deposited hdeposited => ?_
    refine allOrNothing_of_call rfl ?_
    obtain rfl := not_not.mp creator
    exact .deposited lockId amount positive found (checkedAdd_eq_some_iff.mp hdeposited)
      (checkedAdd_eq_some_iff.mp htotal)
  | withdraw _ lockId amount =>
    refine allOrNothing_map _ (allOrNothing_get (allOrNothing_failIf fun positive => ?_))
    refine allOrNothing_okOr fun total htotal => allOrNothing_okOr fun lock found => ?_
    refine allOrNothing_failIf fun creator => allOrNothing_failIf fun balance => ?_
    refine allOrNothing_okOr fun released hreleased => allOrNothing_of_call rfl ?_
    obtain rfl := not_not.mp creator
    exact .withdrawn lockId amount positive found (Fin.not_lt.mp balance)
      (checkedAdd_eq_some_iff.mp hreleased) (checkedAdd_eq_some_iff.mp htotal)
  | claim lockId credential amount currentDay =>
    refine allOrNothing_map _ (allOrNothing_get (allOrNothing_failIf fun positive => ?_))
    refine allOrNothing_failIf fun unclaimed => allOrNothing_failIf fun room => ?_
    refine allOrNothing_okOr fun total htotal => allOrNothing_okOr fun count hcount => ?_
    refine allOrNothing_okOr fun lock found => allOrNothing_failIf fun allowed => ?_
    refine allOrNothing_failIf fun balance => allOrNothing_okOr fun released hreleased => ?_
    refine allOrNothing_of_call rfl ?_
    exact .claimed lockId credential amount currentDay (not_or.mp positive).1
      (Bool.eq_false_iff.mpr unclaimed) (not_le.mp room) found (Fin.not_lt.mp allowed)
      (Fin.not_lt.mp balance) (checkedAdd_eq_some_iff.mp hreleased)
      (checkedAdd_eq_some_iff.mp htotal) (checkedAdd64_eq_some_iff.mp hcount)

/-- The vault refuses a claim on day 0. -/
def Operation.Dated : Operation → Prop
  | .claim _ _ _ currentDay => currentDay ≠ 0
  | .createLock .. | .deposit .. | .withdraw .. => True

theorem call_of_applies {s t op receipt} (h : Applies s op receipt t) (hdated : op.Dated) :
    call s op.perform = (.ok receipt, t) := by
  cases h with
  | created _ _ _ room numbered counted =>
    rw [Operation.perform, call_map, createLock, call_get_bind,
      call_failIf_bind (not_le.mpr room), call_okOr_bind (checkedAdd64_eq_some_iff.mpr numbered),
      call_okOr_bind (checkedAdd_eq_some_iff.mpr counted)]
    rfl
  | deposited _ _ positive found added counted =>
    rw [Operation.perform, call_map, deposit, call_get_bind,
      call_failIf_bind positive, call_okOr_bind (checkedAdd_eq_some_iff.mpr counted),
      call_okOr_bind found, call_failIf_bind (fun hne => hne rfl),
      call_okOr_bind (checkedAdd_eq_some_iff.mpr added)]
    rfl
  | withdrawn _ _ positive found balance taken counted =>
    rw [Operation.perform, call_map, withdraw, call_get_bind,
      call_failIf_bind positive, call_okOr_bind (checkedAdd_eq_some_iff.mpr counted),
      call_okOr_bind found, call_failIf_bind (fun hne => hne rfl),
      call_failIf_bind (Fin.not_lt.mpr balance),
      call_okOr_bind (checkedAdd_eq_some_iff.mpr taken)]
    rfl
  | claimed lockId credential amount currentDay positive unclaimed room found allowed balance
      taken counted numbered =>
      rw [Operation.perform, call_map, claim, call_get_bind,
        call_failIf_bind (not_or.mpr ⟨positive, hdated⟩),
        call_failIf_bind (Bool.eq_false_iff.mp unclaimed), call_failIf_bind (not_le.mpr room),
        call_okOr_bind (checkedAdd_eq_some_iff.mpr counted),
        call_okOr_bind (checkedAdd64_eq_some_iff.mpr numbered), call_okOr_bind found,
        call_failIf_bind (Fin.not_lt.mpr allowed), call_failIf_bind (Fin.not_lt.mpr balance),
        call_okOr_bind (checkedAdd_eq_some_iff.mpr taken)]
      rfl

/-! ## The books -/

def depositedIn (locks : OrderedMap VaultLockId PassportVaultLock) : ℕ :=
  (locks.values.map (·.totalDeposited.val)).sum

def releasedFrom (locks : OrderedMap VaultLockId PassportVaultLock) : ℕ :=
  (locks.values.map (·.totalReleased.val)).sum

/-- Locks are numbered as they are created and never removed. -/
structure LocksInOrder (locks : OrderedMap VaultLockId PassportVaultLock) (count : ℕ) : Prop where
  numbered : locks.keys.map (·.value.toNat) = List.range count
  named : ∀ k lock, locks.find? k = some lock → lock.id = k
  covered : ∀ k lock, locks.find? k = some lock → lock.totalReleased ≤ lock.totalDeposited

/-- The books of a vault balance. -/
structure Accounted (s : PassportVaultState) : Prop where
  locks : LocksInOrder s.locks s.nextLockId.toNat
  deposited : s.totalDeposited.val = depositedIn s.locks
  released : s.totalReleased.val = releasedFrom s.locks
  counted : s.claimCount.toNat = s.consumedClaims.size
  claimed : ∀ c ∈ s.consumedClaims.keys, s.locks.contains c.lockId
  lockRoom : s.locks.size ≤ maxVaultLocks
  claimRoom : s.consumedClaims.size ≤ maxVaultConsumedClaims

section Locks
variable {locks : OrderedMap VaultLockId PassportVaultLock} {count : ℕ} {k : VaultLockId}
  {lock : PassportVaultLock}

section
variable (h : LocksInOrder locks count)
include h

theorem LocksInOrder.keysNumbered :
    OrderedMap.Numbered (fun k : VaultLockId => k.value.toNat) locks count :=
  h.numbered

theorem LocksInOrder.lt_count (hk : k ∈ locks.keys) : k.value.toNat < count :=
  h.keysNumbered.lt_count hk

theorem LocksInOrder.size_eq : locks.size = count :=
  h.keysNumbered.size_eq

theorem LocksInOrder.find?_eq_none (hk : count ≤ k.value.toNat) : locks.find? k = none :=
  h.keysNumbered.find?_eq_none hk

end

theorem val_remaining (h : lock.totalReleased ≤ lock.totalDeposited) :
    lock.remaining.val = lock.totalDeposited.val - lock.totalReleased.val :=
  val_sub h

theorem covered_of_balance {amount released} (h : lock.totalReleased ≤ lock.totalDeposited)
    (hbalance : amount ≤ lock.remaining)
    (htaken : released.val = lock.totalReleased.val + amount.val) :
    released ≤ lock.totalDeposited := by
  rw [Fin.le_def] at h hbalance ⊢
  rw [val_remaining h] at hbalance
  omega

end Locks

/-! ## Every operation keeps the books -/

theorem accounted_default : Accounted .default where
  locks := ⟨rfl, fun _ _ found => (nomatch found), fun _ _ found => (nomatch found)⟩
  deposited := rfl
  released := rfl
  counted := rfl
  claimed := fun _ hc => nomatch hc
  lockRoom := Nat.zero_le _
  claimRoom := Nat.zero_le _

theorem Accounted.balanced {s} (h : Accounted s) :
    Balanced (fun k : VaultLockId => k.value.toNat) (·.totalDeposited.val) (·.totalReleased.val)
      s.locks s.nextLockId.toNat s.totalDeposited.val s.totalReleased.val :=
  ⟨h.locks.numbered, h.locks.covered, h.deposited, h.released⟩

theorem Accounted.covered {s} (h : Accounted s) : s.totalReleased ≤ s.totalDeposited :=
  h.balanced.debited_le

section Books
variable {s t : PassportVaultState} {op : Operation} {receipt : Receipt}
  {lock changed : PassportVaultLock} {lockId : VaultLockId}

theorem contains_insert {locks : OrderedMap VaultLockId PassportVaultLock} {k : VaultLockId}
    (h : locks.contains k) : (locks.insert lockId lock).contains k := by
  rw [contains, find?_insert]
  split_ifs
  · rfl
  · exact h

theorem Accounted.open_lock {creator : VaultActorId} {policy amount total} {next : UInt64}
    (h : Accounted s) (room : s.locks.size < maxVaultLocks)
    (numbered : next.toNat = s.nextLockId.toNat + 1)
    (counted : total.val = s.totalDeposited.val + amount.val) : Accounted { s with
      locks := s.locks.insert ⟨s.nextLockId⟩ ⟨⟨s.nextLockId⟩, creator, policy, amount, 0⟩
      nextLockId := next
      totalDeposited := total } := by
  have hbalanced := h.balanced.open_account (k := ⟨s.nextLockId⟩)
    (v := ⟨⟨s.nextLockId⟩, creator, policy, amount, 0⟩) rfl
    (fun _ _ => UInt64.lt_iff_toNat_lt.mpr) (Nat.zero_le _)
  refine ⟨?_, counted.trans hbalanced.credited, hbalanced.debited, h.counted,
    fun c hc => contains_insert (h.claimed c hc), ?_, h.claimRoom⟩
  · rw [numbered]
    exact ⟨hbalanced.numbered, forall_find?_insert h.locks.named rfl, hbalanced.covered⟩
  · rw [size_insert_of_find? (h.locks.find?_eq_none le_rfl)]
    exact room

theorem Accounted.move {deposited released : U128} (h : Accounted s)
    (found : s.locks.find? lockId = some lock) (hid : changed.id = lock.id)
    (hcovered : changed.totalReleased ≤ changed.totalDeposited)
    (hdeposited : deposited.val + lock.totalDeposited.val =
      s.totalDeposited.val + changed.totalDeposited.val)
    (hreleased : released.val + lock.totalReleased.val =
      s.totalReleased.val + changed.totalReleased.val) : Accounted { s with
      locks := s.locks.insert lockId changed
      totalDeposited := deposited
      totalReleased := released } := by
  have hbalanced := h.balanced.move found hcovered hdeposited hreleased
  refine ⟨⟨hbalanced.numbered, ?_, hbalanced.covered⟩, hbalanced.credited, hbalanced.debited,
    h.counted, fun c hc => contains_insert (h.claimed c hc), ?_, h.claimRoom⟩
  · exact forall_find?_insert h.locks.named (hid.trans (h.locks.named _ _ found))
  · rw [hbalanced.numbered.size_eq, ← h.locks.size_eq]
    exact h.lockRoom

theorem Accounted.consume {credential count} (h : Accounted s)
    (unclaimed : s.consumedClaims.contains ⟨lockId, credential⟩ = false)
    (room : s.consumedClaims.size < maxVaultConsumedClaims) (hlock : s.locks.contains lockId)
    (numbered : count.toNat = s.claimCount.toNat + 1) : Accounted { s with
      consumedClaims := s.consumedClaims.insert ⟨lockId, credential⟩ ()
      claimCount := count } := by
  have hfree : s.consumedClaims.find? ⟨lockId, credential⟩ = none := by
    simpa [contains] using unclaimed
  have hsize := size_insert_of_find? hfree ()
  refine { h with counted := ?_, claimed := ?_, claimRoom := ?_ }
  · rw [numbered, h.counted]
    exact hsize.symm
  · intro c hc
    obtain ⟨u, hu⟩ := mem_keys_iff.mp hc
    rw [find?_insert] at hu
    split_ifs at hu with heq
    · subst heq
      exact hlock
    · exact h.claimed c (mem_keys_iff.mpr ⟨u, hu⟩)
  · rw [hsize]
    exact room

theorem Accounted.applies (h : Accounted s) (happ : Applies s op receipt t) : Accounted t := by
  cases happ with
  | created _ _ _ room numbered counted => exact h.open_lock room numbered counted
  | @deposited lock lockId _ _ _ _ found _ _ =>
    have hcovered := h.locks.covered lockId lock found
    refine h.move found rfl ?_ (by simp only; omega) (by simp only)
    rw [Fin.le_def] at hcovered ⊢
    simp only
    omega
  | @withdrawn lock lockId _ released _ _ found balance taken _ =>
    have hcovered : released ≤ lock.totalDeposited :=
      covered_of_balance (h.locks.covered lockId lock found) balance taken
    exact h.move found rfl hcovered rfl (by simp only; omega)
  | @claimed lock lockId credential amount currentDay released total count positive unclaimed room
      found allowed balance taken counted numbered =>
      have hcovered : released ≤ lock.totalDeposited :=
        covered_of_balance (h.locks.covered lockId lock found) balance taken
      have hmoved : Accounted { s with
          locks := s.locks.insert lockId { lock with totalReleased := released }
          totalReleased := total } :=
        h.move found rfl hcovered rfl (by simp only; omega)
      exact hmoved.consume unclaimed room (by rw [contains, find?_insert_self]; rfl) numbered

end Books

end Oxid.PassportVault
