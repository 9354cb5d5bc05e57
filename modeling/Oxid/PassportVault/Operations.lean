import Oxid.PassportVault.Snapshot
import Oxid.Transition.Run

/-!
# Runs of the vault

A vault starts empty or restored from a snapshot, and any operations are called on it in any
order.
-/

namespace Oxid.PassportVault

open Foundation Transaction Option Transition OrderedMap

def stepOperation (s : PassportVaultState) (op : Operation) : Option PassportVaultState :=
  some (call s op.perform).2

def Started (s : PassportVaultState) : Prop :=
  s = .default ∨ ∃ snapshot, PassportVaultState.restore snapshot = .ok s

section Runs
variable {start s t : PassportVaultState} {op : Operation} {ops : List Operation}
  {receipt : Receipt}

theorem Started.accounted (h : Started s) : Accounted s := by
  rcases h with rfl | ⟨snapshot, hrestore⟩
  · exact accounted_default
  · exact (PassportVaultState.restore_ok_iff.mp hrestore).1

theorem applies_of_call (h : call s op.perform = (.ok receipt, t)) : Applies s op receipt t := by
  rcases allOrNothing_perform s op with ⟨e, hcall⟩ | ⟨receipt', t', hcall, happ⟩
  · rw [hcall] at h
    cases h
  · rw [hcall] at h
    cases h
    exact happ

theorem exists_call_of_isOk {o : Operation} (h : (call s o.perform).1.isOk) :
    ∃ receipt t, call s o.perform = (.ok receipt, t) := by
  rcases hcall : call s o.perform with ⟨result, t⟩
  rw [hcall] at h
  cases result with
  | error => cases h
  | ok receipt => exact ⟨receipt, t, rfl⟩

theorem eq_of_call_error {e} (h : call s op.perform = (.error e, t)) : t = s := by
  rcases allOrNothing_perform s op with ⟨e', hcall⟩ | ⟨receipt', t', hcall, -⟩
  · rw [hcall] at h
    cases h
    rfl
  · rw [hcall] at h
    cases h

theorem stepOperation_cases (h : stepOperation s op = some t) :
    t = s ∨ ∃ receipt, call s op.perform = (.ok receipt, t) := by
  rw [stepOperation, some.injEq] at h
  rcases hcall : call s op.perform with ⟨result, t'⟩
  rw [hcall] at h
  cases h
  cases result with
  | error => exact .inl (eq_of_call_error hcall)
  | ok receipt => exact .inr ⟨receipt, rfl⟩

theorem accounted_of_run (hstart : Started start)
    (hrun : run stepOperation start ops = some s) : Accounted s := by
  refine run_invariant hstart.accounted ?_ hrun
  intro p op q hp hstep
  rcases stepOperation_cases hstep with rfl | ⟨receipt, hcall⟩
  · exact hp
  · exact hp.applies (applies_of_call hcall)

/-! ## The books balance -/

/-- **The books balance.**  Whatever is called on an empty or restored vault, its locks are numbered
without a gap, its totals are those of its locks, no lock releases more than it took in, and each
claim is counted and names a lock. -/
theorem books_balance (hstart : Started start) (hrun : run stepOperation start ops = some s) :
    s.locks.keys.map (·.value.toNat) = List.range s.nextLockId.toNat ∧
    (∀ k lock, s.locks.find? k = some lock →
      lock.id = k ∧ lock.totalReleased ≤ lock.totalDeposited ∧
      lock.remaining.val + lock.totalReleased.val = lock.totalDeposited.val) ∧
    s.totalDeposited.val = (s.locks.values.map (·.totalDeposited.val)).sum ∧
    s.totalReleased.val = (s.locks.values.map (·.totalReleased.val)).sum ∧
    s.totalReleased ≤ s.totalDeposited ∧
    s.totalLocked.val + s.totalReleased.val = s.totalDeposited.val ∧
    s.claimCount.toNat = s.consumedClaims.size ∧
    ∀ c ∈ s.consumedClaims.keys, s.locks.contains c.lockId := by
  have h := accounted_of_run hstart hrun
  have hcovered : s.totalReleased ≤ s.totalDeposited := h.covered
  refine ⟨h.locks.numbered, ?_, h.deposited, h.released, hcovered, ?_, h.counted, h.claimed⟩
  · intro k lock hfound
    have hlock := h.locks.covered k lock hfound
    refine ⟨h.locks.named k lock hfound, hlock, ?_⟩
    rw [val_remaining hlock]
    exact Nat.sub_add_cancel hlock
  · rw [PassportVaultState.totalLocked, U128.val_sub hcovered]
    exact Nat.sub_add_cancel hcovered

end Runs

def Sample.policy : PassportVaultPolicy where
  minimumAgeYears := 18
  requiredIssuingState := none
  requiredDocumentNumber := none
  maximumClaimAmount := 50
  verifierChallengeHash := ⟨List.replicate 32 7, by simp⟩
  age_le := by decide
  maximum_ne := by decide
  challenge_ne := by decide
  issuing_ne := by decide
  document_ne := by decide

def Sample.creator : VaultActorId := ⟨"creator", by decide, by decide, by decide, by decide⟩

def Sample.credential : CredentialFingerprint := ⟨⟨List.replicate 32 9, by simp⟩, by decide⟩

def Sample.operations : List Operation :=
  [.createLock Sample.creator Sample.policy 100, .claim ⟨0⟩ Sample.credential 30 1,
    .claim ⟨0⟩ Sample.credential 60 1]

def Sample.claimed : PassportVaultState :=
  (Transition.run stepOperation .default Sample.operations).getD .default

theorem books_balance_claimed : Started .default ∧
    run stepOperation .default Sample.operations = some Sample.claimed ∧
    Sample.claimed.totalLocked = 70 ∧
    Sample.claimed.totalLocked.val + Sample.claimed.totalReleased.val =
      Sample.claimed.totalDeposited.val ∧
    ∀ c ∈ Sample.claimed.consumedClaims.keys, Sample.claimed.locks.contains c.lockId := by
  have hrun : run stepOperation .default Sample.operations = some Sample.claimed := rfl
  have h := books_balance (.inl rfl) hrun
  exact ⟨.inl rfl, hrun, by decide +kernel, h.2.2.2.2.2.1, h.2.2.2.2.2.2.2⟩

def Operation.lockId (s : PassportVaultState) : Operation → VaultLockId
  | .createLock _ _ _ => ⟨s.nextLockId⟩
  | .deposit _ lockId _ | .withdraw _ lockId _ | .claim lockId _ _ _ => lockId

def MovesTotals (s : PassportVaultState) (op : Operation) (t : PassportVaultState) : Prop :=
  match op with
  | .createLock _ _ amount | .deposit _ _ amount =>
    t.totalDeposited.val = s.totalDeposited.val + amount.val ∧ t.totalReleased = s.totalReleased
  | .withdraw _ _ amount | .claim _ _ amount _ =>
    t.totalReleased.val = s.totalReleased.val + amount.val ∧ t.totalDeposited = s.totalDeposited

def Authorised (s : PassportVaultState) : Operation → Prop
  | .createLock _ _ _ => True
  | .deposit actor lockId _ => ∃ lock, s.locks.find? lockId = some lock ∧ lock.creator = actor
  | .withdraw actor lockId amount =>
    ∃ lock, s.locks.find? lockId = some lock ∧ lock.creator = actor ∧ amount ≤ lock.remaining
  | .claim lockId _ amount _ =>
    ∃ lock, s.locks.find? lockId = some lock ∧ amount ≤ lock.policy.maximumClaimAmount ∧
      amount ≤ lock.remaining

def KeepsTerms (s t : PassportVaultState) : Prop :=
  ∀ k lock, s.locks.find? k = some lock →
    ∃ kept, t.locks.find? k = some kept ∧ kept.creator = lock.creator ∧ kept.policy = lock.policy

def Claims (lockId : VaultLockId) (credential : CredentialFingerprint) (s : PassportVaultState)
    (op : Operation) : Prop :=
  ∃ amount currentDay receipt t,
    op = .claim lockId credential amount currentDay ∧ call s op.perform = (.ok receipt, t)

section Calls
variable {start s t : PassportVaultState} {op : Operation} {ops : List Operation}
  {receipt : Receipt} {lockId : VaultLockId} {credential : CredentialFingerprint}
  {lock changed : PassportVaultLock}

theorem Applies.movesTotals (h : Applies s op receipt t) : MovesTotals s op t := by
  cases h with
  | created _ _ _ _ _ counted => exact ⟨counted, rfl⟩
  | deposited _ _ _ _ _ counted => exact ⟨counted, rfl⟩
  | withdrawn _ _ _ _ _ _ counted => exact ⟨counted, rfl⟩
  | claimed lockId credential amount currentDay positive unclaimed room found allowed balance
      taken counted numbered => exact ⟨counted, rfl⟩

theorem Applies.authorised (h : Applies s op receipt t) : Authorised s op := by
  cases h with
  | created => exact trivial
  | deposited _ _ _ found => exact ⟨_, found, rfl⟩
  | withdrawn _ _ _ found balance => exact ⟨_, found, rfl, balance⟩
  | claimed _ _ _ _ _ _ _ found allowed balance => exact ⟨_, found, allowed, balance⟩

theorem ne_of_moved {a b amount : U128} (hsum : b.val = a.val + amount.val) (hpos : amount ≠ 0) :
    a ≠ b := by
  intro heq
  apply hpos
  ext
  rw [heq] at hsum
  show amount.val = 0
  omega

theorem replaced_of_find? {locks : OrderedMap VaultLockId PassportVaultLock}
    (found : locks.find? lockId = some lock) (hne : lock ≠ changed)
    (hcreator : changed.creator = lock.creator) (hpolicy : changed.policy = lock.policy) :
    locks.find? lockId ≠ some changed ∧ ∀ old, locks.find? lockId = some old →
      changed.creator = old.creator ∧ changed.policy = old.policy := by
  rw [found]
  constructor
  · intro heq
    exact hne (some.inj heq)
  · intro old heq
    rw [← some.inj heq]
    exact ⟨hcreator, hpolicy⟩

theorem Applies.exists_insert (h : Applies s op receipt t) (haccounted : Accounted s) :
    ∃ changed, t.locks = s.locks.insert (op.lockId s) changed ∧
      s.locks.find? (op.lockId s) ≠ some changed ∧ ∀ lock, s.locks.find? (op.lockId s) = some lock →
        changed.creator = lock.creator ∧ changed.policy = lock.policy := by
  cases h with
  | created =>
    have hfree : s.locks.find? ⟨s.nextLockId⟩ = none := haccounted.locks.find?_eq_none le_rfl
    refine ⟨_, rfl, ?_, ?_⟩
    · rw [Operation.lockId, hfree]
      simp
    · intro lock found
      rw [Operation.lockId, hfree] at found
      cases found
  | @deposited lock _ _ deposited _ positive found added _ =>
    have hne : lock ≠ { lock with totalDeposited := deposited } := fun heq =>
      ne_of_moved added positive (congrArg PassportVaultLock.totalDeposited heq)
    exact ⟨_, rfl, replaced_of_find? found hne rfl rfl⟩
  | @withdrawn lock _ _ released _ positive found _ taken _ =>
    have hne : lock ≠ { lock with totalReleased := released } := fun heq =>
      ne_of_moved taken positive (congrArg PassportVaultLock.totalReleased heq)
    exact ⟨_, rfl, replaced_of_find? found hne rfl rfl⟩
  | @claimed lock lockId credential amount currentDay released total count positive unclaimed room
      found allowed balance taken counted numbered =>
      have hne : lock ≠ { lock with totalReleased := released } := fun heq =>
        ne_of_moved taken positive (congrArg PassportVaultLock.totalReleased heq)
      exact ⟨_, rfl, replaced_of_find? found hne rfl rfl⟩

theorem Applies.contains_of_contains (h : Applies s op receipt t) {c}
    (hc : s.consumedClaims.contains c) : t.consumedClaims.contains c := by
  cases h with
  | created => exact hc
  | deposited => exact hc
  | withdrawn => exact hc
  | claimed =>
    rw [contains, find?_insert]
    split_ifs
    · rfl
    · exact hc

theorem Claims.consumed (h : Claims lockId credential s op) :
    s.consumedClaims.contains ⟨lockId, credential⟩ = false ∧
      (call s op.perform).2.consumedClaims.contains ⟨lockId, credential⟩ := by
  obtain ⟨amount, currentDay, receipt, t, rfl, hcall⟩ := h
  rw [hcall]
  cases applies_of_call hcall with
  | claimed _ _ _ _ _ unclaimed =>
    refine ⟨unclaimed, ?_⟩
    rw [contains, find?_insert_self]
    rfl

theorem contains_of_someStep (hrun : run stepOperation start ops = some s)
    (hsome : Transition.SomeStep stepOperation (Claims lockId credential) start ops) :
    s.consumedClaims.contains ⟨lockId, credential⟩ := by
  revert hsome
  refine run_induction (motive := fun ops s =>
    Transition.SomeStep stepOperation (Claims lockId credential) start ops →
      s.consumedClaims.contains ⟨lockId, credential⟩) ?_ ?_ ops s hrun
  · intro hsome
    exact absurd hsome not_someStep_nil
  · intro ops p op q hp ih hstep hsome
    rcases (someStep_concat hp).mp hsome with hsome | hclaims
    · have hconsumed := ih hsome
      rcases stepOperation_cases hstep with rfl | ⟨receipt, hcall⟩
      · exact hconsumed
      · exact (applies_of_call hcall).contains_of_contains hconsumed
    · rw [stepOperation, some.injEq] at hstep
      rw [← hstep]
      exact hclaims.consumed.2

/-- **Operations are all or nothing, and authorised.**  A call that fails leaves the vault as it
was; one that succeeds changes one lock, moves the totals by its amount and was allowed to.  Creator
and policy of a lock never change, and no pair is claimed twice. -/
theorem operations_atomic (hstart : Started start)
    (hrun : run stepOperation start ops = some s) (op : Operation) :
    (∀ e t, call s op.perform = (.error e, t) → t = s) ∧
    (∀ receipt t, call s op.perform = (.ok receipt, t) →
      (t.locks.find? (op.lockId s) ≠ s.locks.find? (op.lockId s) ∧
        ∀ k, k ≠ op.lockId s → t.locks.find? k = s.locks.find? k) ∧
      MovesTotals s op t ∧ Authorised s op ∧ KeepsTerms s t) ∧ ∀ lockId credential,
      Transition.SomeStep stepOperation (Claims lockId credential) start ops →
      ¬ Claims lockId credential s op := by
  have haccounted := accounted_of_run hstart hrun
  refine ⟨fun e t => eq_of_call_error, ?_, ?_⟩
  · intro receipt t hcall
    have happ := applies_of_call hcall
    obtain ⟨changed, hlocks, hnew, hterms⟩ := happ.exists_insert haccounted
    refine ⟨⟨?_, ?_⟩, happ.movesTotals, happ.authorised, ?_⟩
    · rw [hlocks, find?_insert_self]
      exact hnew.symm
    · intro k hk
      rw [hlocks, find?_insert_of_ne _ _ hk]
    · intro k lock found
      by_cases hk : k = op.lockId s
      · subst hk
        exact ⟨changed, by rw [hlocks, find?_insert_self], hterms lock found⟩
      · exact ⟨lock, by rw [hlocks, find?_insert_of_ne _ _ hk, found], rfl, rfl⟩
  · intro lockId credential hsome hclaims
    have hconsumed := contains_of_someStep hrun hsome
    rw [hclaims.consumed.1] at hconsumed
    cases hconsumed

end Calls

/-- A second claim of the pair does not succeed; a withdrawal of what is left does. -/
theorem operations_atomic_claimed : Started .default ∧
    run stepOperation .default Sample.operations = some Sample.claimed ∧
    ¬ Claims ⟨0⟩ Sample.credential Sample.claimed (.claim ⟨0⟩ Sample.credential 1 1) ∧ ∃ receipt t,
      call Sample.claimed (Operation.withdraw Sample.creator ⟨0⟩ 70).perform = (.ok receipt, t) ∧
      MovesTotals Sample.claimed (.withdraw Sample.creator ⟨0⟩ 70) t := by
  have hrun : run stepOperation .default Sample.operations = some Sample.claimed := rfl
  have hatomic := operations_atomic (.inl rfl) hrun
  obtain ⟨receipt, t, hclaim⟩ := exists_call_of_isOk
    (s := (call .default (Operation.createLock Sample.creator Sample.policy 100).perform).2)
    (o := .claim ⟨0⟩ Sample.credential 30 1) (by decide +kernel)
  have hsome : Transition.SomeStep stepOperation (Claims ⟨0⟩ Sample.credential) .default
      Sample.operations :=
    ⟨[.createLock Sample.creator Sample.policy 100], .claim ⟨0⟩ Sample.credential 30 1,
      [.claim ⟨0⟩ Sample.credential 60 1], _, rfl, rfl, 30, 1, receipt, t, rfl, hclaim⟩
  obtain ⟨receipt, t, hwithdraw⟩ := exists_call_of_isOk
    (s := Sample.claimed) (o := .withdraw Sample.creator ⟨0⟩ 70) (by decide +kernel)
  exact ⟨.inl rfl, hrun, (hatomic _).2.2 _ _ hsome, receipt, t, hwithdraw,
    ((hatomic _).2.1 _ _ hwithdraw).2.1⟩

end Oxid.PassportVault
