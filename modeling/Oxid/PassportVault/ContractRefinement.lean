import Mathlib.Data.Set.Function
import Oxid.PassportVault.Operations
import Oxid.PassportVault.Contract

/-!
# The vault and its contract

The vault of `passport-vault/domain` and the contract guard the same four operations.  The
vault refuses some requests that the contract accepts, and these are listed; otherwise either
both go through, to related states, or neither does.
-/

namespace Oxid.PassportVault
open Foundation Transaction Contract OrderedMap

structure PolicyTerms where
  minimumAgeYears : UInt8
  (requiredIssuingState requiredDocumentNumber : Option Bytes32)
  maximumClaimAmount : U128
  verifierChallengeHash : Bytes32

def PolicyTerms.policy (terms : PolicyTerms) : Except PassportVaultError PassportVaultPolicy :=
  PassportVaultPolicy.new terms.minimumAgeYears terms.requiredIssuingState
    terms.requiredDocumentNumber terms.maximumClaimAmount terms.verifierChallengeHash

inductive VaultRequest
  | create (creator : VaultActorId) (terms : PolicyTerms) (initialAmount : U128)
  | deposit (actor : VaultActorId) (lockId : UInt64) (amount : U128)
  | withdraw (actor : VaultActorId) (lockId : UInt64) (amount : U128)
  | claim (lockId : UInt64) (credential : CredentialFingerprint) (amount : U128)
      (currentDay : UInt32)

open VaultRequest

def VaultRequest.reduce : VaultRequest → VaultM Receipt
  | .create creator terms initialAmount => do
    let policy ← ofResult terms.policy
    (Operation.createLock creator policy initialAmount).perform
  | .deposit actor lockId amount => (Operation.deposit actor ⟨lockId⟩ amount).perform
  | .withdraw actor lockId amount => (Operation.withdraw actor ⟨lockId⟩ amount).perform
  | .claim lockId credential amount currentDay =>
    (Operation.claim ⟨lockId⟩ credential amount currentDay).perform

/-! ## Related states -/

open Contract (Ledger LockRecord LockTerms ClaimEvidence ClaimNullifier CallContext Circuit
  Presented)

/-- What stands on the ledger for an actor, for a credential and for a claimed pair.  There
are more names of actors than keys, and more pairs than hashes; so the maps are one to one
among the actors and the pairs that occur. -/
structure Correspondence where
  key : VaultActorId → Bytes32
  root : CredentialFingerprint → Bytes32
  persistentHash : ClaimNullifier → Bytes32
  actors : Set VaultActorId
  claims : Set ConsumedClaim
  key_injOn : Set.InjOn key actors
  root_injective : Function.Injective root
  hash_injOn : ∀ c ∈ claims, ∀ c' ∈ claims,
    persistentHash ⟨c.lockId.value, root c.credential⟩ =
      persistentHash ⟨c'.lockId.value, root c'.credential⟩ →
    (⟨c.lockId.value, root c.credential⟩ : ClaimNullifier) =
      ⟨c'.lockId.value, root c'.credential⟩

def Correspondence.nullifier (κ : Correspondence) (c : ConsumedClaim) : Bytes32 :=
  κ.persistentHash ⟨c.lockId.value, κ.root c.credential⟩

theorem Correspondence.nullifier_injOn (κ : Correspondence) : Set.InjOn κ.nullifier κ.claims := by
  intro c hc c' hc' heq
  have hpair := κ.hash_injOn c hc c' hc' heq
  rw [ClaimNullifier.mk.injEq] at hpair
  cases c with
  | mk id =>
    cases c' with
    | mk id' =>
      cases id
      cases id'
      cases hpair.1
      cases κ.root_injective hpair.2
      rfl

def gate (required : Bool) (value : Bytes32) : Option Bytes32 :=
  if required then some value else none

structure RelatedLock (κ : Correspondence) (lock : PassportVaultLock) (rec : LockRecord) :
    Prop where
  occurs : lock.creator ∈ κ.actors
  locker : rec.locker = κ.key lock.creator
  minimumAge : rec.minimumAgeYears = lock.policy.minimumAgeYears
  issuingState :
    gate rec.requireIssuingState rec.requiredIssuingState = lock.policy.requiredIssuingState
  documentNumber :
    gate rec.requireDocumentNumber rec.requiredDocumentNumber = lock.policy.requiredDocumentNumber
  maximum : rec.maxClaimAmount = lock.policy.maximumClaimAmount
  challenge : rec.verifierChallengeHash = lock.policy.verifierChallengeHash
  deposited : rec.totalDeposited = lock.totalDeposited
  released : rec.totalReleased = lock.totalReleased

structure Related (κ : Correspondence) (s : PassportVaultState) (ledger : Ledger) : Prop where
  numbered : ledger.lockCount = s.nextLockId
  locks : ∀ id, Option.Rel (RelatedLock κ) (s.locks.find? ⟨id⟩) (ledger.locks.find? id)
  deposited : ledger.totalDeposited = s.totalDeposited
  released : ledger.totalReleased = s.totalReleased
  counted : ledger.claimCount = s.claimCount
  occur : ∀ c, s.consumedClaims.contains c → c ∈ κ.claims
  consumed : ∀ nullifier, ledger.consumedClaims.contains nullifier ↔
    ∃ c, s.consumedClaims.contains c ∧ κ.nullifier c = nullifier

def policyTerms (terms : LockTerms) : PolicyTerms where
  minimumAgeYears := terms.minAge
  requiredIssuingState := gate terms.reqIssuingState terms.reqIssuingStateValue
  requiredDocumentNumber := gate terms.reqDocumentNumber terms.reqDocumentNumberValue
  maximumClaimAmount := terms.maxClaim
  verifierChallengeHash := terms.configuredVerifierChallengeHash

inductive Matches (κ : Correspondence) (context : CallContext) : VaultRequest → Circuit → Prop
  | create (creator terms initialAmount) (occurs : creator ∈ κ.actors)
      (caller : context.ownPublicKey = κ.key creator) :
      Matches κ context (.create creator (policyTerms terms) initialAmount)
        (.createLock terms initialAmount)
  | deposit (actor lockId amount) (occurs : actor ∈ κ.actors)
      (caller : context.ownPublicKey = κ.key actor) :
      Matches κ context (.deposit actor lockId amount) (.depositToLock lockId amount)
  | withdraw (actor lockId amount) (occurs : actor ∈ κ.actors)
      (caller : context.ownPublicKey = κ.key actor) :
      Matches κ context (.withdraw actor lockId amount) (.withdrawFromLock lockId amount)
  | claim (lockId credential evidence amount currentDay)
      (occurs : ⟨⟨lockId⟩, credential⟩ ∈ κ.claims)
      (presented : evidence.credentialRoot = κ.root credential) :
      Matches κ context (.claim lockId credential amount currentDay)
        (.claimFromLock lockId evidence currentDay amount)

def Attested (context : CallContext) (ledger : Ledger) : Circuit → Prop
  | .claimFromLock lockId evidence currentDay _ =>
    ∀ rec, ledger.locks.find? lockId = some rec →
      Presented context.blockTime evidence currentDay rec ledger
  | _ => True

inductive Refusal (s : PassportVaultState) : VaultRequest → PassportVaultError → Prop
  | locks (creator terms initialAmount) (full : maxVaultLocks ≤ s.locks.size) :
      Refusal s (.create creator terms initialAmount) .capacityExceeded
  | policy (creator) {terms} (initialAmount) {e} (outside : terms.policy = .error e) :
      Refusal s (.create creator terms initialAmount) e
  | claims (lockId credential amount currentDay)
      (full : maxVaultConsumedClaims ≤ s.consumedClaims.size) :
      Refusal s (.claim lockId credential amount currentDay) .capacityExceeded
  | day (lockId credential amount) : Refusal s (.claim lockId credential amount 0) .invalidAmount

def RelatedReceipt : Receipt → Option UInt64 → Prop
  | .created id, returned => returned = some id.value
  | .deposited, returned | .withdrawn _, returned | .claimed _, returned => returned = none

variable {amount : U128}

section Changes
variable {κ : Correspondence} {s t : PassportVaultState} {ledger ledger' : Ledger}
  {lock : PassportVaultLock} {rec : LockRecord} {lockId : UInt64}

section
variable (h : Related κ s ledger)
include h

theorem Related.find?_rec (hfound : s.locks.find? ⟨lockId⟩ = some lock) :
    ∃ rec, ledger.locks.find? lockId = some rec ∧ RelatedLock κ lock rec := by
  have hrel := h.locks lockId
  rw [hfound] at hrel
  cases hrec : ledger.locks.find? lockId with
  | none =>
    rw [hrec] at hrel
    cases hrel
  | some rec =>
    rw [hrec] at hrel
    cases hrel with
    | some hlock => exact ⟨rec, rfl, hlock⟩

theorem Related.find?_lock (hfound : ledger.locks.find? lockId = some rec) :
    ∃ lock, s.locks.find? ⟨lockId⟩ = some lock ∧ RelatedLock κ lock rec := by
  have hrel := h.locks lockId
  rw [hfound] at hrel
  cases hlock : s.locks.find? ⟨lockId⟩ with
  | none =>
    rw [hlock] at hrel
    cases hrel
  | some lock =>
    rw [hlock] at hrel
    cases hrel with
    | some hrelated => exact ⟨lock, rfl, hrelated⟩

theorem Related.insert (hlock : RelatedLock κ lock rec) (id : UInt64) :
    Option.Rel (RelatedLock κ) ((s.locks.insert ⟨lockId⟩ lock).find? ⟨id⟩)
      ((ledger.locks.insert lockId rec).find? id) := by
  rw [find?_insert, find?_insert]
  by_cases hid : id = lockId
  · rw [if_pos (by rw [hid]), if_pos hid]
    exact .some hlock
  · rw [if_neg (fun heq => hid (congrArg VaultLockId.value heq)), if_neg hid]
    exact h.locks id

theorem Related.consume (c : ConsumedClaim) (nullifier : Bytes32) :
    (ledger.consumedClaims.insert (κ.nullifier c) ()).contains nullifier ↔
      ∃ c', (s.consumedClaims.insert c ()).contains c' ∧ κ.nullifier c' = nullifier := by
  have hconsumed := h.consumed nullifier
  simp only [contains_iff, mem_keys_insert] at hconsumed ⊢
  rw [hconsumed]
  constructor
  · rintro (heq | ⟨c', hc', heq⟩)
    · exact ⟨c, .inl rfl, heq.symm⟩
    · exact ⟨c', .inr hc', heq⟩
  · rintro ⟨c', rfl | hc', heq⟩
    · exact .inl heq.symm
    · exact .inr ⟨c', hc', heq⟩

theorem Related.occur_insert {c} (hc : c ∈ κ.claims) :
    ∀ c', (s.consumedClaims.insert c ()).contains c' → c' ∈ κ.claims := by
  intro c' hc'
  rw [contains_iff, mem_keys_insert, ← contains_iff] at hc'
  rcases hc' with rfl | hc'
  · exact hc
  · exact h.occur c' hc'

theorem Related.contains_eq {c} (hc : c ∈ κ.claims) :
    ledger.consumedClaims.contains (κ.nullifier c) = s.consumedClaims.contains c := by
  rw [Bool.eq_iff_iff, h.consumed]
  constructor
  · rintro ⟨c', hc', heq⟩
    rw [← κ.nullifier_injOn (h.occur c' hc') hc heq]
    exact hc'
  · exact fun hcontains => ⟨c, hcontains, rfl⟩

end

theorem relatedLock_record {creator terms policy id} (hcreator : creator ∈ κ.actors)
    (hpolicy : (policyTerms terms).policy = .ok policy) :
    RelatedLock κ ⟨id, creator, policy, amount, 0⟩ (terms.record (κ.key creator) amount) := by
  obtain ⟨hage, hissuing, hdocument, hmaximum, hchallenge⟩ :=
    PassportVaultPolicy.new_ok_iff.mp hpolicy
  exact ⟨hcreator, rfl, hage, hissuing, hdocument, hmaximum, hchallenge, rfl, rfl⟩

end Changes

section Operations
variable {κ : Correspondence} {s t : PassportVaultState} {ledger ledger' : Ledger}
  {receipt : Receipt} {actor : VaultActorId} {lockId : UInt64} {amount : U128}

section
variable (h : Related κ s ledger)
include h

theorem Related.createLock {terms policy} (hactor : actor ∈ κ.actors)
    (hpolicy : (policyTerms terms).policy = .ok policy)
    (happ : Applies s (.createLock actor policy amount) receipt t) :
    ∃ ledger', createLock (κ.key actor) terms amount ledger = .ok (s.nextLockId, ledger') ∧
      receipt = .created ⟨s.nextLockId⟩ ∧ Related κ t ledger' := by
  cases happ with
  | @created _ _ _ next total _ numbered counted =>
    have hmaximum : 0 < terms.maxClaim := by
      have hterms : terms.maxClaim = policy.maximumClaimAmount :=
        (PassportVaultPolicy.new_ok_iff.mp hpolicy).2.2.2.1
      rw [Fin.pos_iff_ne_zero, hterms]
      exact policy.maximum_ne
    refine ⟨_, createLock_ok_iff.mpr ⟨hmaximum, next, total, ?_, ?_, ?_, rfl⟩, rfl, ?_⟩
    · rw [numbered, h.numbered]
    · rw [counted, h.deposited]
    · exact h.numbered.symm
    · refine ⟨rfl, ?_, rfl, h.released, h.counted, h.occur, h.consumed⟩
      rw [h.numbered]
      exact h.insert (relatedLock_record hactor hpolicy)

theorem Related.of_createLock {terms policy returned} (hactor : actor ∈ κ.actors)
    (hpolicy : (policyTerms terms).policy = .ok policy) (hroom : s.locks.size < maxVaultLocks)
    (hcall : Contract.createLock (κ.key actor) terms amount ledger = .ok (returned, ledger')) :
    returned = s.nextLockId ∧ ∃ t,
      Applies s (.createLock actor policy amount) (.created ⟨s.nextLockId⟩) t ∧
      Related κ t ledger' := by
  obtain ⟨-, count, total, hcount, htotal, rfl, rfl⟩ := Contract.createLock_ok_iff.mp hcall
  rw [h.numbered] at hcount
  rw [h.deposited] at htotal
  refine ⟨h.numbered, _, .created actor policy amount hroom hcount htotal, ?_⟩
  refine ⟨rfl, ?_, rfl, h.released, h.counted, h.occur, h.consumed⟩
  rw [h.numbered]
  exact h.insert (relatedLock_record hactor hpolicy)

theorem Related.depositToLock (happ : Applies s (.deposit actor ⟨lockId⟩ amount) receipt t) :
    ∃ ledger', depositToLock (κ.key actor) lockId amount ledger = .ok ledger' ∧
      receipt = .deposited ∧ Related κ t ledger' := by
  cases happ with
  | @deposited _ _ _ deposited total positive found added counted =>
    obtain ⟨rec, hrec, hlock⟩ := h.find?_rec found
    refine ⟨_, depositToLock_ok_iff.mpr ⟨rec, deposited, total, hrec,
      hlock.locker.symm, Fin.pos_iff_ne_zero.mpr positive, ?_, ?_, rfl⟩, rfl, ?_⟩
    · rw [added, hlock.deposited]
    · rw [counted, h.deposited]
    · exact ⟨h.numbered, h.insert { hlock with deposited := rfl }, rfl, h.released, h.counted,
        h.occur, h.consumed⟩

theorem Related.of_depositToLock (hactor : actor ∈ κ.actors)
    (hcall : Contract.depositToLock (κ.key actor) lockId amount ledger = .ok ledger') :
    ∃ t, Applies s (.deposit actor ⟨lockId⟩ amount) .deposited t ∧ Related κ t ledger' := by
  obtain ⟨rec, deposited, total, hrec, hcaller, hpositive, hdeposited, htotal, rfl⟩ :=
    Contract.depositToLock_ok_iff.mp hcall
  obtain ⟨lock, hfound, hlock⟩ := h.find?_lock hrec
  rw [hlock.locker] at hcaller
  rw [hlock.deposited] at hdeposited
  rw [h.deposited] at htotal
  rw [κ.key_injOn hactor hlock.occurs hcaller]
  refine ⟨_, .deposited ⟨lockId⟩ amount (Fin.pos_iff_ne_zero.mp hpositive) hfound hdeposited
    htotal, ?_⟩
  exact ⟨h.numbered, h.insert { hlock with deposited := rfl }, rfl, h.released, h.counted,
    h.occur, h.consumed⟩

theorem Related.withdrawFromLock
    (hs : Accounted s) (happ : Applies s (.withdraw actor ⟨lockId⟩ amount) receipt t) :
    ∃ ledger', withdrawFromLock (κ.key actor) lockId amount ledger = .ok ledger' ∧
      RelatedReceipt receipt none ∧ Related κ t ledger' := by
  cases happ with
  | @withdrawn lock _ _ released total positive found balance taken counted =>
    obtain ⟨rec, hrec, hlock⟩ := h.find?_rec found
    refine ⟨_, withdrawFromLock_ok_iff.mpr ⟨rec, released, total, hrec,
      hlock.locker.symm, Fin.pos_iff_ne_zero.mpr positive, ?_, ?_, ?_, ?_, rfl⟩, rfl, ?_⟩
    · rw [hlock.deposited, hlock.released]
      exact hs.locks.covered ⟨lockId⟩ lock found
    · rw [hlock.deposited, hlock.released]
      exact balance
    · rw [taken, hlock.released]
    · rw [counted, h.released]
    · exact ⟨h.numbered, h.insert { hlock with released := rfl }, h.deposited, rfl, h.counted,
        h.occur, h.consumed⟩

theorem Related.of_withdrawFromLock (hactor : actor ∈ κ.actors)
    (hcall : Contract.withdrawFromLock (κ.key actor) lockId amount ledger = .ok ledger') :
    ∃ receipt t, Applies s (.withdraw actor ⟨lockId⟩ amount) receipt t ∧
      RelatedReceipt receipt none ∧ Related κ t ledger' := by
  obtain ⟨rec, released, total, hrec, hcaller, hpositive, -, hbalance, hreleased, htotal, rfl⟩ :=
    Contract.withdrawFromLock_ok_iff.mp hcall
  obtain ⟨lock, hfound, hlock⟩ := h.find?_lock hrec
  rw [hlock.locker] at hcaller
  rw [hlock.deposited, hlock.released] at hbalance
  rw [hlock.released] at hreleased
  rw [h.released] at htotal
  rw [κ.key_injOn hactor hlock.occurs hcaller]
  refine ⟨_, _, .withdrawn ⟨lockId⟩ amount (Fin.pos_iff_ne_zero.mp hpositive) hfound hbalance
    hreleased htotal, rfl, ?_⟩
  exact ⟨h.numbered, h.insert { hlock with released := rfl }, h.deposited, rfl, h.counted,
    h.occur, h.consumed⟩

end

section Claims
variable {credential : CredentialFingerprint} {evidence : ClaimEvidence} {currentDay : UInt32}
  {blockTime : UInt64}

theorem Related.claimFromLock (h : Related κ s ledger) (hs : Accounted s)
    (hclaim : ⟨⟨lockId⟩, credential⟩ ∈ κ.claims)
    (hevidence : evidence.credentialRoot = κ.root credential)
    (hattested : ∀ rec, ledger.locks.find? lockId = some rec →
      Presented blockTime evidence currentDay rec ledger)
    (happ : Applies s (.claim ⟨lockId⟩ credential amount currentDay) receipt t) :
    ∃ ledger', claimFromLock κ.persistentHash blockTime lockId evidence currentDay amount
        ledger = .ok ledger' ∧ RelatedReceipt receipt none ∧ Related κ t ledger' := by
  cases happ with
  | @claimed lock _ _ _ _ released total count positive unclaimed room found allowed balance
      taken counted numbered =>
      obtain ⟨rec, hrec, hlock⟩ := h.find?_rec found
      refine ⟨_, claimFromLock_ok_iff.mpr ⟨rec, released, total, count, hrec,
        Fin.pos_iff_ne_zero.mpr positive, ?_, ?_, ?_, ?_, hattested rec hrec, ?_, ?_, ?_, rfl⟩,
        rfl, ?_⟩
      · rw [hlock.maximum]
        exact allowed
      · rw [hlock.deposited, hlock.released]
        exact hs.locks.covered ⟨lockId⟩ lock found
      · rw [hlock.deposited, hlock.released]
        exact balance
      · rw [hevidence]
        exact (h.contains_eq hclaim).trans unclaimed
      · rw [taken, hlock.released]
      · rw [counted, h.released]
      · rw [numbered, h.counted]
      · refine ⟨h.numbered, h.insert { hlock with released := rfl }, h.deposited, rfl, rfl,
          h.occur_insert hclaim, ?_⟩
        rw [hevidence]
        exact h.consume ⟨⟨lockId⟩, credential⟩

theorem Related.of_claimFromLock (h : Related κ s ledger)
    (hclaim : ⟨⟨lockId⟩, credential⟩ ∈ κ.claims)
    (hevidence : evidence.credentialRoot = κ.root credential)
    (hroom : s.consumedClaims.size < maxVaultConsumedClaims)
    (hcall : Contract.claimFromLock κ.persistentHash blockTime lockId evidence currentDay amount
      ledger = .ok ledger') :
    ∃ receipt t, Applies s (.claim ⟨lockId⟩ credential amount currentDay) receipt t ∧
      RelatedReceipt receipt none ∧ Related κ t ledger' := by
  obtain ⟨rec, released, total, count, hrec, hpositive, hallowed, -, hbalance, hfresh, -,
    hreleased, htotal, hcount, rfl⟩ := Contract.claimFromLock_ok_iff.mp hcall
  obtain ⟨lock, hfound, hlock⟩ := h.find?_lock hrec
  rw [hlock.maximum] at hallowed
  rw [hlock.deposited, hlock.released] at hbalance
  rw [hevidence] at hfresh
  have hunclaimed := (h.contains_eq hclaim).symm.trans hfresh
  rw [hlock.released] at hreleased
  rw [h.released] at htotal
  rw [h.counted] at hcount
  refine ⟨_, _, .claimed ⟨lockId⟩ credential amount currentDay (Fin.pos_iff_ne_zero.mp hpositive)
    hunclaimed hroom hfound hallowed hbalance hreleased htotal hcount, rfl, ?_⟩
  refine ⟨h.numbered, h.insert { hlock with released := rfl }, h.deposited, rfl, rfl,
    h.occur_insert hclaim, ?_⟩
  rw [hevidence]
  exact h.consume ⟨⟨lockId⟩, credential⟩

end Claims
end Operations

section Refinement
variable {κ : Correspondence} {s t : PassportVaultState} {ledger ledger' : Ledger}
  {context : CallContext} {request : VaultRequest} {circuit : Circuit} {receipt : Receipt}
  {returned : Option UInt64}

theorem circuit_of_reduce (hs : Accounted s) (h : Related κ s ledger)
    (hmatch : Matches κ context request circuit) (hattested : Attested context ledger circuit)
    (hcall : call s request.reduce = (.ok receipt, t)) :
    ∃ returned ledger', circuit.call κ.persistentHash context ledger = .ok (returned, ledger') ∧
      RelatedReceipt receipt returned ∧ Related κ t ledger' := by
  cases hmatch with
  | create _ terms _ hactor hcaller =>
    rw [reduce] at hcall
    cases hpolicy : (policyTerms terms).policy with
    | error =>
      rw [hpolicy, call_bind] at hcall
      cases hcall
    | ok =>
      rw [hpolicy, ofResult_ok, pure_bind] at hcall
      obtain ⟨ledger', hcircuit, rfl, hrelated⟩ :=
        h.createLock hactor hpolicy (applies_of_call hcall)
      refine ⟨some s.nextLockId, ledger', ?_, rfl, hrelated⟩
      rw [call_createLock_ok_iff, hcaller]
      exact ⟨s.nextLockId, rfl, hcircuit⟩
  | deposit _ _ _ _ hcaller =>
    obtain ⟨ledger', hcircuit, rfl, hrelated⟩ := h.depositToLock (applies_of_call hcall)
    refine ⟨none, ledger', ?_, rfl, hrelated⟩
    rw [Circuit.call, map_none_ok_iff, hcaller]
    exact ⟨rfl, hcircuit⟩
  | withdraw _ _ _ _ hcaller =>
    obtain ⟨ledger', hcircuit, hreceipt, hrelated⟩ :=
      h.withdrawFromLock hs (applies_of_call hcall)
    refine ⟨none, ledger', ?_, hreceipt, hrelated⟩
    rw [Circuit.call, map_none_ok_iff, hcaller]
    exact ⟨rfl, hcircuit⟩
  | claim _ _ _ _ _ hclaim hevidence =>
    obtain ⟨ledger', hcircuit, hreceipt, hrelated⟩ :=
      h.claimFromLock hs hclaim hevidence hattested (applies_of_call hcall)
    refine ⟨none, ledger', ?_, hreceipt, hrelated⟩
    rw [Circuit.call, map_none_ok_iff]
    exact ⟨rfl, hcircuit⟩

theorem call_claim_of_day {lockId credential} :
    call s (claim lockId credential amount 0).reduce = (.error .invalidAmount, s) := by
  rw [reduce, Operation.perform, call_map, PassportVaultState.claim, call_get_bind,
    call_failIf_bind_of_bad (.inr rfl)]
  rfl

theorem call_createLock_of_full {creator policy} (hfull : maxVaultLocks ≤ s.locks.size) :
    call s (Operation.createLock creator policy amount).perform =
      (.error .capacityExceeded, s) := by
  rw [Operation.perform, call_map, PassportVaultState.createLock, call_get_bind,
    call_failIf_bind_of_bad hfull]
  rfl

theorem call_claim_of_full {lockId credential currentDay} (hpositive : 0 < amount)
    (hday : currentDay ≠ 0) (hfresh : s.consumedClaims.contains ⟨⟨lockId⟩, credential⟩ = false)
    (hfull : maxVaultConsumedClaims ≤ s.consumedClaims.size) :
    call s (claim lockId credential amount currentDay).reduce = (.error .capacityExceeded, s) := by
  have hamount : amount ≠ 0 := Fin.pos_iff_ne_zero.mp hpositive
  rw [reduce, Operation.perform, call_map, PassportVaultState.claim, call_get_bind,
    call_failIf_bind (not_or.mpr ⟨hamount, hday⟩), call_failIf_bind (Bool.eq_false_iff.mp hfresh),
    call_failIf_bind_of_bad hfull]
  rfl

theorem reduce_of_circuit (h : Related κ s ledger) (hmatch : Matches κ context request circuit)
    (hcircuit : circuit.call κ.persistentHash context ledger = .ok (returned, ledger')) :
    (∃ receipt t, call s request.reduce = (.ok receipt, t) ∧ RelatedReceipt receipt returned ∧
        Related κ t ledger') ∨
      ∃ e, call s request.reduce = (.error e, s) ∧ Refusal s request e := by
  cases hmatch with
  | create creator terms amount hactor hcaller =>
    rw [Contract.call_createLock_ok_iff, hcaller] at hcircuit
    obtain ⟨lockId, rfl, hcircuit⟩ := hcircuit
    rw [reduce]
    cases hpolicy : (policyTerms terms).policy with
    | error e => exact .inr ⟨e, by rw [call_bind]; rfl, .policy creator amount hpolicy⟩
    | ok =>
      rw [ofResult_ok, pure_bind]
      by_cases hroom : s.locks.size < maxVaultLocks
      · obtain ⟨rfl, t, happ, hrelated⟩ := h.of_createLock hactor hpolicy hroom hcircuit
        exact .inl ⟨_, t, call_of_applies happ trivial, rfl, hrelated⟩
      · rw [not_lt] at hroom
        exact .inr ⟨_, call_createLock_of_full hroom, .locks creator _ amount hroom⟩
  | deposit _ _ _ hactor hcaller =>
    rw [Circuit.call, Contract.map_none_ok_iff, hcaller] at hcircuit
    obtain ⟨rfl, hcircuit⟩ := hcircuit
    obtain ⟨t, happ, hrelated⟩ := h.of_depositToLock hactor hcircuit
    exact .inl ⟨_, t, call_of_applies happ trivial, rfl, hrelated⟩
  | withdraw _ _ _ hactor hcaller =>
    rw [Circuit.call, Contract.map_none_ok_iff, hcaller] at hcircuit
    obtain ⟨rfl, hcircuit⟩ := hcircuit
    obtain ⟨receipt, t, happ, hreceipt, hrelated⟩ := h.of_withdrawFromLock hactor hcircuit
    exact .inl ⟨receipt, t, call_of_applies happ trivial, hreceipt, hrelated⟩
  | claim lockId credential _ amount currentDay hclaim hevidence =>
    rw [Circuit.call, Contract.map_none_ok_iff] at hcircuit
    obtain ⟨rfl, hcircuit⟩ := hcircuit
    by_cases hday : currentDay = 0
    · subst hday
      exact .inr ⟨.invalidAmount, call_claim_of_day, .day lockId credential amount⟩
    by_cases hroom : s.consumedClaims.size < maxVaultConsumedClaims
    · obtain ⟨receipt, t, happ, hreceipt, hrelated⟩ :=
        h.of_claimFromLock hclaim hevidence hroom hcircuit
      exact .inl ⟨receipt, t, call_of_applies happ hday, hreceipt, hrelated⟩
    · -- the contract has seen that the amount is positive and the pair is fresh
      obtain ⟨rec, released, total, count, -, hpositive, -, -, -, hfresh, -⟩ :=
        Contract.claimFromLock_ok_iff.mp hcircuit
      rw [hevidence] at hfresh
      have hunclaimed := (h.contains_eq hclaim).symm.trans hfresh
      rw [not_lt] at hroom
      exact .inr ⟨_, call_claim_of_full hpositive hday hunclaimed hroom,
        .claims lockId credential amount currentDay hroom⟩

theorem Accounted.reduce {receipt} (hs : Accounted s)
    (hcall : call s request.reduce = (.ok receipt, t)) : Accounted t := by
  cases request with
  | create _ terms =>
    rw [reduce] at hcall
    cases hpolicy : terms.policy with
    | error =>
      rw [hpolicy, call_bind] at hcall
      cases hcall
    | ok =>
      rw [hpolicy, ofResult_ok, pure_bind] at hcall
      exact hs.applies (applies_of_call hcall)
  | deposit | withdraw | claim =>
    rw [reduce] at hcall
    exact hs.applies (applies_of_call hcall)

theorem related_deploy (κ : Correspondence) (initialAdmin : Bytes32)
    (issuerRef : Contract.VerificationMethodRef) (issuerPublicKeyHash : Bytes32) :
    Related κ .default (.deploy initialAdmin issuerRef issuerPublicKeyHash) where
  numbered := rfl
  locks _ := .none
  deposited := rfl
  released := rfl
  counted := rfl
  occur _ hc := nomatch hc
  consumed nullifier := by
    constructor
    · nofun
    · rintro ⟨c, hc, -⟩
      cases hc

open Sample

def terms : LockTerms :=
  ⟨18, false, .zero, false, .zero, 50, policy.verifierChallengeHash⟩

def correspondence : Correspondence where
  key _ := .zero
  root credential := credential.bytes
  persistentHash nullifier := nullifier.credentialRoot
  actors := {creator}
  claims := {⟨⟨0⟩, credential⟩}
  key_injOn := Set.injOn_singleton _ _
  root_injective := by
    intro a b h
    cases a
    cases b
    congr
  hash_injOn := by
    intro c hc c' hc' _
    rw [Set.mem_singleton_iff.mp hc, Set.mem_singleton_iff.mp hc']

def presentation : ClaimEvidence where
  credentialRoot := credential.bytes
  issuerVerificationMethodRef := ⟨.zero, .zero⟩
  publicKeyHash := .zero
  hasExpiration := true
  expiresAt := 100000
  issuingStateValue := .zero
  documentNumberValue := .zero
  ageThresholdYears := 18
  validPresentation := true
  satisfiesRequest _ := true
  validAgePredicate _ := true

/-- **The vault and its contract agree.**  What the vault accepts the contract accepts, and what the
contract accepts the vault accepts or refuses for one of its own reasons. -/
theorem reducer_refines_contract (hs : Accounted s) (hrelated : Related κ s ledger)
    (hmatch : Matches κ context request circuit) (hattested : Attested context ledger circuit) :
    (∀ receipt t, call s request.reduce = (.ok receipt, t) →
      ∃ returned ledger', circuit.call κ.persistentHash context ledger = .ok (returned, ledger') ∧
        RelatedReceipt receipt returned ∧ Related κ t ledger') ∧ (∀ returned ledger',
      circuit.call κ.persistentHash context ledger = .ok (returned, ledger') →
      (∃ receipt t, call s request.reduce = (.ok receipt, t) ∧
        RelatedReceipt receipt returned ∧ Related κ t ledger') ∨
      ∃ e, call s request.reduce = (.error e, s) ∧ Refusal s request e) :=
  ⟨fun _ _ hcall => circuit_of_reduce hs hrelated hmatch hattested hcall,
    fun _ _ hcircuit => reduce_of_circuit hrelated hmatch hcircuit⟩

/-- The vault with a lock of 100, its ledger, and a claim of 30 with a presentation the contract
accepts on the second day. -/
theorem reducer_and_contract_create_and_claim : ∃ opened ledger,
      call .default (create creator (policyTerms terms) 100).reduce = (.ok (.created ⟨0⟩), opened) ∧
      (Circuit.createLock terms 100).call correspondence.persistentHash ⟨.zero, 0⟩
        (.deploy .zero ⟨.zero, .zero⟩ .zero) = .ok (some 0, ledger) ∧
      (call opened (claim 0 credential 30 1).reduce).1.isOk ∧
      ∀ receipt t, call opened (claim 0 credential 30 1).reduce = (.ok receipt, t) →
        ∃ returned ledger', (Circuit.claimFromLock 0 presentation 1 30).call
            correspondence.persistentHash ⟨.zero, 86400⟩ ledger = .ok (returned, ledger') ∧
          RelatedReceipt receipt returned ∧ Related correspondence t ledger' := by
  obtain ⟨opened, hopened, hclaim⟩ : ∃ opened,
      call .default (create creator (policyTerms terms) 100).reduce =
          (.ok (.created ⟨0⟩), opened) ∧
        (call opened (claim 0 credential 30 1).reduce).1.isOk :=
    ⟨_, Prod.ext (by decide +kernel) rfl, by decide +kernel⟩
  have hcreate : Matches correspondence ⟨.zero, 0⟩ (.create creator (policyTerms terms) 100)
      (.createLock terms 100) := .create _ _ _ (Set.mem_singleton _) rfl
  obtain ⟨_, ledger, hcircuit, rfl, hrelated⟩ := (reducer_refines_contract accounted_default
    (related_deploy correspondence .zero ⟨.zero, .zero⟩ .zero) hcreate trivial).1 _ _ hopened
  refine ⟨opened, ledger, hopened, hcircuit, hclaim, ?_⟩
  have hattested : Attested ⟨.zero, 86400⟩ ledger (.claimFromLock 0 presentation 1 30) := by
    obtain ⟨_, hvalue, hcircuit⟩ := Contract.call_createLock_ok_iff.mp hcircuit
    obtain ⟨-, _, _, -, -, -, rfl⟩ := Contract.createLock_ok_iff.mp hcircuit
    rintro rec ⟨⟩
    exact ⟨rfl, by decide +kernel⟩
  exact (reducer_refines_contract (accounted_default.reduce hopened) hrelated
    (.claim 0 credential presentation 30 1 (Set.mem_singleton _) rfl) hattested).1

end Refinement
end Oxid.PassportVault
