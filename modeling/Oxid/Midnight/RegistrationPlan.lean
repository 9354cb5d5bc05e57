import Oxid.Sha256
import Oxid.Text
import Oxid.Wallet.Realm.Sync
import Oxid.Midnight.SubmissionJournal
import Oxid.Midnight.UtxoSelection

/-!
# Planning a DUST registration

`plan_registration` sorts the unregistered UTXOs by the DUST they have generated and makes
the intent that registers them; their hash makes its fingerprint.  DUST grows with time, and a
UTXO may overtake another one.
-/

namespace Oxid.Midnight
open Foundation Wallet PassportVault Result List Sorting

inductive RegistrationPortError
  | unavailable | protectionNotInitialized | protectionLocked | accountNotDerived
  | accountNotSynchronized | noEligibleNight | registrationAlreadyCurrent
  | insufficientRegistrationAllowance | draftNotFound | draftExpired | draftConflict
  | submissionInProgress | submissionNotInProgress | submissionCancellationUnsafe
  | authorizationChallengeMismatch | invalidChainState | provingFailed | submissionRejected
  | submissionOutcomeUnknown | timeout | invalidData

def mapAccountError : Realm.AccountPortError → RegistrationPortError
  | .protectionNotInitialized => .protectionNotInitialized
  | .protectionLocked => .protectionLocked
  | .notFound => .accountNotDerived
  | .unsupportedNetwork => .invalidChainState
  | .unavailable => .unavailable
  | .invalidData => .invalidData

def mapTransactionError : TransactionPortError → RegistrationPortError
  | .unavailable => .unavailable
  | .protectionNotInitialized => .protectionNotInitialized
  | .protectionLocked => .protectionLocked
  | .accountNotDerived => .accountNotDerived
  | .accountNotSynchronized => .accountNotSynchronized
  | .draftNotFound => .draftNotFound
  | .draftExpired => .draftExpired
  | .draftConflict | .shieldedStateNotCurrent | .unsupportedNetwork | .invalidRecipient
  | .recipientNetworkMismatch | .insufficientFunds => .draftConflict
  | .submissionInProgress => .submissionInProgress
  | .submissionNotInProgress | .submissionCancelled => .submissionNotInProgress
  | .submissionCancellationUnsafe => .submissionCancellationUnsafe
  | .authorizationChallengeMismatch => .authorizationChallengeMismatch
  | .insufficientDust => .insufficientRegistrationAllowance
  | .invalidChainState => .invalidChainState
  | .provingFailed => .provingFailed
  | .submissionRejected => .submissionRejected
  | .submissionOutcomeUnknown => .submissionOutcomeUnknown
  | .timeout => .timeout
  | .invalidData => .invalidData

def mapStoreError : SubmissionJournalStoreError → RegistrationPortError
  | .unavailable => .unavailable
  | .invalidData => .invalidData

structure UtxoOutput where
  value : U128
  owner : List UInt8

structure UnshieldedOffer where
  inputs : List SpendableUtxo
  outputs : List UtxoOutput

structure RegistrationIntent where
  binding : List UInt8
  expiresAtSeconds : UInt64
  guaranteed : UnshieldedOffer
  fallible : Option UnshieldedOffer
  (nightKey dustAddress : List UInt8)
  allowFeePayment : U128
  ctimeSeconds : UInt64

structure RegistrationContext where
  timestampSeconds : UInt64
  (nightDustRatio generationDecayRate : U128)
  fees : ChainNetworkId → RegistrationIntent → Option U128

/-- What other crates compute: the hash, what is signed of an intent, and the order in which the
ledger keeps the inputs of an offer. -/
structure Ledger where
  sha256 : List UInt8 → Bytes32
  dataToSign : RegistrationIntent → List UInt8
  sortInputs : List SpendableUtxo → List SpendableUtxo
  sortInputs_perm : ∀ utxos, (sortInputs utxos).Perm utxos

structure PlannedRegistration where
  intent : RegistrationIntent
  signingPayload : List UInt8
  eligibilityFingerprint : Bytes32
  registeredNight : U128
  inputCount : ℕ
  maximumFeeAllowance : U128

def maxWalletDustRegistrationInputs : ℕ := 256

def generatedDust (utxo : SpendableUtxo) (createdAtSeconds : UInt64)
    (context : RegistrationContext) : U128 :=
  let elapsed := U128.ofUInt64 (saturatingSub64 context.timestampSeconds createdAtSeconds)
  let cap := utxo.value.saturatingMul context.nightDustRatio
  let rate := utxo.value.saturatingMul context.generationDecayRate
  min (elapsed.saturatingMul rate) cap

abbrev EligibleUtxo := SpendableUtxo × U128

def eligibleUtxo (context : RegistrationContext) (utxo : SpendableUtxo) :
    Except RegistrationPortError EligibleUtxo := do
  let createdAt ← okOr utxo.createdAtSeconds .invalidChainState
  return (utxo, generatedDust utxo createdAt context)

def unusable : List (Bytes32 × UInt32) → List EligibleUtxo → Bool
  | _, [] => false
  | identities, (utxo, _) :: eligible =>
    utxo.value = 0 || identities.contains utxo.identity ||
      unusable (utxo.identity :: identities) eligible

def generationKey (eligible : EligibleUtxo) : ℕᵒᵈ ×ₗ List ℕ ×ₗ ℕ :=
  toLex (OrderDual.toDual eligible.2.val, eligible.1.identityKey)

def utxoBytes (utxo : SpendableUtxo) : List UInt8 :=
  utxo.intentHash.bytes ++ Wire.toBytesBE 4 utxo.outputIndex.toNat ++
    Wire.toBytesBE 16 utxo.value.val ++ Wire.toBytesBE 8 (utxo.createdAtSeconds.getD 0).toNat

/-- What `registration_eligibility_fingerprint` hashes. -/
def eligibleBytes (utxos : List SpendableUtxo) : List UInt8 :=
  Wire.utf8Bytes "oxid:midnight:dust-registration-eligible-inputs:v1\x00" ++ utxos.flatMap utxoBytes

def registrationEligibilityFingerprint (ledger : Ledger) (eligible : List EligibleUtxo) : Bytes32 :=
  ledger.sha256 (eligibleBytes (eligible.map Prod.fst))

def sumValues : List EligibleUtxo → U128 → Except RegistrationPortError U128
  | [], total => .ok total
  | (utxo, _) :: eligible, total => do
    let total ← okOr (U128.checkedAdd total utxo.value) .invalidData
    sumValues eligible total

def offer (ledger : Ledger) (eligible : List EligibleUtxo) (nightKey : List UInt8) :
    Except RegistrationPortError UnshieldedOffer := do
  rejectIf eligible.isEmpty .invalidData
  let total ← sumValues eligible 0
  return ⟨ledger.sortInputs (eligible.map Prod.fst), [⟨total, nightKey⟩]⟩

def fallibleOffer (ledger : Ledger) (rest : List EligibleUtxo) (nightKey : List UInt8) :
    Except RegistrationPortError (Option UnshieldedOffer) :=
  if rest.isEmpty then .ok none else some <$> offer ledger rest nightKey

def planSorted (ledger : Ledger) (binding : List UInt8)
    (networkId : ChainNetworkId) (nightKey dustPublicKey : List UInt8)
    (context : RegistrationContext) (expiresAtSeconds : UInt64) :
    List EligibleUtxo → Except RegistrationPortError PlannedRegistration
  | [] => .error .registrationAlreadyCurrent
  | first :: rest => do
    let eligible := first :: rest
    let maximumFeeAllowance := first.2
    rejectIf (maximumFeeAllowance = 0) .insufficientRegistrationAllowance
    let registeredNight ← sumValues eligible 0
    let guaranteed ← offer ledger [first] nightKey
    let fallible ← fallibleOffer ledger rest nightKey
    let intent : RegistrationIntent :=
      { binding := binding
        expiresAtSeconds := expiresAtSeconds
        guaranteed := guaranteed
        fallible := fallible
        nightKey := nightKey
        dustAddress := dustPublicKey
        allowFeePayment := maximumFeeAllowance
        ctimeSeconds := context.timestampSeconds }
    let signingPayload := ledger.dataToSign intent
    rejectIf (networkId.id.asStr.isEmpty || signingPayload.isEmpty) .invalidData
    rejectIf (2 ^ 16 ≤ eligible.length) .invalidData
    return { intent := intent
             signingPayload := signingPayload
             eligibilityFingerprint := registrationEligibilityFingerprint ledger eligible
             registeredNight := registeredNight
             inputCount := eligible.length
             maximumFeeAllowance := maximumFeeAllowance }

def unregistered (utxos : List SpendableUtxo) : List SpendableUtxo :=
  utxos.filter fun utxo => !utxo.registeredForDustGeneration

def planRegistration (ledger : Ledger) (binding : List UInt8)
    (networkId : ChainNetworkId) (nightKey dustPublicKey : List UInt8)
    (utxos : List SpendableUtxo) (context : RegistrationContext) (expiresAtSeconds : UInt64) :
    Except RegistrationPortError PlannedRegistration := do
  rejectIf utxos.isEmpty .noEligibleNight
  let eligible ← (unregistered utxos).mapM (eligibleUtxo context)
  rejectIf eligible.isEmpty .registrationAlreadyCurrent
  rejectIf (maxWalletDustRegistrationInputs < eligible.length) .invalidData
  rejectIf (unusable [] eligible) .invalidChainState
  planSorted ledger binding networkId nightKey dustPublicKey context expiresAtSeconds
    (Sorting.sortBy generationKey eligible)

def registrationId (ledger : Ledger) (signingPayload : List UInt8) :
    Except RegistrationPortError WalletTransactionDraftId :=
  (WalletTransactionDraftId.parse
    ("dustreg_" ++ String.ofList (Text.hexEncode (ledger.sha256 signingPayload).bytes))).mapError
      fun _ => .invalidData

def registrationChallenge (ledger : Ledger) (draftId : WalletTransactionDraftId)
    (signingPayload : List UInt8) : Except RegistrationPortError OpaqueId :=
  (OpaqueId.parse ("dustauth_" ++ String.ofList (Text.hexEncode (ledger.sha256
    (Wire.utf8Bytes "oxid:midnight:dust-registration-authorization:v1\x00" ++
      Wire.utf8Bytes draftId.id.asStr ++ signingPayload)).bytes))).mapError fun _ => .invalidData

def registrationFingerprint (ledger : Ledger) (profileId : WalletProfileId)
    (networkId : ChainNetworkId) (accountId : ChainAccountId) (eligibilityFingerprint : Bytes32) :
    Bytes32 :=
  ledger.sha256 (Wire.utf8Bytes "oxid:midnight:dust-registration-plan:v1\x00" ++
    Wire.utf8Bytes profileId.id.asStr ++ [0] ++ Wire.utf8Bytes networkId.id.asStr ++ [0] ++
    Wire.utf8Bytes accountId.id.asStr ++ [0] ++ eligibilityFingerprint.bytes)

structure SpendableAccount where
  networkId : ChainNetworkId
  accountId : ChainAccountId
  utxos : List SpendableUtxo

structure PrepareEnvironment where
  selected : Except Realm.AccountPortError ChainNetworkId
  network : Except Realm.AccountPortError (Option ChainNetworkId)
  spendable : Except TransactionPortError SpendableAccount
  nightKey : Except TransactionPortError (List UInt8)
  context : Except TransactionPortError RegistrationContext
  dustPublicKey : Except TransactionPortError (List UInt8)
  ledger : Ledger
  binding : List UInt8
  journalFault : Option SubmissionJournalStoreError

structure PreparedRegistration where
  draftId : WalletTransactionDraftId
  authorizationChallenge : OpaqueId
  planningFingerprint : Bytes32
  networkId : ChainNetworkId
  accountId : ChainAccountId
  plan : PlannedRegistration
  expiresAt : UInt64

def storedRefusal : StoredSubmissionState → RegistrationPortError
  | .broadcasting | .outcomeUnknown => .submissionOutcomeUnknown
  | .included => .registrationAlreadyCurrent
  | .rejected | .expired => .draftConflict

def checkJournal (journal : Journal) (fault : Option SubmissionJournalStoreError)
    (profileId : WalletProfileId) (planningFingerprint : Bytes32) :
    Except RegistrationPortError Unit :=
  match fault with
  | some e => .error (mapStoreError e)
  | none =>
    match dominantFingerprintEntry journal.entries profileId planningFingerprint with
    | some stored => .error (storedRefusal stored.2.state)
    | none => .ok ()

def checkPreview (plan : PlannedRegistration) : Except RegistrationPortError Unit :=
  rejectIf (plan.registeredNight = 0 || plan.inputCount = 0 ||
    maxWalletDustRegistrationInputs < plan.inputCount || plan.maximumFeeAllowance = 0) .invalidData

def planDraft (profileId : WalletProfileId) (expiresAt : UInt64) (env : PrepareEnvironment) :
    Except RegistrationPortError PreparedRegistration := do
  let selected ← env.selected.mapError mapAccountError
  let network ← env.network.mapError mapAccountError
  let _ ← okOr network .invalidChainState
  let spendable ← env.spendable.mapError mapTransactionError
  rejectIf (spendable.networkId ≠ selected) .draftConflict
  let nightKey ← env.nightKey.mapError mapTransactionError
  let context ← env.context.mapError mapTransactionError
  rejectIf (expiresAt / 1000 ≤ context.timestampSeconds) .draftExpired
  let dustPublicKey ← env.dustPublicKey.mapError mapTransactionError
  let plan ← planRegistration env.ledger env.binding selected nightKey dustPublicKey
    spendable.utxos context (expiresAt / 1000)
  let fee ← okOr (context.fees selected plan.intent) .invalidChainState
  rejectIf (plan.maximumFeeAllowance < fee) .insufficientRegistrationAllowance
  let draftId ← registrationId env.ledger plan.signingPayload
  let challenge ← registrationChallenge env.ledger draftId plan.signingPayload
  let planningFingerprint := registrationFingerprint env.ledger profileId selected
    spendable.accountId plan.eligibilityFingerprint
  return ⟨draftId, challenge, planningFingerprint, selected, spendable.accountId, plan, expiresAt⟩

def prepareDraft (journal : Journal) (profileId : WalletProfileId) (expiresAt : UInt64)
    (env : PrepareEnvironment) : Except RegistrationPortError PreparedRegistration := do
  let prepared ← planDraft profileId expiresAt env
  checkJournal journal env.journalFault profileId prepared.planningFingerprint
  checkPreview prepared.plan
  return prepared

section Fingerprint
variable {ledger : Ledger} {binding : List UInt8}
  {networkId : ChainNetworkId} {nightKey dustPublicKey : List UInt8}
  {utxos utxos' : List SpendableUtxo} {context context' : RegistrationContext}
  {expiresAtSeconds : UInt64} {plan plan' : PlannedRegistration} {eligible : List EligibleUtxo}

def generated (context : RegistrationContext) (utxo : SpendableUtxo) : U128 :=
  generatedDust utxo (utxo.createdAtSeconds.getD 0) context

theorem mapM_eligibleUtxo (h : utxos.mapM (eligibleUtxo context) = .ok eligible) :
    eligible = utxos.map fun utxo => (utxo, generated context utxo) := by
  induction utxos generalizing eligible with
  | nil =>
    cases h
    rfl
  | cons _ _ ih =>
    rw [mapM_cons] at h
    obtain ⟨first, hfirst, h⟩ := bind_ok_iff.mp h
    obtain ⟨rest, hrest, h⟩ := bind_ok_iff.mp h
    cases h
    obtain ⟨createdAt, hcreated, hfirst⟩ := bind_ok_iff.mp hfirst
    cases hfirst
    rw [ih hrest, map_cons, generated, okOr_ok_iff.mp hcreated, Option.getD_some]

theorem nodup_of_unusable_eq_false {identities} (h : unusable identities eligible = false) :
    (eligible.map fun e => e.1.identity).Nodup ∧ ∀ e ∈ eligible, e.1.identity ∉ identities := by
  induction eligible generalizing identities with
  | nil => exact ⟨nodup_nil, by simp⟩
  | cons e _ ih =>
    obtain ⟨utxo, dust⟩ := e
    simp only [unusable, Bool.or_eq_false_iff] at h
    obtain ⟨⟨-, hfresh⟩, hrest⟩ := h
    obtain ⟨hnodup, hnot⟩ := ih hrest
    rw [contains_eq_mem, decide_eq_false_iff_not] at hfresh
    refine ⟨nodup_cons.mpr ⟨?_, hnodup⟩, ?_⟩
    · intro hmem
      obtain ⟨other, hother, heq⟩ := mem_map.mp hmem
      exact hnot other hother (heq ▸ mem_cons_self)
    · intro other hother
      rcases mem_cons.mp hother with rfl | hother
      · exact hfresh
      · exact fun hmem => hnot other hother (mem_cons_of_mem _ hmem)

/-- What a plan of sorted UTXOs is made of. -/
structure PlanParts (ledger : Ledger) (nightKey : List UInt8) (plan : PlannedRegistration)
    (first : EligibleUtxo) (rest : List EligibleUtxo) : Prop where
  positive : first.2 ≠ 0
  night : sumValues (first :: rest) 0 = .ok plan.registeredNight
  guaranteed : offer ledger [first] nightKey = .ok plan.intent.guaranteed
  fallible : fallibleOffer ledger rest nightKey = .ok plan.intent.fallible
  allowance : plan.maximumFeeAllowance = first.2
  allowed : plan.intent.allowFeePayment = first.2
  fingerprint : plan.eligibilityFingerprint =
    registrationEligibilityFingerprint ledger (first :: rest)

theorem planSorted_parts
    (h : planSorted ledger binding networkId nightKey dustPublicKey context expiresAtSeconds
      eligible = .ok plan) :
    ∃ first rest, eligible = first :: rest ∧ PlanParts ledger nightKey plan first rest := by
  cases eligible with
  | nil => cases h
  | cons first rest =>
    obtain ⟨_, hpositive, h⟩ := bind_ok_iff.mp h
    obtain ⟨_, hnight, h⟩ := bind_ok_iff.mp h
    obtain ⟨_, hguaranteed, h⟩ := bind_ok_iff.mp h
    obtain ⟨_, hfallible, h⟩ := bind_ok_iff.mp h
    obtain ⟨_, -, h⟩ := bind_ok_iff.mp h
    obtain ⟨_, -, h⟩ := bind_ok_iff.mp h
    cases h
    have hpositive := rejectIf_ok_iff.mp hpositive
    exact ⟨first, rest, rfl, of_decide_eq_false hpositive, hnight, hguaranteed, hfallible, rfl,
      rfl, rfl⟩

def hashOrder (context : RegistrationContext) (utxos : List SpendableUtxo) : List SpendableUtxo :=
  Sorting.sortBy (fun utxo => generationKey (utxo, generated context utxo)) (unregistered utxos)

theorem planRegistration_parts
    (h : planRegistration ledger binding networkId nightKey dustPublicKey utxos context
      expiresAtSeconds = .ok plan) : ((unregistered utxos).map SpendableUtxo.identity).Nodup ∧
      ∃ first rest, (hashOrder context utxos).map (fun utxo => (utxo, generated context utxo)) =
        first :: rest ∧ PlanParts ledger nightKey plan first rest := by
  obtain ⟨_, -, h⟩ := bind_ok_iff.mp h
  obtain ⟨eligible, heligible, h⟩ := bind_ok_iff.mp h
  obtain ⟨_, -, h⟩ := bind_ok_iff.mp h
  obtain ⟨_, -, h⟩ := bind_ok_iff.mp h
  obtain ⟨_, husable, h⟩ := bind_ok_iff.mp h
  obtain rfl := mapM_eligibleUtxo heligible
  obtain ⟨hnodup, -⟩ := nodup_of_unusable_eq_false (rejectIf_ok_iff.mp husable)
  rw [map_map] at hnodup
  rw [sortBy_map] at h
  exact ⟨hnodup, planSorted_parts h⟩

theorem planRegistration_fingerprint
    (h : planRegistration ledger binding networkId nightKey dustPublicKey utxos context
      expiresAtSeconds = .ok plan) : ((unregistered utxos).map SpendableUtxo.identity).Nodup ∧
      plan.eligibilityFingerprint = ledger.sha256 (eligibleBytes (hashOrder context utxos)) := by
  obtain ⟨hnodup, first, rest, hsorted, hparts⟩ := planRegistration_parts h
  refine ⟨hnodup, ?_⟩
  rw [hparts.fingerprint, ← hsorted, registrationEligibilityFingerprint, map_map]
  congr 2
  exact map_id _

/-- The two contexts put the UTXOs in the same order: by the DUST they have generated, and those
that have generated as much as each other by their identity. -/
def SameOrder (context context' : RegistrationContext) (utxos : List SpendableUtxo) : Prop :=
  ∀ a ∈ utxos, ∀ b ∈ utxos,
    generationKey (a, generated context a) ≤ generationKey (b, generated context b) ↔
      generationKey (a, generated context' a) ≤ generationKey (b, generated context' b)

instance instDecidableSameOrder : Decidable (SameOrder context context' utxos) :=
  List.decidableBAll _ utxos

theorem generationKey_le_iff {a b} : generationKey a ≤ generationKey b ↔
      b.2 < a.2 ∨ a.2 = b.2 ∧ a.1.identityKey ≤ b.1.identityKey := by
  rw [generationKey, generationKey, Prod.Lex.toLex_le_toLex, Fin.ext_iff]
  rfl

theorem eq_of_generationKey_eq (hnodup : (utxos.map SpendableUtxo.identity).Nodup) :
    ∀ a ∈ utxos, ∀ b ∈ utxos,
      generationKey (a, generated context a) = generationKey (b, generated context b) → a = b := by
  intro a ha b hb hkey
  have hid : a.identityKey = b.identityKey := (Prod.mk.injEq .. ▸ toLex.injective hkey).2
  exact inj_on_of_nodup_map hnodup ha hb (identity_eq_of_identityKey_eq hid)

theorem identity_eq_of_utxoBytes_eq {a b} (h : utxoBytes a = utxoBytes b) :
    a.identity = b.identity := by
  simp only [utxoBytes, append_assoc] at h
  obtain ⟨hhash, h⟩ := append_inj h (a.intentHash.length_eq.trans b.intentHash.length_eq.symm)
  obtain ⟨hindex, -⟩ := append_inj h (by simp)
  refine Prod.ext (Bytes32.ext hhash) (UInt32.toNat_inj.mp ?_)
  exact Wire.toBytesBE_injective a.outputIndex.toNat_lt b.outputIndex.toNat_lt hindex

section
variable (hsame : ∀ utxo, utxo.registeredForDustGeneration = false → (utxo ∈ utxos ↔ utxo ∈ utxos'))
  (hnodup : ((unregistered utxos).map SpendableUtxo.identity).Nodup)
  (hnodup' : ((unregistered utxos').map SpendableUtxo.identity).Nodup)
include hsame hnodup hnodup'

theorem unregistered_perm : (unregistered utxos').Perm (unregistered utxos) := by
  refine (perm_ext_iff_of_nodup (.of_map _ hnodup') (.of_map _ hnodup)).mpr fun utxo => ?_
  simp only [unregistered, mem_filter, Bool.not_eq_true']
  exact and_congr_left fun hnot => (hsame utxo hnot).symm

/-- **The hashed list is the order.** -/
theorem hashOrder_eq_iff : hashOrder context' utxos' = hashOrder context utxos ↔
    SameOrder context context' (unregistered utxos) := by
  have hperm := unregistered_perm hsame hnodup hnodup'
  constructor
  · intro heq a ha b hb
    refine ⟨le_of_sortBy_eq (eq_of_generationKey_eq hnodup) heq ha hb, ?_⟩
    exact le_of_sortBy_eq (eq_of_generationKey_eq hnodup') heq.symm
      (hperm.mem_iff.mpr ha) (hperm.mem_iff.mpr hb)
  · intro horder
    exact sortBy_eq_of_sameOrder (eq_of_generationKey_eq hnodup)
      (fun a ha b hb => (horder a ha b hb).mpr) hperm

theorem eligibleBytes_eq_iff :
    eligibleBytes (hashOrder context utxos) = eligibleBytes (hashOrder context' utxos') ↔
      SameOrder context context' (unregistered utxos) := by
  rw [← hashOrder_eq_iff hsame hnodup hnodup', eq_comm]
  refine ⟨fun h => Wire.eq_of_flatMap_eq 59 (by simp [utxoBytes, Bytes32.length_eq]) ?_
    (append_cancel_left h), congrArg eligibleBytes⟩
  intro a ha b hb heq
  have ha : a ∈ unregistered utxos := (unregistered_perm hsame hnodup hnodup').mem_iff.mp
    ((sortBy_perm _ _).mem_iff.mp ha)
  have hb : b ∈ unregistered utxos := (sortBy_perm _ _).mem_iff.mp hb
  exact inj_on_of_nodup_map hnodup ha hb (identity_eq_of_utxoBytes_eq heq)

end

end Fingerprint

section Barrier
variable {journal : Journal} {profileId : WalletProfileId} {fingerprint : Bytes32}
  {expiresAt : UInt64} {env : PrepareEnvironment} {prepared : PreparedRegistration}

theorem checkJournal_barrier {stored} (hmem : stored ∈ journal.entries)
    (hplans : plans profileId fingerprint stored) (hbarrier : stored.2.state.IsBarrier) :
    checkJournal journal none profileId fingerprint = .error .submissionOutcomeUnknown ∨
      checkJournal journal none profileId fingerprint = .error .registrationAlreadyCurrent := by
  rw [checkJournal]
  split
  · rename_i dominant hdominant
    have hnot := (dominant_of_eq_some hdominant).settled
    cases hstate : dominant.2.state with
    | broadcasting | outcomeUnknown => exact .inl rfl
    | included => exact .inr rfl
    | rejected | expired =>
      rw [hstate] at hnot
      refine absurd hbarrier (hnot ?_ stored hmem hplans)
      simp [StoredSubmissionState.IsBarrier]
  · rename_i hnone
    rw [dominantFingerprintEntry_eq_none.mp hnone stored hmem] at hplans
    cases hplans

theorem planDraft_ok (h : planDraft profileId expiresAt env = .ok prepared) :
    ∃ selected spendable nightKey context dustPublicKey,
      env.selected = .ok selected ∧ env.spendable = .ok spendable ∧ env.context = .ok context ∧
      planRegistration env.ledger env.binding selected nightKey dustPublicKey
        spendable.utxos context (expiresAt / 1000) = .ok prepared.plan ∧
      prepared.planningFingerprint = registrationFingerprint env.ledger profileId selected
        spendable.accountId prepared.plan.eligibilityFingerprint := by
  obtain ⟨selected, hselected, h⟩ := bind_ok_iff.mp h
  obtain ⟨_, -, h⟩ := bind_ok_iff.mp h
  obtain ⟨_, -, h⟩ := bind_ok_iff.mp h
  obtain ⟨spendable, hspendable, h⟩ := bind_ok_iff.mp h
  obtain ⟨_, -, h⟩ := bind_ok_iff.mp h
  obtain ⟨nightKey, -, h⟩ := bind_ok_iff.mp h
  obtain ⟨context, hcontext, h⟩ := bind_ok_iff.mp h
  obtain ⟨_, -, h⟩ := bind_ok_iff.mp h
  obtain ⟨dustPublicKey, -, h⟩ := bind_ok_iff.mp h
  obtain ⟨plan, hplan, h⟩ := bind_ok_iff.mp h
  obtain ⟨_, -, h⟩ := bind_ok_iff.mp h
  obtain ⟨_, -, h⟩ := bind_ok_iff.mp h
  obtain ⟨_, -, h⟩ := bind_ok_iff.mp h
  obtain ⟨_, -, h⟩ := bind_ok_iff.mp h
  cases h
  exact ⟨selected, spendable, nightKey, context, dustPublicKey, mapError_ok_iff.mp hselected,
    mapError_ok_iff.mp hspendable, mapError_ok_iff.mp hcontext, hplan, rfl⟩

theorem prepareDraft_refused {journal' stored}
    (h : prepareDraft journal' profileId expiresAt env = .ok prepared)
    (hmem : stored ∈ journal.entries) (hplans : plans profileId prepared.planningFingerprint stored)
    (hbarrier : stored.2.state.IsBarrier) :
    prepareDraft journal profileId expiresAt env = .error .submissionOutcomeUnknown ∨
      prepareDraft journal profileId expiresAt env = .error .registrationAlreadyCurrent := by
  obtain ⟨planned, hplanned, h⟩ := bind_ok_iff.mp h
  obtain ⟨_, hjournal, h⟩ := bind_ok_iff.mp h
  obtain ⟨_, -, h⟩ := bind_ok_iff.mp h
  cases h
  have hfault : env.journalFault = none := by
    cases hfault : env.journalFault with
    | none => rfl
    | some =>
      rw [hfault] at hjournal
      cases hjournal
  rw [prepareDraft, hplanned, ok_bind, hfault]
  rcases checkJournal_barrier hmem hplans hbarrier with herror | herror
  · rw [herror]
    exact .inl rfl
  · rw [herror]
    exact .inr rfl

end Barrier

section Registration
variable {ledger : Ledger} {binding binding' : List UInt8} {networkId networkId' : ChainNetworkId}
  {nightKey dustPublicKey nightKey' dustPublicKey' : List UInt8}
  {utxos utxos' : List SpendableUtxo} {context context' : RegistrationContext}
  {expiresAtSeconds expiresAtSeconds' : UInt64} {plan plan' : PlannedRegistration}

/-- The hash does not tell the two messages apart. -/
def Ledger.Collides (ledger : Ledger) (message message' : List UInt8) : Prop :=
  message ≠ message' ∧ ledger.sha256 message = ledger.sha256 message'

/-- **The barrier identifies the funds and their order.**  Two plans of the same UTXOs have the
same fingerprint if and only if no UTXO overtakes another one, or the hash collides; and if they
have, none is prepared while the other one is recorded as included or unresolved. -/
theorem registration_barrier_identifies_funds
    (hsame : ∀ utxo, utxo.registeredForDustGeneration = false → (utxo ∈ utxos ↔ utxo ∈ utxos'))
    (hplan : planRegistration ledger binding networkId nightKey dustPublicKey utxos context
      expiresAtSeconds = .ok plan)
    (hplan' : planRegistration ledger binding' networkId' nightKey' dustPublicKey' utxos'
      context' expiresAtSeconds' = .ok plan') :
    (plan.eligibilityFingerprint = plan'.eligibilityFingerprint ↔
      SameOrder context context' (unregistered utxos) ∨
        ledger.Collides (eligibleBytes (hashOrder context utxos))
          (eligibleBytes (hashOrder context' utxos'))) ∧
    (plan.eligibilityFingerprint = plan'.eligibilityFingerprint →
      ∀ (journal : Journal) key entry accountId expiresAt env,
        journal.load key = some entry → entry.state.IsBarrier →
        entry.attempt.planningFingerprint = registrationFingerprint ledger key.profileId networkId
          accountId plan.eligibilityFingerprint →
        env.ledger = ledger → env.selected = .ok networkId →
        env.spendable = .ok ⟨networkId, accountId, utxos'⟩ → env.context = .ok context' →
        (∀ prepared, prepareDraft journal key.profileId expiresAt env ≠ .ok prepared) ∧
        ∀ journal' prepared, prepareDraft journal' key.profileId expiresAt env = .ok prepared →
          prepareDraft journal key.profileId expiresAt env = .error .submissionOutcomeUnknown ∨
          prepareDraft journal key.profileId expiresAt env =
            .error .registrationAlreadyCurrent) := by
  obtain ⟨hnodup, hfingerprint⟩ := planRegistration_fingerprint hplan
  obtain ⟨hnodup', hfingerprint'⟩ := planRegistration_fingerprint hplan'
  constructor
  · rw [← eligibleBytes_eq_iff hsame hnodup hnodup', hfingerprint, hfingerprint', Ledger.Collides]
    refine ⟨fun heq => (em _).imp_right fun hne => ⟨hne, heq⟩, ?_⟩
    rintro (heq | ⟨-, heq⟩)
    · rw [heq]
    · exact heq
  intro hequal journal key entry accountId expiresAt env hload hbarrier hentry hledger hselected
    hspendable hcontext
  have hrefused : ∀ journal' prepared,
      prepareDraft journal' key.profileId expiresAt env = .ok prepared →
      prepareDraft journal key.profileId expiresAt env = .error .submissionOutcomeUnknown ∨
        prepareDraft journal key.profileId expiresAt env = .error .registrationAlreadyCurrent := by
    intro journal' prepared hprepared
    obtain ⟨planned, hplanned, h⟩ := bind_ok_iff.mp hprepared
    obtain ⟨_, -, h⟩ := bind_ok_iff.mp h
    obtain ⟨_, -, h⟩ := bind_ok_iff.mp h
    cases h
    obtain ⟨selected, spendable, _, _, _, hselected', hspendable', hcontext', hown, hplanning⟩ :=
      planDraft_ok hplanned
    -- the call's own plan has the fingerprint of the recorded one
    cases hselected.symm.trans hselected'
    cases hspendable.symm.trans hspendable'
    cases hcontext.symm.trans hcontext'
    subst hledger
    rw [(planRegistration_fingerprint hown).2, ← hfingerprint', ← hequal, ← hentry] at hplanning
    refine prepareDraft_refused hprepared (Journal.mem_entries_iff.mpr hload) ?_ hbarrier
    simp [plans, hplanning]
  refine ⟨?_, hrefused⟩
  intro prepared hprepared
  rcases hrefused journal prepared hprepared with herror | herror
  · rw [herror] at hprepared
    cases hprepared
  · rw [herror] at hprepared
    cases hprepared

/-! ## A UTXO that overtakes another one -/

def planNetwork : ChainNetworkId := ⟨⟨"plan_network", by decide, by decide, by decide, by decide⟩⟩

def planAccount : ChainAccountId := ⟨⟨"plan_account", by decide, by decide, by decide, by decide⟩⟩

def planProfile : WalletProfileId := ⟨⟨"plan_profile", by decide, by decide, by decide, by decide⟩⟩

def planUtxos : List SpendableUtxo :=
  [⟨1, hashOfByte 1, 0, some 0, false⟩, ⟨10, hashOfByte 2, 0, some 100, false⟩]

def planContext (timestampSeconds : UInt64) : RegistrationContext :=
  ⟨timestampSeconds, 1000, 1, fun _ _ => some 1⟩

def planPayload (intent : RegistrationIntent) : List UInt8 :=
  Wire.toBytesBE 8 intent.expiresAtSeconds.toNat

def planLedger : Ledger where
  sha256 message := ⟨Sha256.digest message, Sha256.length_digest message⟩
  dataToSign := planPayload
  sortInputs utxos := utxos
  sortInputs_perm _ := .rfl

def planAt (timestampSeconds : UInt64) : Except RegistrationPortError PlannedRegistration :=
  planRegistration planLedger [] planNetwork [] [] planUtxos (planContext timestampSeconds) 1000

def prepareEnvironmentAt (timestampSeconds : UInt64) : PrepareEnvironment where
  selected := .ok planNetwork
  network := .ok (some planNetwork)
  spendable := .ok ⟨planNetwork, planAccount, planUtxos⟩
  nightKey := .ok []
  context := .ok (planContext timestampSeconds)
  dustPublicKey := .ok []
  ledger := planLedger
  binding := []
  journalFault := none

def includedRegistration (plan : PlannedRegistration) : JournalEntry where
  attempt := ⟨planNetwork,
    registrationFingerprint planLedger planProfile planNetwork planAccount
      plan.eligibilityFingerprint, 9, 1⟩
  intent := ⟨1, hashOfByte 3, hashOfByte 4, .live⟩
  blockHash := some (hashOfByte 5)
  blockHeight := some 1
  state := .included

def planKey : SubmissionKey :=
  ⟨planProfile, ⟨⟨"dustreg_plan", by decide, by decide, by decide, by decide⟩⟩⟩

theorem registration_barrier_before_overtaking :
    ∃ plan plan' journal, planAt 105 = .ok plan ∧ planAt 110 = .ok plan' ∧
      plan.eligibilityFingerprint = plan'.eligibilityFingerprint ∧
      Journal.empty.save planKey (includedRegistration plan) = .ok journal ∧
      ∀ prepared, prepareDraft journal planProfile 1000000 (prepareEnvironmentAt 110) ≠
        .ok prepared := by
  obtain ⟨plan, hplan⟩ := exists_ok_of_isOk (x := planAt 105) (by decide +kernel)
  obtain ⟨plan', hplan'⟩ := exists_ok_of_isOk (x := planAt 110) (by decide +kernel)
  have hvalid : validateEntry (includedRegistration plan) = .ok () := rfl
  obtain ⟨journal, hsave⟩ := @Journal.exists_save_empty planKey _ hvalid
  have horder : SameOrder (planContext 105) (planContext 110) planUtxos := by decide +kernel
  obtain ⟨hequal, hrefused⟩ :=
    registration_barrier_identifies_funds (fun _ _ => Iff.rfl) hplan hplan'
  have heq := hequal.mpr (.inl horder)
  refine ⟨plan, plan', journal, hplan, hplan', heq, hsave, ?_⟩
  exact (hrefused heq journal planKey _ planAccount 1000000 (prepareEnvironmentAt 110)
    (Journal.load_save_barrier hsave rfl) (.inl rfl) rfl rfl rfl rfl rfl).1

/-- By 200 seconds the younger UTXO has generated more.  The fingerprint is another one, and
the same UTXOs are prepared again although their registration is recorded as included. -/
theorem registration_barrier_overtaken :
    ∃ plan plan' journal, planAt 105 = .ok plan ∧ planAt 200 = .ok plan' ∧
      plan.eligibilityFingerprint ≠ plan'.eligibilityFingerprint ∧
      Journal.empty.save planKey (includedRegistration plan) = .ok journal ∧
      ∃ prepared, prepareDraft journal planProfile 1000000 (prepareEnvironmentAt 200) =
        .ok prepared := by
  refine ⟨_, _, _, rfl, rfl, by decide +kernel, rfl, ?_⟩
  refine exists_ok_of_isOk ?_
  decide +kernel

end Registration

section Conservation
variable {ledger : Ledger} {binding : List UInt8}
  {networkId : ChainNetworkId} {nightKey dustPublicKey : List UInt8}
  {utxos : List SpendableUtxo} {context : RegistrationContext}
  {expiresAtSeconds : UInt64} {plan : PlannedRegistration} {eligible : List EligibleUtxo}

theorem sumValues_ok {total sum} (h : sumValues eligible total = .ok sum) :
    sum.val = total.val + totalValue (eligible.map Prod.fst) := by
  induction eligible generalizing total with
  | nil =>
    cases h
    rfl
  | cons e _ ih =>
    obtain ⟨next, hnext, h⟩ := bind_ok_iff.mp h
    have hadd := U128.checkedAdd_eq_some_iff.mp (okOr_ok_iff.mp hnext)
    rw [ih h, hadd, totalValue, map_cons, totalValue, Greedy.total_cons, Nat.add_assoc]

def UnshieldedOffer.Returns (offered : UnshieldedOffer) (nightKey : List UInt8) : Prop :=
  ∃ total, offered.outputs = [⟨total, nightKey⟩] ∧ total.val = totalValue offered.inputs

theorem offer_ok {offered} (h : offer ledger eligible nightKey = .ok offered) :
    offered.inputs.Perm (eligible.map Prod.fst) ∧ offered.Returns nightKey := by
  obtain ⟨_, -, h⟩ := bind_ok_iff.mp h
  obtain ⟨total, htotal, h⟩ := bind_ok_iff.mp h
  cases h
  have hperm := ledger.sortInputs_perm (eligible.map Prod.fst)
  refine ⟨hperm, total, rfl, ?_⟩
  rw [sumValues_ok htotal, totalValue, totalValue, Greedy.total_perm hperm]
  exact Nat.zero_add _

theorem fallibleOffer_ok {fallible} (h : fallibleOffer ledger eligible nightKey = .ok fallible) :
    (fallible.toList.flatMap UnshieldedOffer.inputs).Perm (eligible.map Prod.fst) ∧
      ∀ offered ∈ fallible, offered.Returns nightKey := by
  rw [fallibleOffer] at h
  split_ifs at h with hempty
  · cases h
    rw [isEmpty_iff.mp hempty]
    exact ⟨.nil, nofun⟩
  · obtain ⟨offered, hoffered, rfl⟩ := map_ok_iff.mp h
    obtain ⟨hperm, hreturns⟩ := offer_ok hoffered
    refine ⟨by simpa using hperm, ?_⟩
    rintro _ ⟨⟩
    exact hreturns

theorem generated_le (context : RegistrationContext) (utxo : SpendableUtxo) :
    (generated context utxo).val ≤ utxo.value.val * context.nightDustRatio.val := by
  refine le_trans (Fin.le_def.mp (min_le_right _ _)) ?_
  rw [U128.saturatingMul]
  split_ifs with hfits
  · exact le_rfl
  · exact le_trans (Nat.sub_le _ _) (not_lt.mp hfits)

theorem generated_le_of_hashOrder {first utxo rest} (h : hashOrder context utxos = first :: rest)
    (hutxo : utxo ∈ unregistered utxos) : generated context utxo ≤ generated context first := by
  have hsorted := pairwise_sortBy
    (fun utxo => generationKey (utxo, generated context utxo)) (unregistered utxos)
  have hmem : utxo ∈ hashOrder context utxos := (sortBy_perm _ _).mem_iff.mpr hutxo
  rw [hashOrder] at h hmem
  rw [h] at hsorted hmem
  rcases mem_cons.mp hmem with rfl | hrest
  · exact le_rfl
  · rcases generationKey_le_iff.mp (rel_of_pairwise_cons hsorted hrest) with hlt | ⟨heq, -⟩
    · exact hlt.le
    · exact heq.ge

/-- **A registration moves no value.**  Its two offers take the unregistered UTXOs, each once, and
give their value back to the wallet's key.  The fee allowance is the most that one has generated. -/
theorem registration_moves_no_value
    (h : planRegistration ledger binding networkId nightKey dustPublicKey utxos context
      expiresAtSeconds = .ok plan) : (plan.intent.guaranteed.inputs ++
        plan.intent.fallible.toList.flatMap UnshieldedOffer.inputs).Perm (unregistered utxos) ∧
      ((unregistered utxos).map SpendableUtxo.identity).Nodup ∧
      plan.intent.guaranteed.Returns nightKey ∧
      (∀ offered ∈ plan.intent.fallible, offered.Returns nightKey) ∧
      plan.registeredNight.val = totalValue (unregistered utxos) ∧
      ∃ utxo, plan.intent.guaranteed.inputs = [utxo] ∧
        plan.maximumFeeAllowance = generated context utxo ∧
        plan.intent.allowFeePayment = plan.maximumFeeAllowance ∧ 0 < plan.maximumFeeAllowance.val ∧
        plan.maximumFeeAllowance.val ≤ utxo.value.val * context.nightDustRatio.val ∧
        ∀ other ∈ unregistered utxos, generated context other ≤ plan.maximumFeeAllowance := by
  obtain ⟨hnodup, first, rest, hsorted, hparts⟩ := planRegistration_parts h
  obtain ⟨utxo, others, horder, rfl, rfl⟩ := map_eq_cons_iff.mp hsorted
  obtain ⟨hguaranteed, hreturns⟩ := offer_ok hparts.guaranteed
  obtain ⟨hfallible, hfallibleReturns⟩ := fallibleOffer_ok hparts.fallible
  have hperm : (utxo :: others).Perm (unregistered utxos) := horder ▸ sortBy_perm _ _
  have hothers : (others.map fun utxo => (utxo, generated context utxo)).map Prod.fst = others := by
    rw [map_map]
    exact map_id _
  rw [hothers] at hfallible
  refine ⟨(hguaranteed.append hfallible).trans hperm, hnodup, hreturns, hfallibleReturns, ?_,
    utxo, perm_singleton.mp hguaranteed, hparts.allowance,
    hparts.allowed.trans hparts.allowance.symm, ?_, ?_, ?_⟩
  · rw [sumValues_ok hparts.night, map_cons, hothers, totalValue, Greedy.total_perm hperm]
    exact Nat.zero_add _
  · rw [hparts.allowance]
    exact Fin.pos_iff_ne_zero.mpr hparts.positive
  · rw [hparts.allowance]
    exact generated_le context utxo
  · intro other hother
    rw [hparts.allowance]
    exact generated_le_of_hashOrder horder hother

theorem registration_moves_no_value_two_inputs :
    ∃ plan, planAt 105 = .ok plan ∧ plan.registeredNight.val = totalValue planUtxos ∧
      ∃ utxo, plan.intent.guaranteed.inputs = [utxo] ∧
        plan.maximumFeeAllowance = generated (planContext 105) utxo := by
  obtain ⟨plan, hplan⟩ := exists_ok_of_isOk (x := planAt 105) (by decide +kernel)
  obtain ⟨-, -, -, -, hnight, utxo, hinput, hallowance, -⟩ := registration_moves_no_value hplan
  exact ⟨plan, hplan, hnight, utxo, hinput, hallowance⟩

end Conservation

end Oxid.Midnight
