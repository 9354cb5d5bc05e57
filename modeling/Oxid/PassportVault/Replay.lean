import Oxid.PassportVault.Inference

/-!
# Replaying a history

`replay.rs` reconstructs the state of the contract from a canonical history.  Running, decoding
and encoding transactions are the ledger's (`MidnightLedger`).  What is proved is when it
complains about the order of the history.
-/

namespace Oxid.PassportVault

open Foundation Result PassportVaultReplayError

variable {M : MidnightTypes}

def maxReplayTransactions : ℕ := 16384

def maxReplayTransactionBytes : ℕ := 16 * 1024 * 1024

def maxReplayTotalTransactionBytes : ℕ := 512 * 1024 * 1024

structure CanonicalMidnightBlockContext where
  secondsSinceEpoch : UInt64
  uncertaintySeconds : UInt32
  parentBlockHash : Bytes32
  priorBlockSecondsSinceEpoch : UInt64
  deriving DecidableEq

structure CanonicalMidnightTransaction where
  rawTransaction : List UInt8
  (transactionHash blockHash : Bytes32)
  blockHeight : UInt64
  extrinsicIndex : UInt32
  blockContext : CanonicalMidnightBlockContext
  allApplied : Bool
  appliedOperations : List CanonicalMidnightOperation
  deriving DecidableEq

structure Anchor where
  (transactionHash blockHash : Bytes32)
  blockHeight : UInt64

structure ReplayedPassportVaultState where
  serializedContractState : List UInt8
  (deployment latest : Anchor)
  replayedTransactionCount : ℕ

/-- The functions of the ledger crates that a replay calls. -/
structure MidnightLedger (M : MidnightTypes) where
  deserialize : List UInt8 → Option (M.Transaction × ℕ)
  transactionHash : M.Transaction → Bytes32
  actions : M.Transaction → List (UInt16 × ContractAction M)
  intents : M.Transaction → List (UInt16 × M.Intent)
  query : ContractState M → ContractCall M → M.Program → M.Intent →
    CanonicalMidnightBlockContext → Option (M.StateValue × Effects M)
  serialize : ContractState M → Option (List UInt8)

section Code
variable (L : MidnightLedger M)

/-- Bytes behind the transaction are refused. -/
def decodeTransaction (raw : List UInt8) : Except PassportVaultReplayError M.Transaction := do
  let (transaction, position) ← okOr (L.deserialize raw) .invalidTransaction
  rejectIf (position ≠ raw.length) .invalidTransaction
  return transaction

def findIntent (intents : List (UInt16 × M.Intent)) (segment : UInt16) :
    Except PassportVaultReplayError M.Intent :=
  okOr ((intents.find? fun intent => intent.1 = segment).map Prod.snd) .invalidTransaction

/-- A token that the contract does not hold yet counts as zero. -/
def moveToken (move : U128 → U128 → Option U128) (balance : OrderedMap M.Token U128)
    (token : M.Token × U128) : Except PassportVaultReplayError (OrderedMap M.Token U128) := do
  let value ← okOr (move ((balance.find? token.1).getD 0) token.2) .balanceOverflow
  return balance.insert token.1 value

/-- The effects of running the program must be those the transcript declares. -/
def applyTranscript (contract : ContractState M) (call : ContractCall M)
    (transcript : Transcript M) (parent : M.Intent) (context : CanonicalMidnightBlockContext) :
    Except PassportVaultReplayError (ContractState M) := do
  let (data, effects) ←
    okOr (L.query contract call transcript.program parent context) .transcriptRejected
  rejectIf (effects ≠ transcript.effects) .effectsMismatch
  let balance ←
    transcript.effects.unshieldedInputs.foldlM (moveToken U128.checkedAdd) contract.balance
  let balance ← transcript.effects.unshieldedOutputs.foldlM (moveToken U128.checkedSub) balance
  return { contract with data := data, balance := balance }

/-- What the loop of `replay_canonical_passport_vault_history` carries along. -/
structure ReplayProgress (M : MidnightTypes) where
  totalBytes : ℕ
  previousPosition : Option (UInt64 × UInt32)
  previousBlock : Option (UInt64 × Bytes32 × CanonicalMidnightBlockContext)
  state : Option (ContractState M)
  (deploymentAnchor latestAnchor : Option Anchor)
  replayedTransactionCount : ℕ

def ReplayProgress.start : ReplayProgress M := ⟨0, none, none, none, none, none, 0⟩

structure ActionProgress (M : MidnightTypes) where
  state : Option (ContractState M)
  deploymentAnchor : Option Anchor
  touched : Bool

def runTranscript (intents : List (UInt16 × M.Intent)) (context : CanonicalMidnightBlockContext)
    (segment : UInt16) (call : ContractCall M) (transcript : Transcript M)
    (progress : ActionProgress M) : Except PassportVaultReplayError (ActionProgress M) := do
  let parent ← findIntent intents segment
  let contract ← okOr progress.state .missingContractState
  let contract ← applyTranscript L contract call transcript parent context
  return { progress with state := some contract, touched := true }

/-- The first pass: guaranteed transcripts run whether or not the call was applied. -/
def applyGuaranteed (contractAddress : Bytes32) (intents : List (UInt16 × M.Intent))
    (context : CanonicalMidnightBlockContext) (progress : ActionProgress M)
    (record : ActionRecord M) : Except PassportVaultReplayError (ActionProgress M) :=
  match record.action with
  | .call call =>
    if call.address ≠ contractAddress then .ok progress
    else
      match call.guaranteedTranscript with
      | none => .ok progress
      | some transcript => runTranscript L intents context record.segment call transcript progress
  | _ => .ok progress

/-- The second pass, over the actions that were found to be applied. -/
def applyFallible (included : OrderedMap ℕ Unit) (intents : List (UInt16 × M.Intent))
    (context : CanonicalMidnightBlockContext) (anchor : Anchor) (progress : ActionProgress M)
    (record : ActionRecord M) : Except PassportVaultReplayError (ActionProgress M) :=
  if !included.contains record.index then .ok progress
  else
    match record.action with
    | .call call =>
      match call.fallibleTranscript with
      | none => .ok progress
      | some transcript => runTranscript L intents context record.segment call transcript progress
    | .deploy deploy =>
      if progress.state.isSome || progress.deploymentAnchor.isSome then .error .duplicateDeployment
      else .ok ⟨some deploy.initialState, some anchor, true⟩
    | .maintain _ => .error .unsupportedMaintenance

def positionBefore (a b : UInt64 × UInt32) : Bool := a.1 < b.1 || (a.1 = b.1 && a.2 < b.2)

/-- Positions increase, and one height has one block. -/
def checkOrder (progress : ReplayProgress M) (observation : CanonicalMidnightTransaction) :
    Except PassportVaultReplayError Unit := do
  rejectIf (progress.previousPosition.any fun previous =>
    !positionBefore previous (observation.blockHeight, observation.extrinsicIndex)) .invalidOrder
  rejectIf (progress.previousBlock.any fun previous =>
    previous.1 = observation.blockHeight &&
      (previous.2.1 ≠ observation.blockHash || previous.2.2 ≠ observation.blockContext))
    .invalidOrder

def replayActions (contractAddress : Bytes32) (progress : ReplayProgress M)
    (observation : CanonicalMidnightTransaction) :
    Except PassportVaultReplayError (ℕ × ActionProgress M) := do
  rejectIf (observation.rawTransaction.isEmpty ||
    maxReplayTransactionBytes < observation.rawTransaction.length ||
    maxReplayActionsPerTransaction < observation.appliedOperations.length) .capacityExceeded
  let totalBytes := progress.totalBytes + observation.rawTransaction.length
  rejectIf (maxReplayTotalTransactionBytes < totalBytes) .capacityExceeded
  let transaction ← decodeTransaction L observation.rawTransaction
  rejectIf (L.transactionHash transaction ≠ observation.transactionHash) .transactionHashMismatch
  let records ← actionRecords (L.actions transaction)
  let included ← inferIncludedTargetActions records contractAddress observation.allApplied
    observation.appliedOperations
  let intents := L.intents transaction
  let actions ← records.foldlM
    (applyGuaranteed L contractAddress intents observation.blockContext)
    ⟨progress.state, progress.deploymentAnchor, false⟩
  let anchor := ⟨observation.transactionHash, observation.blockHash, observation.blockHeight⟩
  let actions ← records.foldlM
    (applyFallible L included intents observation.blockContext anchor) actions
  return (totalBytes, actions)

/-- Only a transaction that touches the contract moves the latest anchor. -/
def replayTransaction (contractAddress : Bytes32) (progress : ReplayProgress M)
    (observation : CanonicalMidnightTransaction) :
    Except PassportVaultReplayError (ReplayProgress M) := do
  checkOrder progress observation
  let (totalBytes, actions) ← replayActions L contractAddress progress observation
  let anchor : Anchor :=
    ⟨observation.transactionHash, observation.blockHash, observation.blockHeight⟩
  return {
    totalBytes := totalBytes
    previousPosition := some (observation.blockHeight, observation.extrinsicIndex)
    previousBlock := some
      (observation.blockHeight, observation.blockHash, observation.blockContext)
    state := actions.state
    deploymentAnchor := actions.deploymentAnchor
    latestAnchor := if actions.touched then some anchor else progress.latestAnchor
    replayedTransactionCount :=
      if actions.touched then progress.replayedTransactionCount + 1
      else progress.replayedTransactionCount }

def replayCanonicalPassportVaultHistory (contractAddress : Bytes32)
    (history : List CanonicalMidnightTransaction) :
    Except PassportVaultReplayError ReplayedPassportVaultState := do
  rejectIf (history.isEmpty || maxReplayTransactions < history.length) .capacityExceeded
  let progress ← history.foldlM (replayTransaction L contractAddress) .start
  let state ← okOr progress.state .missingDeployment
  let deployment ← okOr progress.deploymentAnchor .missingDeployment
  let latest ← okOr progress.latestAnchor .missingDeployment
  let serialized ← okOr (L.serialize state) .invalidStateEncoding
  rejectIf (serialized.isEmpty || maxPassportVaultContractStateBytes < serialized.length)
    .capacityExceeded
  return ⟨serialized, deployment, latest, progress.replayedTransactionCount⟩

end Code

namespace CanonicalMidnightTransaction

def position (t : CanonicalMidnightTransaction) : UInt64 × UInt32 :=
  (t.blockHeight, t.extrinsicIndex)

def block (t : CanonicalMidnightTransaction) : UInt64 × Bytes32 × CanonicalMidnightBlockContext :=
  (t.blockHeight, t.blockHash, t.blockContext)

/-- What `checkOrder` asks of two neighbours. -/
def Follows (a b : CanonicalMidnightTransaction) : Prop :=
  positionBefore a.position b.position ∧ (a.blockHeight = b.blockHeight → a.block = b.block)

end CanonicalMidnightTransaction

variable {intents : List (UInt16 × M.Intent)}

section Order
variable (L : MidnightLedger M) {progress next : ReplayProgress M} {contractAddress : Bytes32}
  {observation : CanonicalMidnightTransaction} {last : Option CanonicalMidnightTransaction}

section
variable {context : CanonicalMidnightBlockContext}

theorem avoids_runTranscript {segment call transcript actions} :
    Avoids .invalidOrder (runTranscript L intents context segment call transcript actions) := by
  have hmove (move : U128 → U128 → Option U128) (balance : OrderedMap M.Token U128)
      (token : M.Token × U128) :
      Avoids invalidOrder (moveToken move balance token) :=
    failsOnly_bind (failsOnly_okOr (by decide)) fun _ _ => failsOnly_ok _
  have hquery {contract : ContractState M} {parent : M.Intent} : Avoids invalidOrder
        (applyTranscript L contract call transcript parent context) :=
    failsOnly_bind (failsOnly_okOr (by decide)) fun _ _ =>
      failsOnly_bind (failsOnly_rejectIf (by decide)) fun _ _ =>
        failsOnly_bind (failsOnly_foldlM (hmove _) _ _) fun _ _ =>
          failsOnly_bind (failsOnly_foldlM (hmove _) _ _) fun _ _ => failsOnly_ok _
  exact failsOnly_bind (failsOnly_okOr (by decide)) fun _ _ =>
    failsOnly_bind (failsOnly_okOr (by decide)) fun _ _ =>
      failsOnly_bind hquery fun _ _ => failsOnly_ok _

theorem avoids_applyGuaranteed (actions : ActionProgress M) (record : ActionRecord M) :
    Avoids .invalidOrder (applyGuaranteed L contractAddress intents context actions record) := by
  unfold applyGuaranteed
  split
  · split_ifs
    · exact failsOnly_ok _
    · split
      · exact failsOnly_ok _
      · exact avoids_runTranscript L
  · exact failsOnly_ok _

theorem avoids_applyFallible {included anchor} (actions : ActionProgress M)
    (record : ActionRecord M) : Avoids .invalidOrder
      (applyFallible L included intents context anchor actions record) := by
  unfold applyFallible
  split
  · exact failsOnly_ok _
  · split
    · split
      · exact failsOnly_ok _
      · exact avoids_runTranscript L
    · split
      · exact failsOnly_error (by decide)
      · exact failsOnly_ok _
    · exact failsOnly_error (by decide)

end

theorem avoids_infer {records : List (ActionRecord M)} {allApplied}
    {observed : List CanonicalMidnightOperation} : Avoids .invalidOrder
      (inferIncludedTargetActions records contractAddress allApplied observed) := by
  have hgroups (groups : List (List (ActionRecord M))) (seen : List UInt16)
      (records : List (ActionRecord M)) :
      Avoids invalidOrder (groupActions groups seen records) := by
    induction records generalizing groups seen with
    | nil => exact failsOnly_ok _
    | cons _ _ ih =>
      rw [groupActions]
      split_ifs
      · exact ih _ _
      · exact failsOnly_error (by decide)
      · exact ih _ _
  have hobserved : Avoids invalidOrder (observedOperationBatches observed) := by
    rw [observedOperationBatches_eq]
    split_ifs
    · exact failsOnly_ok _
    · exact failsOnly_error (by decide)
  refine failsOnly_bind (hgroups _ _ _) fun groups _ => failsOnly_bind hobserved fun batches _ => ?_
  split_ifs
  · exact failsOnly_bind (failsOnly_rejectIf (by decide)) fun _ _ => failsOnly_ok _
  · refine failsOnly_bind ?_ fun candidates _ => ?_
    · rcases exploreGroups_cases records batches (OrderedMap.ofKeys [⟨[]⟩]) groups with
        h | ⟨h, -⟩ | ⟨h, -⟩
      · rw [h]
        exact failsOnly_ok _
      · rw [h]
        exact failsOnly_error (by decide)
      · rw [h]
        exact failsOnly_error (by decide)
    · unfold onlyTargetSet
      split
      · exact failsOnly_error (by decide)
      · exact failsOnly_ok _
      · exact failsOnly_error (by decide)

theorem avoids_replayActions :
    Avoids .invalidOrder (replayActions L contractAddress progress observation) := by
  have hdecode : Avoids invalidOrder (decodeTransaction L observation.rawTransaction) :=
    failsOnly_bind (failsOnly_okOr (by decide)) fun _ _ =>
      failsOnly_bind (failsOnly_rejectIf (by decide)) fun _ _ => failsOnly_ok _
  have hrecords (actions : List (UInt16 × ContractAction M)) :
      Avoids invalidOrder (actionRecords actions) :=
    failsOnly_bind (failsOnly_rejectIf (by decide)) fun _ _ => failsOnly_ok _
  exact failsOnly_bind (failsOnly_rejectIf (by decide)) fun _ _ =>
    failsOnly_bind (failsOnly_rejectIf (by decide)) fun _ _ =>
      failsOnly_bind hdecode fun _ _ =>
        failsOnly_bind (failsOnly_rejectIf (by decide)) fun _ _ =>
          failsOnly_bind (hrecords _) fun _ _ =>
            failsOnly_bind avoids_infer fun _ _ =>
              failsOnly_bind (failsOnly_foldlM (avoids_applyGuaranteed L) _ _) fun _ _ =>
                failsOnly_bind (failsOnly_foldlM (avoids_applyFallible L) _ _) fun _ _ =>
                  failsOnly_ok _

/-- The progress remembers the position and the block of this transaction. -/
def ReplayProgress.At (progress : ReplayProgress M) (last : Option CanonicalMidnightTransaction) :
    Prop :=
  progress.previousPosition = last.map (·.position) ∧ progress.previousBlock = last.map (·.block)

theorem replayTransaction_at
    (h : replayTransaction L contractAddress progress observation = .ok next) :
    next.At (some observation) := by
  simp only [replayTransaction, bind_ok_iff] at h
  obtain ⟨-, -, ⟨totalBytes, actions⟩, -, heq⟩ := h
  cases heq
  exact ⟨rfl, rfl⟩

open CanonicalMidnightTransaction

theorem avoids_replayTransaction (hat : progress.At last)
    (hfollows : ∀ previous, last = some previous → previous.Follows observation) :
    Avoids .invalidOrder (replayTransaction L contractAddress progress observation) := by
  have horder : checkOrder progress observation = .ok () := by
    simp only [checkOrder, bind_ok_iff, rejectIf_ok_iff, exists_const, hat.1, hat.2]
    cases last with
    | none => exact ⟨rfl, rfl⟩
    | some previous =>
      obtain ⟨hbefore, hblock⟩ := hfollows previous rfl
      refine ⟨by simpa [position] using hbefore, ?_⟩
      by_cases hheight : previous.blockHeight = observation.blockHeight
      · have hsame := hblock hheight
        simp only [block, Prod.mk.injEq] at hsame
        simp [block, hsame.2.1, hsame.2.2]
      · simp [block, hheight]
  refine failsOnly_bind ?_ fun _ _ =>
    failsOnly_bind (avoids_replayActions L) fun _ _ => failsOnly_ok _
  rw [horder]
  exact failsOnly_ok ()

theorem avoids_replay_loop {history} (last : Option CanonicalMidnightTransaction)
    (hat : progress.At last)
    (hchain : (last.toList ++ history).IsChain CanonicalMidnightTransaction.Follows) :
    Avoids .invalidOrder (history.foldlM (replayTransaction L contractAddress) progress) := by
  induction history generalizing progress last with
  | nil => exact failsOnly_ok _
  | cons observation _ ih =>
    rw [List.foldlM_cons]
    refine failsOnly_bind (avoids_replayTransaction L hat ?_) fun next hnext => ?_
    · rintro previous rfl
      exact (List.isChain_cons_cons.mp hchain).1
    · refine ih (some observation) (replayTransaction_at L hnext) ?_
      cases last with
      | none => exact hchain
      | some => exact (List.isChain_cons_cons.mp hchain).2

theorem replay_avoids_invalidOrder {history}
    (h : history.IsChain CanonicalMidnightTransaction.Follows) :
    Avoids .invalidOrder (replayCanonicalPassportVaultHistory L contractAddress history) := by
  refine failsOnly_bind (failsOnly_rejectIf (by decide)) fun _ _ => ?_
  refine failsOnly_bind (avoids_replay_loop L none ⟨rfl, rfl⟩ h) fun progress _ => ?_
  exact failsOnly_bind (failsOnly_okOr (by decide)) fun _ _ =>
    failsOnly_bind (failsOnly_okOr (by decide)) fun _ _ =>
      failsOnly_bind (failsOnly_okOr (by decide)) fun _ _ =>
        failsOnly_bind (failsOnly_okOr (by decide)) fun _ _ =>
          failsOnly_bind (failsOnly_rejectIf (by decide)) fun _ _ => failsOnly_ok _

end Order

end Oxid.PassportVault
