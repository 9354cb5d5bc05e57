import Oxid.Wallet.Domain
import Oxid.PassportVault.Domain

/-!
# What a submission leaves behind

Each attempt has a control with a phase and, from the moment it broadcasts, an entry of the
submission journal.  The types that transfers, DUST registrations and contract calls have in
common are here.
-/

namespace Oxid.Midnight
open Foundation Wallet PassportVault

inductive SubmissionMode
  | simulated | live
  deriving DecidableEq

inductive TransactionPortError
  | unavailable | protectionNotInitialized | protectionLocked | accountNotDerived
  | accountNotSynchronized | shieldedStateNotCurrent | unsupportedNetwork | invalidRecipient
  | recipientNetworkMismatch | insufficientFunds | draftNotFound | draftExpired | draftConflict
  | submissionInProgress | submissionNotInProgress | submissionCancelled
  | submissionCancellationUnsafe | authorizationChallengeMismatch | insufficientDust
  | invalidChainState | provingFailed | submissionRejected | submissionOutcomeUnknown | timeout
  | invalidData
  deriving DecidableEq

structure SubmissionKey where
  profileId : WalletProfileId
  draftId : WalletTransactionDraftId
  deriving DecidableEq

/-- The last three are terminal; an attempt is recorded when it is about to broadcast. -/
inductive StoredSubmissionState
  | broadcasting | outcomeUnknown | included | rejected | expired
  deriving DecidableEq

/-- What a submission has before its transaction is proved. -/
structure SubmissionAttempt where
  networkId : ChainNetworkId
  planningFingerprint : Bytes32
  (expiresAt updatedAt : UInt64)
  deriving DecidableEq

theorem length_replicate_byte (byte : UInt8) : (List.replicate 32 byte).length = 32 :=
  List.length_replicate

def hashOfByte (byte : UInt8) : Bytes32 := ⟨List.replicate 32 byte, length_replicate_byte byte⟩

/-- What is known of the transaction at `begin_broadcast`. -/
structure BroadcastIntent where
  feeSpecks : U128
  (transactionHash anchorBlockHash : Bytes32)
  mode : SubmissionMode
  deriving DecidableEq

structure JournalEntry where
  attempt : SubmissionAttempt
  intent : BroadcastIntent
  blockHash : Option Bytes32
  blockHeight : Option UInt64
  state : StoredSubmissionState
  deriving DecidableEq

def JournalEntry.mark (entry : JournalEntry) (state : StoredSubmissionState)
    (blockHash : Option Bytes32) (blockHeight : Option UInt64) : JournalEntry :=
  { entry with state := state, blockHash := blockHash, blockHeight := blockHeight }

def SubmissionAttempt.broadcasting (attempt : SubmissionAttempt) (intent : BroadcastIntent) :
    JournalEntry :=
  ⟨attempt, intent, none, none, .broadcasting⟩

structure SubmissionOutcome where
  (transactionHash blockHash : Bytes32)
  blockHeight : UInt64
  feeSpecks : U128
  mode : SubmissionMode
  deriving DecidableEq

inductive SubmissionPhase
  | working | cancellationRequested | broadcasting | terminal
  deriving DecidableEq

/-- What the chain says of a transaction whose outcome is open. -/
inductive Reconciliation
  | included (blockHash : Bytes32) (blockHeight : UInt64)
  | rejected
  | expired
  | unresolved
  deriving DecidableEq

/-- An unresolved one is written too: `Broadcasting` becomes `OutcomeUnknown`. -/
def Reconciliation.apply (reconciliation : Reconciliation) (entry : JournalEntry) : JournalEntry :=
  match reconciliation with
  | .included blockHash blockHeight => entry.mark .included (some blockHash) (some blockHeight)
  | .rejected => entry.mark .rejected none none
  | .expired => entry.mark .expired none none
  | .unresolved => entry.mark .outcomeUnknown none none

def sampleIntent : BroadcastIntent := ⟨1, hashOfByte 2, hashOfByte 3, .live⟩

def sampleOutcome : SubmissionOutcome := ⟨hashOfByte 2, hashOfByte 4, 7, 1, .live⟩

end Oxid.Midnight
