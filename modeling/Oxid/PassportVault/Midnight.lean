import Oxid.PassportVault.Domain

/-!
# Contract actions of a Midnight transaction

What the adapter reads of a ledger transaction.  The ledger's own types are parameters,
`MidnightTypes`: the adapter moves their values around and hands them back.
-/

namespace Oxid.PassportVault

open Foundation

/-- What the replay passes on to the ledger without looking inside. -/
structure MidnightTypes where
  (Transaction Intent CallDetails Program StateValue Operations Token OtherEffects : Type)
  tokenOrder : LinearOrder Token
  decEffects : DecidableEq OtherEffects

attribute [instance] MidnightTypes.tokenOrder MidnightTypes.decEffects

/-- What the events of a block say that a transaction did to a contract. -/
inductive CanonicalMidnightOperation
  | call (address : Bytes32)
  | deploy (address : Bytes32)
  | maintain (address : Bytes32)
  deriving DecidableEq

variable (M : MidnightTypes)

structure Effects where
  (unshieldedInputs unshieldedOutputs : List (M.Token × U128))
  other : M.OtherEffects
  deriving DecidableEq

structure Transcript where
  program : M.Program
  effects : Effects M

structure ContractState where
  data : M.StateValue
  operations : M.Operations
  balance : OrderedMap M.Token U128

/-- The fallible transcript runs only if the events of the block show that the call was applied. -/
structure ContractCall where
  address : Bytes32
  (guaranteedTranscript fallibleTranscript : Option (Transcript M))
  details : M.CallDetails

structure ContractDeploy where
  address : Bytes32
  initialState : ContractState M

inductive ContractAction
  | call (call : ContractCall M)
  | deploy (deploy : ContractDeploy M)
  | maintain (address : Bytes32)

variable {M}

namespace ContractAction

def operation : ContractAction M → CanonicalMidnightOperation
  | .call c => .call c.address
  | .deploy d => .deploy d.address
  | .maintain address => .maintain address

def targets (target : Bytes32) : ContractAction M → Bool
  | .call c => c.address = target
  | .deploy d => d.address = target
  | .maintain address => address = target

end ContractAction

inductive PassportVaultReplayError
  | capacityExceeded | invalidOrder | invalidTransaction | transactionHashMismatch | outcomeMismatch
  | ambiguousOutcome | missingDeployment | duplicateDeployment | unsupportedMaintenance
  | missingContractState | transcriptRejected | effectsMismatch | balanceOverflow
  | invalidStateEncoding
  deriving DecidableEq

end Oxid.PassportVault
