import Oxid.Wallet.Approval
import Oxid.Wallet.DustRegistration.Restoration
import Oxid.Wallet.DustRegistration.Delivery
import Oxid.Wallet.DustRegistration.Observation
import Oxid.Wallet.DustRegistration.Transparency
import Oxid.Wallet.DustRegistration.Readiness
import Oxid.Wallet.Realm.SingleFlight
import Oxid.Wallet.Realm.Lifecycle
import Oxid.PassportVault.ContractRefinement
import Oxid.PassportVault.ContractState
import Oxid.PassportVault.FinalizedHistory
import Oxid.PassportVault.ActivityHistory
import Oxid.PassportVault.NativeSubmission
import Oxid.PassportVault.Service
import Oxid.Midnight.ContractCallSubmission
import Oxid.Midnight.SubmissionStore
import Oxid.Midnight.LiveReconciliation
import Oxid.Midnight.BroadcastSafety
import Oxid.Midnight.SubmittedDrafts
import Oxid.Midnight.InclusionSafety
import Oxid.Midnight.OutcomeRecords
import Oxid.Midnight.AccountFold
import Oxid.Midnight.AccountSource
import Oxid.Composition.SubmissionHold
import Oxid.Composition.RecoveryOrder
import Oxid.Backup.Archive
import Oxid.Protocol.SelfIssued
import Oxid.Credential.Updates
import Oxid.Identity.IssuanceFlow
