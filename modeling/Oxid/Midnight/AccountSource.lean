import Oxid.Midnight.Indexer
import Oxid.Midnight.UtxoSelection
import Oxid.Slots
import Oxid.Transition.Run

/-!
# The live account source

`LiveMidnightAccountSource` keeps the account bound to a profile and three caches.  Binding
another account clears them, one lock after the other; a synchronization reads the account,
waits for the indexer and fills them.
-/

namespace Oxid.Midnight
open Foundation Result Text Transition Wallet PassportVault List Option

/-! ## Accounts -/

inductive ChainAddressKind
  | unshielded
  | shielded
  | dust
  | reward
  deriving DecidableEq

structure ChainAddress where
  kind : ChainAddressKind
  value : String
  deriving DecidableEq

structure DerivedChainAccount where
  networkId : ChainNetworkId
  accountId : ChainAccountId
  (accountIndex addressIndex : ℕ)
  receiveAddress : ChainAddress
  additionalAddresses : List ChainAddress
  transactionPublicKey : List UInt8
  transactionKey : String
  deriving DecidableEq

def DerivedChainAccount.addresses (account : DerivedChainAccount) : List ChainAddress :=
  account.receiveAddress :: account.additionalAddresses

inductive WalletSyncState
  | neverSynced
  | syncing
  | synced
  | stalled
  | unavailable
  deriving DecidableEq

inductive WalletAccountSource
  | live
  | cached
  | simulated
  | unavailable

structure WalletSyncStatus where
  state : WalletSyncState
  (currentCursor targetCursor chainTipHeight updatedAt : Option UInt64)

structure AccountSnapshot where
  network : ChainNetworkId
  accountId : Option ChainAccountId
  source : WalletAccountSource
  addresses : List ChainAddress
  balances : List AssetBalance
  sync : WalletSyncStatus
  transactions : List WalletTransaction

structure StoredIndexerCheckpoint where
  updatedAt : UInt64
  snapshot : IndexerSnapshot

def bytes32? (bytes : List UInt8) : Option Bytes32 :=
  if h : bytes.length = 32 then some ⟨bytes, h⟩ else none

def mapSpendableUtxo (utxo : IndexerUtxo) : Except WalletAccountPortError SpendableUtxo := do
  let bytes ← okOr (hexDecode utxo.intentHash) .invalidData
  let intentHash ← okOr (bytes32? bytes) .invalidData
  return {
    value := utxo.value
    intentHash
    outputIndex := UInt32.ofNat utxo.outputIndex.val
    createdAtSeconds := utxo.createdAtSeconds
    registeredForDustGeneration := utxo.registeredForDustGeneration }

def spendableUtxos (indexer : IndexerSnapshot) :
    Except WalletAccountPortError (List SpendableUtxo) :=
  (indexer.utxos.filter fun utxo => utxo.tokenType = nativeNightTokenType).mapM mapSpendableUtxo

def IndexerTransportError.isIncompatible (e : IndexerTransportError) : Bool :=
  e = .protocol || e = .invalidData

/-! ## The source -/

/-- Where a call of `sync` is.  Each stage names what is done next. -/
inductive SyncStage
  | readCached (account : DerivedChainAccount)
  | loadCheckpoint (account : DerivedChainAccount)
  | keepCheckpoint (checkpoint : IndexerSnapshot) (snapshot : AccountSnapshot)
  | keepHydrated (snapshot : AccountSnapshot)
  | readInitial
  | storeSyncing (previous : AccountSnapshot)
  | removeSpendable (previous : AccountSnapshot)
  | request (previous : AccountSnapshot)
  | awaiting (previous : AccountSnapshot) (address : ChainAddress)
      (checkpoint : Option IndexerSnapshot)
  | storeStalled (previous : AccountSnapshot)
  | saveCheckpoint (previous : AccountSnapshot) (address : ChainAddress)
      (indexer : IndexerSnapshot)
  | keepSnapshot (indexer : IndexerSnapshot) (utxos : List SpendableUtxo)
      (cached : AccountSnapshot)
  | keepSpendable (utxos : List SpendableUtxo) (cached : AccountSnapshot)
  | storeCached (cached : AccountSnapshot)

inductive ClearStage
  | cached
  | indexerSnapshot
  | spendable

inductive SourceCall
  | binding (stage : ClearStage) (replaced : Bool)
  | syncing (stage : SyncStage)
  | spending (account : DerivedChainAccount)
  | returned

structure AccountSource where
  networkId : ChainNetworkId
  checkpoints : List (String × StoredIndexerCheckpoint)
  cached : Option AccountSnapshot
  indexerSnapshot : Option IndexerSnapshot
  derived : Option DerivedChainAccount
  spendable : Option (List SpendableUtxo)
  calls : List SourceCall

structure StageInput where
  answer : Except IndexerTransportError IndexerSnapshot
  now : Option UInt64
  storeWorks : Bool

inductive SourceEvent
  | bindDerivedAccount (network : ChainNetworkId) (derived : DerivedChainAccount)
  | sync (network : ChainNetworkId)
  | spendableAccount (network : ChainNetworkId)
  | next (call : ℕ) (input : StageInput)
  | drop (call : ℕ)

inductive SourceReport
  | requested (address : String) (checkpoint : Option IndexerSnapshot)
  | fetched (address : String) (indexer : IndexerSnapshot)
  | offered (account : DerivedChainAccount) (utxos : List SpendableUtxo)
  deriving DecidableEq

namespace AccountSource

def start (networkId : ChainNetworkId) (checkpoints : List (String × StoredIndexerCheckpoint)) :
    AccountSource where
  networkId := networkId
  checkpoints := checkpoints
  cached := none
  indexerSnapshot := none
  derived := none
  spendable := none
  calls := []

variable (s : AccountSource)

def put (i : ℕ) (c : SourceCall) : AccountSource :=
  { s with calls := s.calls.set i c }

def initialSnapshot (account : DerivedChainAccount) : AccountSnapshot where
  network := s.networkId
  accountId := some account.accountId
  source := .live
  addresses := account.addresses
  balances := []
  sync := ⟨.neverSynced, none, none, none, none⟩
  transactions := []

def hydrate (account : DerivedChainAccount) (checkpoint : StoredIndexerCheckpoint) :
    Option AccountSnapshot :=
  match checkpoint.snapshot.validateCheckpoint, mapIndexerSnapshot checkpoint.snapshot with
  | .ok (), .ok (balances, transactions) => some {
      network := s.networkId
      accountId := some account.accountId
      source := .cached
      addresses := account.addresses
      balances
      sync := ⟨.synced, some checkpoint.snapshot.currentCursor,
        some checkpoint.snapshot.targetCursor, checkpoint.snapshot.chainTipHeight,
        some checkpoint.updatedAt⟩
      transactions }
  | _, _ => none

def syncing (previous : AccountSnapshot) : AccountSnapshot :=
  { previous with sync := { previous.sync with state := .syncing } }

def stalled (previous : AccountSnapshot) : AccountSnapshot :=
  { previous with
    source := if previous.sync.state = .neverSynced then .live else .cached
    sync := { previous.sync with state := .stalled } }

def refreshed (previous : AccountSnapshot) (indexer : IndexerSnapshot)
    (balances : List AssetBalance) (transactions : List WalletTransaction) (now : UInt64) :
    AccountSnapshot where
  network := s.networkId
  accountId := previous.accountId
  source := .cached
  addresses := previous.addresses
  balances := balances
  sync := ⟨.synced, some indexer.currentCursor, some indexer.targetCursor,
    indexer.chainTipHeight, some now⟩
  transactions := transactions

def syncStage (i : ℕ) (input : StageInput) : SyncStage → AccountSource × Option SourceReport
  | .readCached account =>
    match s.cached with
    | some snapshot =>
      -- The only cache that is compared with the account it is read for.
      if snapshot.accountId = some account.accountId ∧ snapshot.addresses = account.addresses
      then (s.put i (.syncing (.storeSyncing snapshot)), none)
      else (s.put i (.syncing (.loadCheckpoint account)), none)
    | none => (s.put i (.syncing (.loadCheckpoint account)), none)
  | .loadCheckpoint account =>
    match s.checkpoints.lookup account.receiveAddress.value with
    | some checkpoint =>
      match input.storeWorks, s.hydrate account checkpoint with
      | true, some snapshot =>
        (s.put i (.syncing (.keepCheckpoint checkpoint.snapshot snapshot)), none)
      | _, _ => (s.put i (.syncing .readInitial), none)
    | none => (s.put i (.syncing .readInitial), none)
  | .keepCheckpoint checkpoint snapshot =>
    ({ s with indexerSnapshot := some checkpoint }.put i (.syncing (.keepHydrated snapshot)),
      none)
  | .keepHydrated snapshot =>
    ({ s with cached := some snapshot }.put i (.syncing (.storeSyncing snapshot)), none)
  | .readInitial =>
    match s.derived with
    | some account => (s.put i (.syncing (.storeSyncing (s.initialSnapshot account))), none)
    | none => (s.put i .returned, none)
  | .storeSyncing previous =>
    ({ s with cached := some (syncing previous) }.put i (.syncing (.removeSpendable previous)),
      none)
  | .removeSpendable previous =>
    ({ s with spendable := none }.put i (.syncing (.request previous)), none)
  | .request previous =>
    match previous.addresses with
    | [] => (s.put i .returned, none)
    | address :: _ =>
      (s.put i (.syncing (.awaiting previous address s.indexerSnapshot)),
        some (.requested address.value s.indexerSnapshot))
  | .awaiting previous address checkpoint =>
    match input.answer with
    | .ok indexer =>
      (s.put i (.syncing (.saveCheckpoint previous address indexer)),
        some (.fetched address.value indexer))
    | .error e =>
      if e.isIncompatible ∧ checkpoint.isSome then
        (s.put i (.syncing (.awaiting previous address none)),
          some (.requested address.value none))
      else (s.put i (.syncing (.storeStalled previous)), none)
  | .storeStalled previous => ({ s with cached := some (stalled previous) }.put i .returned, none)
  | .saveCheckpoint previous address indexer =>
    match mapIndexerSnapshot indexer, input.now with
    | .ok (balances, transactions), some now =>
      match spendableUtxos indexer with
      | .ok utxos =>
        let cached := s.refreshed previous indexer balances transactions now
        let checkpoints := if input.storeWorks
          then (address.value, ⟨now, indexer⟩) :: s.checkpoints else s.checkpoints
        ({ s with checkpoints }.put i (.syncing (.keepSnapshot indexer utxos cached)), none)
      | .error _ => (s.put i .returned, none)
    | _, _ => (s.put i (.syncing (.storeStalled previous)), none)
  | .keepSnapshot indexer utxos cached =>
    ({ s with indexerSnapshot := some indexer }.put i (.syncing (.keepSpendable utxos cached)),
      none)
  | .keepSpendable utxos cached =>
    ({ s with spendable := some utxos }.put i (.syncing (.storeCached cached)), none)
  | .storeCached cached => ({ s with cached := some cached }.put i .returned, none)

def act : SourceEvent → Option (AccountSource × Option SourceReport)
  | .bindDerivedAccount network derived =>
    if network ≠ s.networkId ∨ derived.networkId ≠ network ∨ s.derived = some derived then
      some (s, none)
    else
      some ({ s with
        derived := some derived
        calls := s.calls ++ [.binding .cached s.derived.isSome] }, none)
  | .sync network =>
    match s.derived with
    | some account =>
      if network = s.networkId then
        some ({ s with calls := s.calls ++ [.syncing (.readCached account)] }, none)
      else some (s, none)
    | none => some (s, none)
  | .spendableAccount network =>
    match s.derived with
    | some account =>
      if network = s.networkId then
        some ({ s with calls := s.calls ++ [.spending account] }, none)
      else some (s, none)
    | none => some (s, none)
  | .next i input =>
    match s.calls[i]? with
    | some (.binding .cached replaced) =>
      some ({ s with cached := none }.put i (.binding .indexerSnapshot replaced), none)
    | some (.binding .indexerSnapshot replaced) =>
      some ({ s with indexerSnapshot := none }.put i (.binding .spendable replaced), none)
    | some (.binding .spendable _) => some ({ s with spendable := none }.put i .returned, none)
    | some (.syncing stage) => some (s.syncStage i input stage)
    | some (.spending account) => some (s.put i .returned, s.spendable.map (.offered account))
    | some .returned | none => none
  | .drop i =>
    match s.calls[i]? with
    | some (.syncing (.awaiting _ _ _)) => some (s.put i .returned, none)
    | _ => none

end AccountSource

open AccountSource

/-! ## What is known of the caches -/

def FetchedFor (initial : List (String × StoredIndexerCheckpoint)) (past : List SourceReport)
    (address : String) (indexer : IndexerSnapshot) : Prop :=
  .fetched address indexer ∈ past ∨
    ∃ checkpoint, (address, checkpoint) ∈ initial ∧ checkpoint.snapshot = indexer

def OutputsOf (past : List SourceReport) (address : String) (utxos : List SpendableUtxo) : Prop :=
  ∃ indexer, .fetched address indexer ∈ past ∧ spendableUtxos indexer = .ok utxos

def Rightful (initial : List (String × StoredIndexerCheckpoint)) (past : List SourceReport) :
    SourceReport → Prop
  | .requested address (some checkpoint) => FetchedFor initial past address checkpoint
  | .requested _ none => True
  | .fetched _ _ => True
  | .offered account utxos => OutputsOf past account.receiveAddress.value utxos

def SourceCall.reading : SourceCall → Bool
  | .syncing _ => true
  | .spending _ => true
  | _ => false

def SourceCall.replacing : SourceCall → Bool
  | .binding _ replaced => replaced
  | _ => false

/-- The account is not replaced while a call for it is running, and no such call begins while
the account is being replaced. -/
def Undisturbed (s : AccountSource) : SourceEvent → Prop
  | .bindDerivedAccount network derived =>
    (network ≠ s.networkId ∨ derived.networkId ≠ network ∨ s.derived = some derived) ∨
      s.derived = none ∨ ∀ c ∈ s.calls, c.reading = false
  | .sync network | .spendableAccount network =>
    network = s.networkId → ∀ c ∈ s.calls, c.replacing = false
  | _ => True

instance decidableUndisturbed (s : AccountSource) : ∀ e, Decidable (Undisturbed s e)
  | .bindDerivedAccount _ _ => inferInstanceAs (Decidable (_ ∨ _))
  | .sync _ | .spendableAccount _ => inferInstanceAs (Decidable (_ → _))
  | .next _ _ | .drop _ => inferInstanceAs (Decidable True)

section Invariant
variable {initial : List (String × StoredIndexerCheckpoint)} {past : List SourceReport}
  {s t : AccountSource} {d : DerivedChainAccount}

theorem FetchedFor.append {address indexer} (h : FetchedFor initial past address indexer)
    (more : List SourceReport) : FetchedFor initial (past ++ more) address indexer :=
  h.imp_left (mem_append_left more)

theorem OutputsOf.append {address utxos} (h : OutputsOf past address utxos)
    (more : List SourceReport) : OutputsOf (past ++ more) address utxos := by
  obtain ⟨indexer, hfetched, hutxos⟩ := h
  exact ⟨indexer, mem_append_left more hfetched, hutxos⟩

def StageFor (initial : List (String × StoredIndexerCheckpoint)) (past : List SourceReport)
    (d : DerivedChainAccount) : SyncStage → Prop
  | .readCached account => account = d
  | .loadCheckpoint account => account = d
  | .keepCheckpoint checkpoint snapshot =>
    FetchedFor initial past d.receiveAddress.value checkpoint ∧
      snapshot.addresses = d.addresses
  | .keepHydrated snapshot => snapshot.addresses = d.addresses
  | .readInitial => True
  | .storeSyncing previous => previous.addresses = d.addresses
  | .removeSpendable previous => previous.addresses = d.addresses
  | .request previous => previous.addresses = d.addresses
  | .awaiting _ address _ => address = d.receiveAddress
  | .storeStalled _ => True
  | .saveCheckpoint _ address indexer =>
    address = d.receiveAddress ∧ .fetched d.receiveAddress.value indexer ∈ past
  | .keepSnapshot indexer utxos _ =>
    .fetched d.receiveAddress.value indexer ∈ past ∧ spendableUtxos indexer = .ok utxos
  | .keepSpendable utxos _ => OutputsOf past d.receiveAddress.value utxos
  | .storeCached _ => True

theorem StageFor.append {stage} (h : StageFor initial past d stage) (more : List SourceReport) :
    StageFor initial (past ++ more) d stage := by
  cases stage with
  | keepCheckpoint => exact ⟨h.1.append more, h.2⟩
  | saveCheckpoint => exact ⟨h.1, mem_append_left more h.2⟩
  | keepSnapshot => exact ⟨mem_append_left more h.1, h.2⟩
  | keepSpendable => exact OutputsOf.append h more
  | _ => exact h

def CallFor (initial : List (String × StoredIndexerCheckpoint)) (past : List SourceReport)
    (s : AccountSource) : SourceCall → Prop
  | .binding stage replaced =>
    replaced → (∀ c ∈ s.calls, c.reading = false) ∧
      (stage = .spendable → s.indexerSnapshot = none)
  | .syncing stage => ∃ d, s.derived = some d ∧ StageFor initial past d stage
  | .spending account => s.derived = some account
  | .returned => True

structure Sound (initial : List (String × StoredIndexerCheckpoint)) (past : List SourceReport)
    (s : AccountSource) : Prop where
  store : ∀ address checkpoint, (address, checkpoint) ∈ s.checkpoints →
    FetchedFor initial past address checkpoint.snapshot
  calls : ∀ c ∈ s.calls, CallFor initial past s c
  unbound : s.derived = none → s.indexerSnapshot = none ∧ s.spendable = none
  snapshot : (∀ c ∈ s.calls, c.replacing = false) → ∀ d indexer, s.derived = some d →
    s.indexerSnapshot = some indexer → FetchedFor initial past d.receiveAddress.value indexer
  spendable : (∀ c ∈ s.calls, c.replacing = false) → ∀ d utxos, s.derived = some d →
    s.spendable = some utxos → OutputsOf past d.receiveAddress.value utxos

open AccountSource

theorem sound_start (networkId : ChainNetworkId) : Sound initial [] (.start networkId initial) where
  store := fun _ checkpoint hmem => .inr ⟨checkpoint, hmem, rfl⟩
  calls := by simp [start]
  unbound := fun _ => ⟨rfl, rfl⟩
  snapshot := by simp [start]
  spendable := by simp [start]

theorem Sound.of_reading (h : Sound initial past s) {c} (hc : c ∈ s.calls) (hreading : c.reading) :
    (∀ c' ∈ s.calls, c'.replacing = false) ∧ ∃ d, s.derived = some d := by
  constructor
  · intro c' hc'
    cases c' with
    | binding _ replaced =>
      cases replaced with
      | false => rfl
      | true =>
        have hnone := (h.calls _ hc' rfl).1 c hc
        rw [hreading] at hnone
        cases hnone
    | _ => rfl
  · cases c with
    | syncing =>
      obtain ⟨d, hd, -⟩ := h.calls _ hc
      exact ⟨d, hd⟩
    | spending account => exact ⟨account, h.calls _ hc⟩
    | _ => cases hreading

theorem mem_calls_put {i c c'} (h : c' ∈ (s.put i c).calls) : c' = c ∨ c' ∈ s.calls := by
  rcases mem_or_eq_of_mem_set h with hold | hnew
  · exact .inr hold
  · exact .inl hnew

theorem Sound.of_stage (h : Sound initial past s) {i c c'} (hc : s.calls[i]? = some c)
    (hreading : c.reading) (hd : s.derived = some d) {f : Option SourceReport} {checkpoints}
    {cached : Option AccountSnapshot} {indexerSnapshot : Option IndexerSnapshot}
    {spendable : Option (List SpendableUtxo)} (hcall : CallFor initial (past ++ f.toList) s c')
    (hreplacing : c'.replacing = false)
    (hstore : ∀ address checkpoint, (address, checkpoint) ∈ checkpoints →
      FetchedFor initial (past ++ f.toList) address checkpoint.snapshot)
    (hsnapshot : ∀ indexer, indexerSnapshot = some indexer →
      FetchedFor initial (past ++ f.toList) d.receiveAddress.value indexer)
    (hspendable : ∀ utxos, spendable = some utxos →
      OutputsOf (past ++ f.toList) d.receiveAddress.value utxos) : Sound initial (past ++ f.toList)
      (put { s with checkpoints, cached, indexerSnapshot, spendable } i c') := by
  obtain ⟨hquiet, -⟩ := h.of_reading (mem_of_getElem? hc) hreading
  have hderived : ∀ d', s.derived = some d' → d' = d := by
    intro d' hd'
    rw [hd, some.injEq] at hd'
    exact hd'.symm
  refine ⟨hstore, ?_, ?_, ?_, ?_⟩
  · intro c₀ hc₀
    rcases mem_calls_put hc₀ with rfl | hold
    · cases c₀ with
      | binding =>
        intro htrue
        cases hreplacing.symm.trans htrue
      | _ => exact hcall
    · cases c₀ with
      | binding =>
        intro htrue
        cases (hquiet _ hold).symm.trans htrue
      | syncing =>
        obtain ⟨d', hd', hstage⟩ := h.calls _ hold
        exact ⟨d', hd', hstage.append _⟩
      | spending => exact h.calls _ hold
      | returned => trivial
  · intro hnone
    change s.derived = none at hnone
    rw [hd] at hnone
    cases hnone
  · intro _ d' indexer hd' hindexer
    rw [hderived d' hd']
    exact hsnapshot indexer hindexer
  · intro _ d' utxos hd' hutxos
    rw [hderived d' hd']
    exact hspendable utxos hutxos

theorem Sound.of_returned (h : Sound initial past s) {i} {c : SourceCall}
    (hc : s.calls[i]? = some c) (hreading : c.reading) (f : Option SourceReport) :
    Sound initial (past ++ f.toList) (s.put i .returned) := by
  obtain ⟨hquiet, d, hd⟩ := h.of_reading (mem_of_getElem? hc) hreading
  have hcall : CallFor initial (past ++ f.toList) s .returned := trivial
  refine h.of_stage hc hreading hd hcall rfl ?_ ?_ ?_
  · intro address checkpoint hmem
    exact (h.store address checkpoint hmem).append _
  · intro indexer hindexer
    exact (h.snapshot hquiet d indexer hd hindexer).append _
  · intro utxos hutxos
    exact (h.spendable hquiet d utxos hd hutxos).append _

theorem addresses_of_hydrate {account checkpoint snapshot}
    (h : s.hydrate account checkpoint = some snapshot) :
    snapshot.addresses = account.addresses := by
  rw [hydrate] at h
  split at h <;> cases h
  rfl

theorem Sound.syncStage (h : Sound initial past s) {i stage}
    (hc : s.calls[i]? = some (.syncing stage)) (input : StageInput) {f : Option SourceReport}
    (heq : s.syncStage i input stage = (t, f)) :
    Sound initial (past ++ f.toList) t ∧ ∀ r, f = some r → Rightful initial past r := by
  obtain ⟨d, hd, hstage⟩ := h.calls _ (mem_of_getElem? hc)
  obtain ⟨hquiet, -⟩ := h.of_reading (mem_of_getElem? hc) rfl
  have hstore : ∀ address checkpoint, (address, checkpoint) ∈ s.checkpoints →
      FetchedFor initial (past ++ f.toList) address checkpoint.snapshot :=
    fun address checkpoint hmem => (h.store address checkpoint hmem).append _
  have hsnapshot : ∀ indexer, s.indexerSnapshot = some indexer →
      FetchedFor initial (past ++ f.toList) d.receiveAddress.value indexer :=
    fun indexer hindexer => (h.snapshot hquiet d indexer hd hindexer).append _
  have hspendable : ∀ utxos, s.spendable = some utxos →
      OutputsOf (past ++ f.toList) d.receiveAddress.value utxos :=
    fun utxos hutxos => (h.spendable hquiet d utxos hd hutxos).append _
  -- A stage that goes on to `c'` and leaves the three caches of the invariant alone.
  have hkeep : ∀ {cached : Option AccountSnapshot} {c' : SourceCall},
      CallFor initial (past ++ f.toList) s c' → c'.replacing = false →
        Sound initial (past ++ f.toList) (put { s with cached } i c') :=
    fun hcall hreplacing =>
      h.of_stage hc rfl hd hcall hreplacing hstore hsnapshot hspendable
  cases stage with
  | readCached =>
    simp only [AccountSource.syncStage] at heq
    split at heq
    · split_ifs at heq with hfilter
      · cases heq
        exact ⟨hkeep ⟨d, hd, hfilter.2.trans (congrArg _ hstage)⟩ rfl, by simp⟩
      · cases heq
        exact ⟨hkeep ⟨d, hd, hstage⟩ rfl, by simp⟩
    · cases heq
      exact ⟨hkeep ⟨d, hd, hstage⟩ rfl, by simp⟩
  | loadCheckpoint account =>
    simp only [AccountSource.syncStage] at heq
    split at heq
    · rename_i checkpoint hlookup
      split at heq
      · rename_i snapshot _ hhydrate
        cases heq
        have hmem : (account.receiveAddress.value, checkpoint) ∈ s.checkpoints := by
          obtain ⟨front, back, heq, -⟩ := lookup_eq_some_iff.mp hlookup
          rw [heq]
          exact mem_append_right _ mem_cons_self
        have hfetched := hstore _ _ hmem
        rw [show account = d from hstage] at hfetched hhydrate
        exact ⟨hkeep ⟨d, hd, hfetched, addresses_of_hydrate hhydrate⟩ rfl, by simp⟩
      · cases heq
        exact ⟨hkeep ⟨d, hd, trivial⟩ rfl, by simp⟩
    · cases heq
      exact ⟨hkeep ⟨d, hd, trivial⟩ rfl, by simp⟩
  | keepCheckpoint =>
    cases heq
    refine ⟨h.of_stage hc rfl hd ⟨d, hd, hstage.2⟩ rfl hstore ?_ hspendable, by simp⟩
    intro indexer hindexer
    cases hindexer
    exact hstage.1.append _
  | keepHydrated =>
    cases heq
    exact ⟨hkeep ⟨d, hd, hstage⟩ rfl, by simp⟩
  | readInitial =>
    simp only [AccountSource.syncStage, hd] at heq
    cases heq
    exact ⟨hkeep ⟨d, hd, rfl⟩ rfl, by simp⟩
  | storeSyncing =>
    cases heq
    exact ⟨hkeep ⟨d, hd, hstage⟩ rfl, by simp⟩
  | removeSpendable =>
    cases heq
    exact ⟨h.of_stage hc rfl hd ⟨d, hd, hstage⟩ rfl hstore hsnapshot (by simp), by simp⟩
  | request previous =>
    have haddresses : previous.addresses = d.receiveAddress :: d.additionalAddresses := hstage
    simp only [AccountSource.syncStage, haddresses] at heq
    cases heq
    refine ⟨hkeep ⟨d, hd, rfl⟩ rfl, ?_⟩
    intro r hr
    cases hr
    cases hindexer : s.indexerSnapshot with
    | none => trivial
    | some indexer => exact h.snapshot hquiet d indexer hd hindexer
  | awaiting _ address =>
    simp only [AccountSource.syncStage] at heq
    split at heq
    · cases heq
      refine ⟨hkeep ⟨d, hd, hstage, ?_⟩ rfl, ?_⟩
      · rw [← show address = d.receiveAddress from hstage]
        exact mem_append_right _ mem_cons_self
      · intro r hr
        cases hr
        trivial
    · split_ifs at heq
      · cases heq
        refine ⟨hkeep ⟨d, hd, hstage⟩ rfl, ?_⟩
        intro r hr
        cases hr
        trivial
      · cases heq
        exact ⟨hkeep ⟨d, hd, trivial⟩ rfl, by simp⟩
  | storeStalled =>
    cases heq
    exact ⟨hkeep trivial rfl, by simp⟩
  | saveCheckpoint _ address =>
    simp only [AccountSource.syncStage] at heq
    split at heq
    · split at heq
      · rename_i utxos hutxos
        cases heq
        refine ⟨h.of_stage hc rfl hd ⟨d, hd, ?_, hutxos⟩ rfl ?_ hsnapshot hspendable, by simp⟩
        · exact mem_append_left _ hstage.2
        · intro address' checkpoint' hmem
          split_ifs at hmem
          · rcases mem_cons.mp hmem with hnew | hold
            · cases hnew
              rw [show address = d.receiveAddress from hstage.1]
              exact .inl (mem_append_left _ hstage.2)
            · exact hstore address' checkpoint' hold
          · exact hstore address' checkpoint' hmem
      · cases heq
        exact ⟨hkeep trivial rfl, by simp⟩
    · cases heq
      exact ⟨hkeep ⟨d, hd, trivial⟩ rfl, by simp⟩
  | keepSnapshot indexer =>
    cases heq
    refine ⟨h.of_stage hc rfl hd ⟨d, hd, ?_⟩ rfl hstore ?_ hspendable, by simp⟩
    · exact OutputsOf.append ⟨indexer, hstage.1, hstage.2⟩ _
    · intro indexer' hindexer
      cases hindexer
      exact .inl (mem_append_left _ hstage.1)
  | keepSpendable =>
    cases heq
    refine ⟨h.of_stage hc rfl hd ⟨d, hd, trivial⟩ rfl hstore hsnapshot ?_, by simp⟩
    intro utxos' hutxos
    cases hutxos
    exact OutputsOf.append hstage _
  | storeCached =>
    cases heq
    exact ⟨hkeep trivial rfl, by simp⟩

theorem Sound.push_reading (h : Sound initial past s) {c}
    (hquiet : ∀ c' ∈ s.calls, c'.replacing = false) (hcall : CallFor initial past s c)
    (hreplacing : c.replacing = false) : Sound initial past { s with calls := s.calls ++ [c] } := by
  refine ⟨h.store, ?_, h.unbound, fun _ => h.snapshot hquiet, fun _ => h.spendable hquiet⟩
  intro c' hc'
  rcases mem_append.mp hc' with hold | hnew
  · cases c' with
    | binding =>
      intro htrue
      cases (hquiet _ hold).symm.trans htrue
    | _ => exact h.calls _ hold
  · rw [mem_singleton.mp hnew]
    cases c with
    | binding =>
      intro htrue
      cases hreplacing.symm.trans htrue
    | _ => exact hcall

theorem Sound.bind (h : Sound initial past s) (derived : DerivedChainAccount)
    (hundisturbed : s.derived = none ∨ ∀ c ∈ s.calls, c.reading = false) :
    Sound initial past { s with
      derived := some derived
      calls := s.calls ++ [.binding .cached s.derived.isSome] } := by
  have hreading : ∀ c ∈ s.calls, c.reading = false := by
    rcases hundisturbed with hnone | hreading
    · intro c hc
      cases hread : c.reading with
      | false => rfl
      | true =>
        obtain ⟨-, d, hd⟩ := h.of_reading hc hread
        rw [hnone] at hd
        cases hd
    · exact hreading
  have hcalls : ∀ c ∈ s.calls ++ [.binding .cached s.derived.isSome], c.reading = false := by
    intro c hc
    rcases mem_append.mp hc with hold | hnew
    · exact hreading c hold
    · rw [mem_singleton.mp hnew]
      rfl
  -- With an account bound before, the new call replaces it; without one the caches are empty.
  have hempty : (∀ c ∈ s.calls ++ [.binding .cached s.derived.isSome], c.replacing = false) →
      s.indexerSnapshot = none ∧ s.spendable = none := by
    intro hquiet
    refine h.unbound ?_
    have hlast := hquiet (.binding .cached s.derived.isSome) (by simp)
    exact not_isSome_iff_eq_none.mp (Bool.not_eq_true _ ▸ hlast)
  refine ⟨h.store, ?_, by simp, ?_, ?_⟩
  · intro c hc
    cases c with
    | binding =>
      intro htrue
      refine ⟨hcalls, ?_⟩
      intro hstage
      rcases mem_append.mp hc with hold | hnew
      · exact (h.calls _ hold htrue).2 hstage
      · cases mem_singleton.mp hnew
        cases hstage
    | returned => trivial
    | syncing => cases hcalls _ hc
    | spending => cases hcalls _ hc
  · intro hquiet d indexer _ hindexer
    cases (hempty hquiet).1.symm.trans hindexer
  · intro hquiet d utxos _ hutxos
    cases (hempty hquiet).2.symm.trans hutxos

theorem Sound.clear (h : Sound initial past s) {i stage replaced}
    (hc : s.calls[i]? = some (.binding stage replaced)) {cached indexerSnapshot spendable c'}
    (hsnapshot : indexerSnapshot = s.indexerSnapshot ∨ indexerSnapshot = none)
    (hspendable : spendable = s.spendable ∨ spendable = none)
    (hc' : (∃ stage', c' = .binding stage' replaced ∧
        (replaced = true → stage' = .spendable → indexerSnapshot = none)) ∨
      (c' = .returned ∧ (replaced → indexerSnapshot = none ∧ spendable = none))) :
    Sound initial past (put { s with cached, indexerSnapshot, spendable } i c') := by
  have hreading' : c'.reading = false := by
    rcases hc' with ⟨stage', rfl, -⟩ | ⟨rfl, -⟩ <;> rfl
  -- Unless the call has just replaced an account, what was not cleared was right before.
  have hquiet : (∀ c ∈ (put s i c').calls, c.replacing = false) →
      (replaced ∧ indexerSnapshot = none ∧ spendable = none) ∨
        ∀ c ∈ s.calls, c.replacing = false := by
    intro hall
    have hcall : replaced → indexerSnapshot = none ∧ spendable = none := by
      intro htrue
      rcases hc' with ⟨stage', rfl, -⟩ | ⟨rfl, hempty⟩
      · have hmem : SourceCall.binding stage' replaced ∈
            (s.put i (.binding stage' replaced)).calls :=
          List.mem_set (List.getElem?_eq_some_iff.mp hc).1 _
        cases (hall _ hmem).symm.trans htrue
      · exact hempty htrue
    cases hreplaced : replaced with
    | true => exact .inl ⟨rfl, hcall hreplaced⟩
    | false =>
      refine .inr ?_
      intro c hmem
      rcases Slots.mem_set_or_eq hc hmem c' with hkept | rfl
      · exact hall c hkept
      · exact hreplaced
  refine ⟨h.store, ?_, ?_, ?_, ?_⟩
  · intro c hmem
    rcases mem_calls_put hmem with rfl | hold
    · rcases hc' with ⟨stage', rfl, hempty⟩ | ⟨rfl, -⟩
      · intro htrue
        refine ⟨?_, hempty htrue⟩
        intro c₁ hc₁
        rcases mem_calls_put hc₁ with rfl | hold
        · rfl
        · exact (h.calls _ (List.mem_of_getElem? hc) htrue).1 c₁ hold
      · trivial
    · cases c with
      | binding =>
        intro htrue
        obtain ⟨hreading, hempty⟩ := h.calls _ hold htrue
        constructor
        · intro c₁ hc₁
          rcases mem_calls_put hc₁ with rfl | hold
          · exact hreading'
          · exact hreading c₁ hold
        · intro hstage
          rcases hsnapshot with hsame | hnone
          · exact hsame.trans (hempty hstage)
          · exact hnone
      | _ => exact h.calls _ hold
  · intro hnone
    obtain ⟨hsnapshot₀, hspendable₀⟩ := h.unbound hnone
    exact ⟨hsnapshot.elim (·.trans hsnapshot₀) id, hspendable.elim (·.trans hspendable₀) id⟩
  · intro hall d indexer hd hindexer
    change indexerSnapshot = some indexer at hindexer
    rcases hquiet hall with ⟨-, hnone, -⟩ | hquiet₀
    · cases hnone.symm.trans hindexer
    · rcases hsnapshot with hsame | hnone
      · exact h.snapshot hquiet₀ d indexer hd (hsame.symm.trans hindexer)
      · cases hnone.symm.trans hindexer
  · intro hall d utxos hd hutxos
    change spendable = some utxos at hutxos
    rcases hquiet hall with ⟨-, -, hnone⟩ | hquiet₀
    · cases hnone.symm.trans hutxos
    · rcases hspendable with hsame | hnone
      · exact h.spendable hquiet₀ d utxos hd (hsame.symm.trans hutxos)
      · cases hnone.symm.trans hutxos

theorem Sound.next (h : Sound initial past s) {e f} (hundisturbed : Undisturbed s e)
    (hact : s.act e = some (t, f)) :
    Sound initial (past ++ f.toList) t ∧ ∀ r, f = some r → Rightful initial past r := by
  have hsame : Sound initial (past ++ (none : Option SourceReport).toList) s := by
    simpa using h
  cases e with
  | bindDerivedAccount _ derived =>
    simp only [act] at hact
    split_ifs at hact with hrefused
    · cases hact
      exact ⟨hsame, by simp⟩
    · cases hact
      exact ⟨hsame.bind derived (hundisturbed.resolve_left hrefused), by simp⟩
  | sync =>
    simp only [act] at hact
    split at hact
    · rename_i account hderived
      split_ifs at hact with hnetwork
      · cases hact
        exact ⟨hsame.push_reading (hundisturbed hnetwork) ⟨account, hderived, rfl⟩ rfl, by simp⟩
      · cases hact
        exact ⟨hsame, by simp⟩
    · cases hact
      exact ⟨hsame, by simp⟩
  | spendableAccount =>
    simp only [act] at hact
    split at hact
    · rename_i account hderived
      split_ifs at hact with hnetwork
      · cases hact
        exact ⟨hsame.push_reading (hundisturbed hnetwork) hderived rfl, by simp⟩
      · cases hact
        exact ⟨hsame, by simp⟩
    · cases hact
      exact ⟨hsame, by simp⟩
  | next i input =>
    simp only [act] at hact
    split at hact
    · cases hact
      exact ⟨hsame.clear ‹_› (.inl rfl) (.inl rfl) (.inl ⟨_, rfl, by simp⟩), by simp⟩
    · cases hact
      exact ⟨hsame.clear ‹_› (.inr rfl) (.inl rfl) (.inl ⟨_, rfl, fun _ _ => rfl⟩), by simp⟩
    · rename_i replaced hc
      cases hact
      refine ⟨hsame.clear hc (.inl rfl) (.inr rfl) (.inr ⟨rfl, ?_⟩), by simp⟩
      intro htrue
      exact ⟨(h.calls _ (mem_of_getElem? hc) htrue).2 rfl, rfl⟩
    · rename_i stage hc
      rw [some.injEq] at hact
      exact h.syncStage hc input hact
    · rename_i account hc
      cases hact
      have hderived : s.derived = some account := h.calls _ (mem_of_getElem? hc)
      obtain ⟨hquiet, -⟩ := h.of_reading (mem_of_getElem? hc) rfl
      refine ⟨h.of_returned hc rfl _, ?_⟩
      intro r hr
      obtain ⟨utxos, hutxos, rfl⟩ := map_eq_some_iff.mp hr
      exact h.spendable hquiet account utxos hderived hutxos
    · cases hact
    · cases hact
  | drop =>
    simp only [act] at hact
    split at hact
    · cases hact
      exact ⟨h.of_returned ‹_› rfl none, by simp⟩
    · cases hact

end Invariant

/-- As long as the account is not replaced while a call for it is running, the outputs offered for
spending were fetched for its receive address, and so was every checkpoint the indexer is asked to
continue. -/
theorem undisturbed_source_is_rightful {networkId : ChainNetworkId}
    {initial : List (String × StoredIndexerCheckpoint)} {es : List SourceEvent} {t : AccountSource}
    (hundisturbed : EveryStep (stepOf act) Undisturbed (.start networkId initial) es)
    (h : run (stepOf act) (.start networkId initial) es = some t) :
    let reports := history act (.start networkId initial) es
    (∀ before account utxos after, reports = before ++ .offered account utxos :: after →
        OutputsOf before account.receiveAddress.value utxos) ∧
      ∀ before address checkpoint after,
        reports = before ++ .requested address (some checkpoint) :: after →
          FetchedFor initial before address checkpoint := by
  have hsound := history_invariant_of_everyStep
    (P := fun past s => Sound initial past s ∧ EveryReport (Rightful initial) past)
    hundisturbed h ⟨sound_start networkId, everyReport_nil⟩ (by
      intro past p e q f hpast hC hact
      obtain ⟨hsound, hreports⟩ := hpast.1.next hC hact
      exact ⟨hsound, hpast.2.append hreports⟩)
  obtain ⟨-, hrightful⟩ := hsound
  constructor
  · intro before account utxos after heq
    exact hrightful before (.offered account utxos) after heq
  · intro before address checkpoint after heq
    exact hrightful before (.requested address (some checkpoint)) after heq

/-! ## An account that is replaced -/

def sampleNetwork : ChainNetworkId :=
  ⟨⟨"network_of_accounts", by decide, by decide, by decide, by decide⟩⟩

def sampleAccount (address : String) : DerivedChainAccount where
  networkId := sampleNetwork
  accountId := ⟨⟨"account_of_sync", by decide, by decide, by decide, by decide⟩⟩
  accountIndex := 0
  addressIndex := 0
  receiveAddress := ⟨.unshielded, address⟩
  additionalAddresses := []
  transactionPublicKey := []
  transactionKey := "key"

def sampleAnswer : IndexerSnapshot where
  currentCursor := 1
  targetCursor := 1
  chainTipHeight := none
  utxos := [⟨nativeNightTokenType, 6, List.replicate 64 'a', 0, none, false⟩]
  transactions := []

def sampleOutputs : List SpendableUtxo :=
  [⟨6, ⟨List.replicate 32 0xaa, by decide⟩, 0, none, false⟩]

def sampleInput : StageInput := ⟨.ok sampleAnswer, some 7, true⟩

def stages (call count : ℕ) : List SourceEvent := List.replicate count (.next call sampleInput)

def undisturbedEvents : List SourceEvent :=
  [.bindDerivedAccount sampleNetwork (sampleAccount "first")] ++ stages 0 3 ++
    [.sync sampleNetwork] ++ stages 1 11 ++ [.spendableAccount sampleNetwork] ++ stages 2 1

theorem history_undisturbedEvents : history act (.start sampleNetwork []) undisturbedEvents =
      [.requested "first" none, .fetched "first" sampleAnswer] ++
        .offered (sampleAccount "first") sampleOutputs :: [] := by
  decide +kernel

theorem exists_run_of_isSome (es : List SourceEvent)
    (h : (run (stepOf act) (.start sampleNetwork []) es).isSome) :
    ∃ t, run (stepOf act) (.start sampleNetwork []) es = some t :=
  isSome_iff_exists.mp h

theorem undisturbedEvents_are_rightful :
    EveryStep (stepOf act) Undisturbed (.start sampleNetwork []) undisturbedEvents ∧
      history act (.start sampleNetwork []) undisturbedEvents =
        [.requested "first" none, .fetched "first" sampleAnswer] ++
          .offered (sampleAccount "first") sampleOutputs :: [] ∧
      OutputsOf [.requested "first" none, .fetched "first" sampleAnswer] "first" sampleOutputs := by
  have hundisturbed : EveryStep (stepOf act) Undisturbed
      (.start sampleNetwork []) undisturbedEvents := by
    decide +kernel
  obtain ⟨t, ht⟩ := exists_run_of_isSome undisturbedEvents (by decide +kernel)
  obtain ⟨houtputs, -⟩ := undisturbed_source_is_rightful hundisturbed ht
  exact ⟨hundisturbed, history_undisturbedEvents,
    houtputs _ (sampleAccount "first") sampleOutputs [] history_undisturbedEvents⟩

def replacingEvents : List SourceEvent :=
  [.bindDerivedAccount sampleNetwork (sampleAccount "first")] ++ stages 0 3 ++
    [.sync sampleNetwork] ++ stages 1 6 ++
    [.bindDerivedAccount sampleNetwork (sampleAccount "second")] ++ stages 2 3 ++ stages 1 5 ++
    [.spendableAccount sampleNetwork] ++ stages 3 1 ++ [.sync sampleNetwork] ++ stages 4 6

/-- The second account is offered the outputs of the first one, and is synchronized from the
checkpoint of the first one. -/
theorem replaced_account_gets_foreign_outputs :
    (∃ t, run (stepOf act) (.start sampleNetwork []) replacingEvents = some t) ∧
      history act (.start sampleNetwork []) replacingEvents =
        [.requested "first" none, .fetched "first" sampleAnswer,
          .offered (sampleAccount "second") sampleOutputs,
          .requested "second" (some sampleAnswer)] ∧
      ¬ OutputsOf [.requested "first" none, .fetched "first" sampleAnswer] "second" sampleOutputs ∧
      ¬ FetchedFor [] [.requested "first" none, .fetched "first" sampleAnswer,
          .offered (sampleAccount "second") sampleOutputs] "second" sampleAnswer := by
  refine ⟨exists_run_of_isSome replacingEvents (by decide +kernel), by decide +kernel, ?_, ?_⟩
  · intro h
    obtain ⟨indexer, hmem, -⟩ := h
    simp at hmem
  · intro h
    rcases h with hmem | ⟨checkpoint, hmem, -⟩
    · simp at hmem
    · simp at hmem

end Oxid.Midnight
