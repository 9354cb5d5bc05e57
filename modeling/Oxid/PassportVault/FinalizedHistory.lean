import Oxid.PassportVault.Replay

/-!
# Collecting a finalized history

`CanonicalHistoryBuilder` of `finalized_history.rs` takes finalized blocks, checks that each
continues the chain, and collects the transactions that touch the contract.  The fetching and
decoding of blocks is not modelled.
-/

namespace Oxid.PassportVault

open Foundation Result List CanonicalMidnightTransaction

def maxTargetTransactions : ℕ := 16384

def blockTimeUncertaintySeconds : UInt32 := 30

inductive FinalizedMidnightHistoryError
  | unavailable | timedOut | invalidChainState | capacityExceeded | deploymentNotFinalized
  | deploymentHeightMismatch | missingDeployment | duplicateDeployment
  deriving DecidableEq

structure DecodedMidnightTransaction where
  rawTransaction : List UInt8
  transactionHash : Bytes32
  extrinsicIndex : UInt32
  allApplied : Bool
  appliedOperations : List CanonicalMidnightOperation
  targetsContract : Bool

structure DecodedFinalizedBlock where
  (hash parentHash : Bytes32)
  (height timestampSeconds : UInt64)
  transactions : List DecodedMidnightTransaction

structure FinalizedMidnightHistory where
  transactions : List CanonicalMidnightTransaction
  deploymentBlockHeight : UInt64
  finalizedHeadHash : Bytes32
  (finalizedHeadHeight finalizedHeadTimeSeconds : UInt64)
  deriving DecidableEq

def CanonicalMidnightOperation.targets (target : Bytes32) : CanonicalMidnightOperation → Bool
  | .call address | .deploy address | .maintain address => address = target

/-- The block pushed last is all that is kept of the chain. -/
structure CanonicalHistoryBuilder where
  target : Bytes32
  deploymentHeight : UInt64
  finalizedHeadHash : Bytes32
  (finalizedHeadHeight previousHeight : UInt64)
  previousHash : Bytes32
  previousTimestampSeconds : UInt64
  deploymentCount : ℕ
  transactions : List CanonicalMidnightTransaction
  deriving DecidableEq

/-- The context of a block has the time of the one before it. -/
def entryOf (priorTimestampSeconds : UInt64) (block : DecodedFinalizedBlock)
    (transaction : DecodedMidnightTransaction) : CanonicalMidnightTransaction where
  rawTransaction := transaction.rawTransaction
  transactionHash := transaction.transactionHash
  blockHash := block.hash
  blockHeight := block.height
  extrinsicIndex := transaction.extrinsicIndex
  blockContext :=
    ⟨block.timestampSeconds, blockTimeUncertaintySeconds, block.parentHash, priorTimestampSeconds⟩
  allApplied := transaction.allApplied
  appliedOperations := transaction.appliedOperations

def deploymentEvents (target : Bytes32) (transaction : DecodedMidnightTransaction) : ℕ :=
  transaction.appliedOperations.countP (· = .deploy target)

namespace CanonicalHistoryBuilder

/-- The block before the deployment starts the chain. -/
def new (target : Bytes32) (deploymentHeight : UInt64) (finalizedHeadHash : Bytes32)
    (finalizedHeadHeight : UInt64) (priorBlock : DecodedFinalizedBlock) :
    Except FinalizedMidnightHistoryError CanonicalHistoryBuilder := do
  rejectIf (checkedAdd64 priorBlock.height 1 ≠ some deploymentHeight) .invalidChainState
  return {
    target := target
    deploymentHeight := deploymentHeight
    finalizedHeadHash := finalizedHeadHash
    finalizedHeadHeight := finalizedHeadHeight
    previousHeight := priorBlock.height
    previousHash := priorBlock.hash
    previousTimestampSeconds := priorBlock.timestampSeconds
    deploymentCount := 0
    transactions := [] }

/-- An event on the contract must be of a transaction that names it. -/
def pushTransaction (block : DecodedFinalizedBlock) (self : CanonicalHistoryBuilder)
    (transaction : DecodedMidnightTransaction) :
    Except FinalizedMidnightHistoryError CanonicalHistoryBuilder := do
  rejectIf (transaction.appliedOperations.any (·.targets self.target) &&
    !transaction.targetsContract) .invalidChainState
  if !transaction.targetsContract then return self
  let events := deploymentEvents self.target transaction
  rejectIf (0 < events && block.height ≠ self.deploymentHeight) .deploymentHeightMismatch
  let deploymentCount := self.deploymentCount + events
  rejectIf (1 < deploymentCount) .duplicateDeployment
  rejectIf (self.transactions.length = maxTargetTransactions) .capacityExceeded
  return { self with
    deploymentCount := deploymentCount
    transactions := self.transactions ++
      [entryOf self.previousTimestampSeconds block transaction] }

def push (self : CanonicalHistoryBuilder) (block : DecodedFinalizedBlock) :
    Except FinalizedMidnightHistoryError CanonicalHistoryBuilder := do
  rejectIf (checkedAdd64 self.previousHeight 1 ≠ some block.height ||
    block.parentHash ≠ self.previousHash ||
    block.timestampSeconds < self.previousTimestampSeconds) .invalidChainState
  let self ← block.transactions.foldlM (pushTransaction block) self
  return { self with
    previousHeight := block.height
    previousHash := block.hash
    previousTimestampSeconds := block.timestampSeconds }

/-- The history has to end at the finalized head, with one deployment in it. -/
def finish (self : CanonicalHistoryBuilder) :
    Except FinalizedMidnightHistoryError FinalizedMidnightHistory := do
  rejectIf (self.previousHeight ≠ self.finalizedHeadHeight ||
    self.previousHash ≠ self.finalizedHeadHash) .invalidChainState
  match self.deploymentCount with
  | 0 => .error .missingDeployment
  | 1 => return ⟨self.transactions, self.deploymentHeight, self.finalizedHeadHash,
      self.finalizedHeadHeight, self.previousTimestampSeconds⟩
  | _ => .error .duplicateDeployment

end CanonicalHistoryBuilder

open CanonicalHistoryBuilder

/-! ## What a history is of -/

def Linked (prior block : DecodedFinalizedBlock) : Prop :=
  block.height.toNat = prior.height.toNat + 1 ∧ block.parentHash = prior.hash ∧
    prior.timestampSeconds ≤ block.timestampSeconds

def blockEntries (prior block : DecodedFinalizedBlock) : List CanonicalMidnightTransaction :=
  (block.transactions.filter (·.targetsContract)).map (entryOf prior.timestampSeconds block)

def canonicalEntries : DecodedFinalizedBlock → List DecodedFinalizedBlock →
    List CanonicalMidnightTransaction
  | _, [] => []
  | prior, block :: blocks => blockEntries prior block ++ canonicalEntries block blocks

def deploymentsIn (target : Bytes32) (block : DecodedFinalizedBlock) : ℕ :=
  (block.transactions.map (deploymentEvents target)).sum

namespace CanonicalHistoryBuilder

structure Tip (b : CanonicalHistoryBuilder) (block : DecodedFinalizedBlock) : Prop where
  height : b.previousHeight = block.height
  hash : b.previousHash = block.hash
  timestamp : b.previousTimestampSeconds = block.timestampSeconds

structure SameTask (b b' : CanonicalHistoryBuilder) : Prop where
  target : b'.target = b.target
  deploymentHeight : b'.deploymentHeight = b.deploymentHeight
  finalizedHeadHash : b'.finalizedHeadHash = b.finalizedHeadHash
  finalizedHeadHeight : b'.finalizedHeadHeight = b.finalizedHeadHeight

theorem SameTask.refl (b : CanonicalHistoryBuilder) : SameTask b b := ⟨rfl, rfl, rfl, rfl⟩

theorem SameTask.trans {a b c} (h : SameTask a b) (h' : SameTask b c) : SameTask a c :=
  ⟨h'.target.trans h.target, h'.deploymentHeight.trans h.deploymentHeight,
    h'.finalizedHeadHash.trans h.finalizedHeadHash,
    h'.finalizedHeadHeight.trans h.finalizedHeadHeight⟩

/-- What the transactions of one block add. -/
structure Collected (block : DecodedFinalizedBlock) (transactions : List DecodedMidnightTransaction)
    (b b' : CanonicalHistoryBuilder) : Prop where
  task : SameTask b b'
  timestamp : b'.previousTimestampSeconds = b.previousTimestampSeconds
  entries : b'.transactions = b.transactions ++
    (transactions.filter (·.targetsContract)).map (entryOf b.previousTimestampSeconds block)
  count : b'.deploymentCount = b.deploymentCount +
    (transactions.map (deploymentEvents b.target)).sum
  height : 0 < (transactions.map (deploymentEvents b.target)).sum →
    block.height = b.deploymentHeight
  touching : ∀ t ∈ transactions, t.appliedOperations.any (·.targets b.target) →
    t.targetsContract

section Blocks
variable {b b' : CanonicalHistoryBuilder} {block prior : DecodedFinalizedBlock}
  {t : DecodedMidnightTransaction} {ts : List DecodedMidnightTransaction}

theorem deploymentEvents_eq_zero {target} (h : t.appliedOperations.any (·.targets target) = false) :
    deploymentEvents target t = 0 := by
  rw [deploymentEvents, countP_eq_zero]
  intro op hop hdeploy
  rw [any_eq_false] at h
  have := h op hop
  rw [decide_eq_true_eq] at hdeploy
  rw [hdeploy] at this
  simp [CanonicalMidnightOperation.targets] at this

theorem collected_pushTransaction (h : pushTransaction block b t = .ok b') :
    Collected block [t] b b' := by
  simp only [pushTransaction, bind_ok_iff, rejectIf_ok_iff, exists_const] at h
  obtain ⟨htouching, h⟩ := h
  by_cases htarget : t.targetsContract
  · simp only [htarget, Bool.not_true, Bool.false_eq_true, if_false, bind_ok_iff, rejectIf_ok_iff,
      exists_const] at h
    obtain ⟨hheight, -, -, heq⟩ := h
    cases heq
    refine ⟨⟨rfl, rfl, rfl, rfl⟩, rfl, by simp [htarget], by simp, ?_, by simp [htarget]⟩
    intro hpos
    simp only [Bool.and_eq_false_iff, decide_eq_false_iff_not, ne_eq, not_not] at hheight
    rcases hheight with hnone | hheight
    · simp at hpos
      omega
    · exact hheight
  · rw [Bool.not_eq_true] at htarget
    simp only [htarget, Bool.not_false, if_true] at h
    simp only [htarget, Bool.not_false, Bool.and_true] at htouching
    cases h
    have hzero := deploymentEvents_eq_zero htouching
    refine ⟨.refl b, rfl, by simp [htarget], by simp [hzero], by simp [hzero], ?_⟩
    intro t' ht' hany
    rw [mem_singleton.mp ht', htouching] at hany
    cases hany

theorem collected_pushTransactions (h : ts.foldlM (pushTransaction block) b = .ok b') :
    Collected block ts b b' := by
  induction ts generalizing b with
  | nil =>
    cases h
    exact ⟨.refl _, rfl, by simp, by simp, by simp, by simp⟩
  | cons t _ ih =>
    rw [foldlM_cons, bind_ok_iff] at h
    obtain ⟨mid, hfirst, hrest⟩ := h
    have hfirst := collected_pushTransaction hfirst
    have hrest := ih hrest
    obtain ⟨htask, htimestamp, hentries, hcount, hdeployed, htouching⟩ := hrest
    rw [hfirst.task.target] at hcount hdeployed htouching
    rw [hfirst.timestamp] at hentries
    refine ⟨hfirst.task.trans htask, htimestamp.trans hfirst.timestamp, ?_, ?_, ?_, ?_⟩
    · rw [hentries, hfirst.entries, append_assoc, ← map_append, ← filter_append, singleton_append]
    · rw [hcount, hfirst.count]
      simp [Nat.add_assoc]
    · intro hpos
      rw [map_cons, sum_cons] at hpos
      by_cases hzero : deploymentEvents b.target t = 0
      · rw [hdeployed (by omega), hfirst.task.deploymentHeight]
      · refine hfirst.height ?_
        rw [map_singleton, sum_singleton]
        omega
    · rw [forall_mem_cons]
      exact ⟨hfirst.touching t mem_cons_self, htouching⟩

structure Pushed (prior block : DecodedFinalizedBlock) (b b' : CanonicalHistoryBuilder) : Prop where
  linked : Linked prior block
  tip : b'.Tip block
  task : SameTask b b'
  entries : b'.transactions = b.transactions ++ blockEntries prior block
  count : b'.deploymentCount = b.deploymentCount + deploymentsIn b.target block
  height : 0 < deploymentsIn b.target block → block.height = b.deploymentHeight
  touching : ∀ t ∈ block.transactions, t.appliedOperations.any (·.targets b.target) →
    t.targetsContract

theorem pushed_of_push (htip : b.Tip prior) (h : b.push block = .ok b') :
    Pushed prior block b b' := by
  simp only [push, bind_ok_iff, rejectIf_ok_iff, exists_const, Bool.or_eq_false_iff,
    decide_eq_false_iff_not, ne_eq, not_not] at h
  obtain ⟨⟨⟨hheight, hparent⟩, htimestamp⟩, mid, hloop, heq⟩ := h
  have hcollected := collected_pushTransactions hloop
  have hsucc := checkedAdd64_eq_some_iff.mp hheight
  rw [htip.height] at hsucc
  rw [htip.hash] at hparent
  rw [htip.timestamp] at htimestamp
  cases heq
  refine ⟨⟨hsucc, hparent, not_lt.mp htimestamp⟩, ⟨rfl, rfl, rfl⟩, ?_, ?_, hcollected.count,
    hcollected.height, hcollected.touching⟩
  · exact ⟨hcollected.task.target, hcollected.task.deploymentHeight,
      hcollected.task.finalizedHeadHash, hcollected.task.finalizedHeadHeight⟩
  · rw [blockEntries, ← htip.timestamp]
    exact hcollected.entries

end Blocks

/-- What a chain of blocks adds. -/
structure Built (prior : DecodedFinalizedBlock) (blocks : List DecodedFinalizedBlock)
    (b b' : CanonicalHistoryBuilder) : Prop where
  linked : (prior :: blocks).IsChain Linked
  tip : ∃ last, (prior :: blocks).getLast? = some last ∧ b'.Tip last
  task : SameTask b b'
  entries : b'.transactions = b.transactions ++ canonicalEntries prior blocks
  count : b'.deploymentCount = b.deploymentCount + (blocks.map (deploymentsIn b.target)).sum
  height : ∀ block ∈ blocks, 0 < deploymentsIn b.target block → block.height = b.deploymentHeight
  touching : ∀ block ∈ blocks, ∀ t ∈ block.transactions,
    t.appliedOperations.any (·.targets b.target) → t.targetsContract

theorem built_of_pushes {b b' prior blocks} (htip : b.Tip prior)
    (h : blocks.foldlM push b = .ok b') : Built prior blocks b b' := by
  induction blocks generalizing b prior with
  | nil =>
    cases h
    exact ⟨.singleton _, ⟨prior, rfl, htip⟩, .refl _, by simp [canonicalEntries], by simp,
      by simp, by simp⟩
  | cons _ _ ih =>
    rw [foldlM_cons, bind_ok_iff] at h
    obtain ⟨mid, hfirst, hrest⟩ := h
    have hfirst := pushed_of_push htip hfirst
    obtain ⟨hlinked, htip, htask, hentries, hcount, hheight, htouching⟩ := ih hfirst.tip hrest
    rw [hfirst.task.target] at hcount hheight htouching
    rw [hfirst.task.deploymentHeight] at hheight
    refine ⟨isChain_cons_cons.mpr ⟨hfirst.linked, hlinked⟩, ?_, hfirst.task.trans htask,
      ?_, ?_, ?_, ?_⟩
    · rw [getLast?_cons_cons]
      exact htip
    · rw [hentries, hfirst.entries, append_assoc, canonicalEntries]
    · rw [hcount, hfirst.count, map_cons, sum_cons, Nat.add_assoc]
    · rw [forall_mem_cons]
      exact ⟨hfirst.height, hheight⟩
    · rw [forall_mem_cons]
      exact ⟨hfirst.touching, htouching⟩

theorem tip_of_new {target deploymentHeight headHash headHeight prior b}
    (h : new target deploymentHeight headHash headHeight prior = .ok b) :
    deploymentHeight.toNat = prior.height.toNat + 1 ∧ b.Tip prior ∧
      b = ⟨target, deploymentHeight, headHash, headHeight, prior.height, prior.hash,
        prior.timestampSeconds, 0, []⟩ := by
  simp only [new, bind_ok_iff, rejectIf_ok_iff, exists_const, decide_eq_false_iff_not, ne_eq,
    not_not] at h
  obtain ⟨hheight, heq⟩ := h
  cases heq
  exact ⟨checkedAdd64_eq_some_iff.mp hheight, ⟨rfl, rfl, rfl⟩, rfl⟩

theorem finish_ok {b : CanonicalHistoryBuilder} {history : FinalizedMidnightHistory}
    (h : b.finish = .ok history) :
    b.previousHeight = b.finalizedHeadHeight ∧ b.previousHash = b.finalizedHeadHash ∧
      b.deploymentCount = 1 ∧ history.transactions = b.transactions := by
  simp only [finish, bind_ok_iff, rejectIf_ok_iff, exists_const, Bool.or_eq_false_iff,
    decide_eq_false_iff_not, ne_eq, not_not] at h
  obtain ⟨⟨hheight, hhash⟩, hcount⟩ := h
  refine ⟨hheight, hhash, ?_⟩
  split at hcount
  · cases hcount
  · rename_i hone
    cases hcount
    exact ⟨hone, rfl⟩
  · cases hcount

end CanonicalHistoryBuilder

section Entries
variable {prior block : DecodedFinalizedBlock} {blocks : List DecodedFinalizedBlock}
  {e : CanonicalMidnightTransaction}

def DecodedFinalizedBlock.Ordered (block : DecodedFinalizedBlock) : Prop :=
  (block.transactions.map (·.extrinsicIndex)).Pairwise (· < ·)

theorem blockHeight_of_mem (h : e ∈ blockEntries prior block) : e.blockHeight = block.height := by
  obtain ⟨t, -, rfl⟩ := mem_map.mp h
  rfl

theorem blockEntries_follow (h : block.Ordered) :
    (blockEntries prior block).Pairwise CanonicalMidnightTransaction.Follows := by
  rw [blockEntries, pairwise_map]
  refine ((pairwise_map.mp h).filter _).imp ?_
  intro t t' hlt
  refine ⟨?_, fun _ => rfl⟩
  simp only [positionBefore, position, entryOf, decide_true, Bool.true_and, Bool.or_eq_true]
  exact .inr (decide_eq_true hlt)

theorem lt_blockHeight_of_mem (hlinked : (prior :: blocks).IsChain Linked)
    (h : e ∈ canonicalEntries prior blocks) : prior.height < e.blockHeight := by
  induction blocks generalizing prior with
  | nil => cases h
  | cons block _ ih =>
    obtain ⟨hlink, hrest⟩ := isChain_cons_cons.mp hlinked
    have hlt : prior.height < block.height := by
      rw [UInt64.lt_iff_toNat_lt, hlink.1]
      exact Nat.lt_succ_self _
    rcases mem_append.mp h with h | h
    · rw [blockHeight_of_mem h]
      exact hlt
    · exact hlt.trans (ih hrest h)

theorem canonicalEntries_follow (hlinked : (prior :: blocks).IsChain Linked)
    (hordered : ∀ block ∈ blocks, block.Ordered) :
    (canonicalEntries prior blocks).Pairwise CanonicalMidnightTransaction.Follows := by
  induction blocks generalizing prior with
  | nil => exact .nil
  | cons block _ ih =>
    rw [forall_mem_cons] at hordered
    have hrest := (isChain_cons_cons.mp hlinked).2
    rw [canonicalEntries, pairwise_append]
    refine ⟨blockEntries_follow hordered.1, ih hrest hordered.2, ?_⟩
    -- A later block is higher, so nothing in it shares the height.
    intro a ha c hc
    have hlt := lt_blockHeight_of_mem hrest hc
    rw [← blockHeight_of_mem ha] at hlt
    refine ⟨?_, fun heq => absurd heq hlt.ne⟩
    simp [positionBefore, position, hlt]

end Entries

section History
variable {target : Bytes32} {deploymentHeight : UInt64} {headHash : Bytes32} {headHeight : UInt64}
  {prior : DecodedFinalizedBlock} {blocks : List DecodedFinalizedBlock}
  {b b' : CanonicalHistoryBuilder} {history : FinalizedMidnightHistory}

/-- **A collected history is canonical.**  The accepted blocks are a chain without a gap from the
block after the prior one to the finalized head; the history holds exactly their transactions that
touch the contract, in strictly increasing position, with exactly one deployment; and the replay
never complains about its order. -/
theorem finalized_history_canonical
    (hnew : new target deploymentHeight headHash headHeight prior = .ok b)
    (hpush : blocks.foldlM push b = .ok b')
    (hfinish : b'.finish = .ok history) (hordered : ∀ block ∈ blocks, block.Ordered) :
    ((prior :: blocks).IsChain Linked ∧ ∃ head, blocks.getLast? = some head ∧
      head.hash = headHash ∧ head.height = headHeight) ∧
    (history.transactions = canonicalEntries prior blocks ∧
      ∀ block ∈ blocks, ∀ t ∈ block.transactions,
        t.appliedOperations.any (·.targets target) → t.targetsContract) ∧
    (history.transactions.Pairwise fun x y => positionBefore x.position y.position) ∧
    (∀ x ∈ history.transactions, ∀ y ∈ history.transactions, x.blockHeight = y.blockHeight →
      x.blockHash = y.blockHash ∧ x.blockContext = y.blockContext) ∧
    ((blocks.map (deploymentsIn target)).sum = 1 ∧
      (∀ block ∈ blocks, 0 < deploymentsIn target block → block.height = deploymentHeight) ∧
      deploymentHeight.toNat = prior.height.toNat + 1) ∧
    ∀ (M : MidnightTypes) (L : MidnightLedger M),
      replayCanonicalPassportVaultHistory L target history.transactions ≠ .error .invalidOrder := by
  obtain ⟨hheight, htip, hb⟩ := tip_of_new hnew
  have hbuilt := built_of_pushes htip hpush
  obtain ⟨hheadHeight, hheadHash, hone, htransactions⟩ :=
    finish_ok hfinish
  have hentries : history.transactions = canonicalEntries prior blocks := by
    rw [htransactions, hbuilt.entries, hb, nil_append]
  have hcount : (blocks.map (deploymentsIn target)).sum = 1 := by
    have := hbuilt.count
    rw [hone, hb, Nat.zero_add] at this
    exact this.symm
  have hfollows := canonicalEntries_follow hbuilt.linked hordered
  rw [← hentries] at hfollows
  have htarget : b.target = target := by rw [hb]
  refine ⟨⟨hbuilt.linked, ?_⟩, ⟨hentries, ?_⟩, hfollows.imp fun h => h.1, ?_,
    ⟨hcount, ?_, hheight⟩, ?_⟩
  · -- There is a block, since there is a deployment; the builder stands at the last one.
    obtain ⟨last, hlast, hlastTip⟩ := hbuilt.tip
    cases blocks with
    | nil => simp at hcount
    | cons =>
      rw [getLast?_cons_cons] at hlast
      refine ⟨last, hlast, ?_, ?_⟩
      · rw [← hlastTip.hash, hheadHash, hbuilt.task.finalizedHeadHash, hb]
      · rw [← hlastTip.height, hheadHeight, hbuilt.task.finalizedHeadHeight, hb]
  · rw [← htarget]
    exact hbuilt.touching
  · have hsame : history.transactions.Pairwise fun x y =>
        x.blockHeight = y.blockHeight → x.block = y.block := hfollows.imp fun h => h.2
    have : Std.Symm fun x y : CanonicalMidnightTransaction =>
        x.blockHeight = y.blockHeight → x.block = y.block := ⟨fun x y h heq => (h heq.symm).symm⟩
    intro x hx y hy heq
    have hblock := List.Pairwise.forall_of_forall (fun x _ _ => rfl) hsame hx hy heq
    simp only [block, Prod.mk.injEq] at hblock
    exact hblock.2
  · intro block hblock hpos
    rw [← htarget] at hpos
    rw [hbuilt.height block hblock hpos, hb]
  · intro M L herror
    exact replay_avoids_invalidOrder L hfollows.isChain _ herror rfl

end History

namespace Sample

def deployment : DecodedMidnightTransaction :=
  ⟨[1], address 5, 3, true, [.deploy (address 1)], true⟩

def later : List DecodedMidnightTransaction :=
  [⟨[2], address 6, 1, true, [.call (address 2)], false⟩,
    ⟨[3], address 7, 4, false, [.call (address 1)], true⟩]

def priorBlock : DecodedFinalizedBlock := ⟨address 40, address 39, 40, 100, []⟩

def finalizedBlocks : List DecodedFinalizedBlock :=
  [⟨address 41, address 40, 41, 106, [deployment]⟩, ⟨address 42, address 41, 42, 112, later⟩]

def builder : CanonicalHistoryBuilder :=
  ⟨address 1, 41, address 42, 42, 40, address 40, 100, 0, []⟩

def finishedBuilder : CanonicalHistoryBuilder :=
  { builder with
    previousHeight := 42
    previousHash := address 42
    previousTimestampSeconds := 112
    deploymentCount := 1
    transactions := canonicalEntries priorBlock finalizedBlocks }

def history : FinalizedMidnightHistory :=
  ⟨canonicalEntries priorBlock finalizedBlocks, 41, address 42, 42, 112⟩

end Sample

open Sample

theorem finalized_history_canonical_two_blocks :
    new (address 1) 41 (address 42) 42 priorBlock = .ok builder ∧
    finalizedBlocks.foldlM push builder = .ok finishedBuilder ∧
    finishedBuilder.finish = .ok history ∧ (∀ block ∈ finalizedBlocks, block.Ordered) ∧
    history.transactions.length = 2 ∧ ∀ L : MidnightLedger midnight,
      replayCanonicalPassportVaultHistory L (address 1) history.transactions ≠
        .error .invalidOrder := by
  have hnew : new (address 1) 41 (address 42) 42 priorBlock = .ok builder := by
    decide +kernel
  have hpush : finalizedBlocks.foldlM push builder = .ok finishedBuilder := by
    decide +kernel
  have hfinish : finishedBuilder.finish = .ok history := by
    decide +kernel
  have hordered : ∀ block ∈ finalizedBlocks, block.Ordered := by
    unfold DecodedFinalizedBlock.Ordered
    decide +kernel
  exact ⟨hnew, hpush, hfinish, hordered, by decide +kernel,
    (finalized_history_canonical hnew hpush hfinish hordered).2.2.2.2.2 midnight⟩

end Oxid.PassportVault
