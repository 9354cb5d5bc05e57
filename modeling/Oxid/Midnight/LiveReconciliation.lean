import Mathlib.Data.List.Nodup
import Mathlib.Data.List.Infix
import Mathlib.Data.List.Chain
import Oxid.Midnight.Submission

/-!
# Reconciling with the live chain

`reconcile_live_submission` looks for a transaction at most 2048 blocks back from the head; if
it is not found, the time of the indexer's last block decides whether it has expired.  A
`Node` answers the request with number `n` from `chain n`, or fails it.
-/

namespace Oxid.Midnight
open Foundation PassportVault Transaction List

/-! ## The chain -/

inductive ExtrinsicEvent
  | extrinsicSuccess | extrinsicFailed | other | undecodable
  deriving DecidableEq

structure Extrinsic where
  hash : Bytes32
  events : List ExtrinsicEvent
  deriving DecidableEq

structure FinalizedBlock where
  (hash parentHash : Bytes32)
  number : UInt32
  timestampMillis : UInt64
  extrinsics : List Extrinsic
  deriving DecidableEq

def FinalizedBlock.timestamp (block : FinalizedBlock) : UInt64 := block.timestampMillis / 1000

def FinalizedBlock.Contains (block : FinalizedBlock) (transactionHash : Bytes32) : Prop :=
  ∃ extrinsic ∈ block.extrinsics, extrinsic.hash = transactionHash

structure FinalizedChain where
  blocks : List FinalizedBlock
  nonempty : blocks ≠ []
  linked : blocks.IsChain fun parent block =>
    block.parentHash = parent.hash ∧ parent.timestampMillis ≤ block.timestampMillis
  distinct : (blocks.map FinalizedBlock.hash).Nodup
  rooted : ∀ root ∈ blocks.head?, ∀ block ∈ blocks, block.hash ≠ root.parentHash

namespace FinalizedChain

def head (chain : FinalizedChain) : FinalizedBlock := chain.blocks.getLast chain.nonempty

def at? (chain : FinalizedChain) (hash : Bytes32) : Option FinalizedBlock :=
  chain.blocks.find? fun block => block.hash = hash

end FinalizedChain

/-- The node and the indexer while they are asked: the chain at the time of each request,
which only ever grows, and the requests that fail. -/
structure Node where
  chain : ℕ → FinalizedChain
  grows : ∀ n, (chain n).blocks <+: (chain (n + 1)).blocks
  failure : ℕ → Option TransactionPortError

/-! ## The code -/

abbrev Session := Method ℕ TransactionPortError

def maxReconciliationBlocks : ℕ := 2048

def Node.request {α : Type} (node : Node) (answer : FinalizedChain → Option α) : Session α := do
  let n ← get
  set (n + 1)
  match node.failure n with
  | some e => throw e
  | none => okOr (answer (node.chain n)) .unavailable

def settleExtrinsic (block : FinalizedBlock) (events : List ExtrinsicEvent) :
    Except TransactionPortError Reconciliation :=
  if .undecodable ∈ events then .error .invalidChainState
  else
    match decide (.extrinsicSuccess ∈ events), decide (.extrinsicFailed ∈ events) with
    | true, false => .ok (.included block.hash block.number.toUInt64)
    | false, true => .ok .rejected
    | _, _ => .error .invalidChainState

inductive WalkEnd
  | settled (reconciliation : Reconciliation)
  | stopped (block : FinalizedBlock)

def walk (node : Node) (entry : JournalEntry) : ℕ → FinalizedBlock → Session WalkEnd
  | 0, block => pure (.stopped block)
  | n + 1, block =>
    if block.hash = entry.intent.anchorBlockHash then pure (.stopped block)
    else do
      let extrinsics ← node.request fun _ => some block.extrinsics
      match extrinsics.find? fun extrinsic => extrinsic.hash = entry.intent.transactionHash with
      | some extrinsic =>
        let events ← node.request fun _ => some extrinsic.events
        let reconciliation ← ofResult (settleExtrinsic block events)
        return .settled reconciliation
      | none =>
        let parent ← node.request fun chain => chain.at? block.parentHash
        walk node entry n parent

def expirySeconds (entry : JournalEntry) : UInt64 := entry.attempt.expiresAt / 1000

/-- `reconcile_live_submission`.  The first request connects to the node, the second one
reads its head, and the last one is to the indexer. -/
def reconcileLiveSubmission (node : Node) (entry : JournalEntry) : Session Reconciliation := do
  let _ ← node.request fun _ => some ()
  let head ← node.request fun chain => some chain.head
  match ← walk node entry maxReconciliationBlocks head with
  | .settled reconciliation => return reconciliation
  | .stopped block =>
    if block.hash = entry.intent.anchorBlockHash then
      let tip ← node.request fun chain => some chain.head.timestamp
      return if expirySeconds entry ≤ tip then .expired else .unresolved
    else return .unresolved

section Walk
variable {node : Node} {entry : JournalEntry} {chain chain' : FinalizedChain}
  {block parent : FinalizedBlock} {n k : ℕ}

theorem Node.grows_le (node : Node) (h : n ≤ k) :
    (node.chain n).blocks <+: (node.chain k).blocks := by
  induction h with
  | refl => exact prefix_rfl
  | step _ ih => exact ih.trans (node.grows _)

theorem ensures_request {α : Type} {answer : FinalizedChain → Option α} :
    Ensures n (node.request answer) fun a t => t = n + 1 ∧ answer (node.chain n) = some a := by
  intro a t hcall
  rw [Node.request, call_get_bind, call_bind] at hcall
  cases hfailure : node.failure n with
  | some =>
    rw [hfailure] at hcall
    cases hcall
  | none =>
    rw [hfailure] at hcall
    cases hanswer : answer (node.chain n) with
    | none =>
      rw [hanswer] at hcall
      cases hcall
    | some =>
      rw [hanswer] at hcall
      cases hcall
      exact ⟨rfl, rfl⟩

theorem FinalizedChain.index_eq (chain : FinalizedChain) {i j : ℕ} {block block' : FinalizedBlock}
    (hi : chain.blocks[i]? = some block) (hj : chain.blocks[j]? = some block')
    (h : block.hash = block'.hash) : i = j := by
  have hsame : (chain.blocks.map FinalizedBlock.hash)[i]? =
      (chain.blocks.map FinalizedBlock.hash)[j]? := by
    rw [List.getElem?_map, List.getElem?_map, hi, hj, Option.map_some, Option.map_some, h]
  have hlti := (List.getElem?_eq_some_iff.mp hi).1
  have hltj := (List.getElem?_eq_some_iff.mp hj).1
  have hdistinct := List.nodup_iff_getElem?_ne_getElem?.mp chain.distinct
  rcases Nat.lt_trichotomy i j with hlt | heq | hgt
  · exact absurd hsame (hdistinct i j hlt (by rwa [List.length_map]))
  · exact heq
  · exact absurd hsame.symm (hdistinct j i hgt (by rwa [List.length_map]))

theorem FinalizedChain.timestamp_le (chain : FinalizedChain) {i j : ℕ}
    {block later : FinalizedBlock} (hi : chain.blocks[i]? = some block)
    (hj : chain.blocks[j]? = some later) (h : i < j) : block.timestamp ≤ later.timestamp := by
  have hmillis : chain.blocks.IsChain fun parent block =>
      parent.timestampMillis ≤ block.timestampMillis := chain.linked.imp fun _ _ hlink => hlink.2
  obtain ⟨hlti, rfl⟩ := List.getElem?_eq_some_iff.mp hi
  obtain ⟨hltj, rfl⟩ := List.getElem?_eq_some_iff.mp hj
  have hle := List.pairwise_iff_getElem.mp (List.isChain_iff_pairwise.mp hmillis) i j hlti hltj h
  rw [FinalizedBlock.timestamp, FinalizedBlock.timestamp, UInt64.le_iff_toNat_le,
    UInt64.toNat_div, UInt64.toNat_div]
  exact Nat.div_le_div_right hle

theorem FinalizedChain.getElem?_head (chain : FinalizedChain) :
    chain.blocks[chain.blocks.length - 1]? = some chain.head := by
  rw [← getLast?_eq_getElem?, getLast?_eq_getLast_of_ne_nil chain.nonempty]
  rfl

theorem getElem?_of_grown {i : ℕ} (hgrown : chain.blocks <+: chain'.blocks)
    (h : chain.blocks[i]? = some block) : chain'.blocks[i]? = some block := by
  obtain ⟨appended, happended⟩ := hgrown
  rw [← happended, List.getElem?_append_left (List.getElem?_eq_some_iff.mp h).1]
  exact h

def Searched (chain : FinalizedChain) (transactionHash : Bytes32) (block : FinalizedBlock) : Prop :=
  ∃ i : ℕ, chain.blocks[i]? = some block ∧
    ∀ j > i, ∀ later, chain.blocks[j]? = some later → ¬ later.Contains transactionHash

theorem searched_head (chain : FinalizedChain) (transactionHash : Bytes32) :
    Searched chain transactionHash chain.head := by
  refine ⟨chain.blocks.length - 1, chain.getElem?_head, ?_⟩
  intro j hj later hlater
  have hlt := (List.getElem?_eq_some_iff.mp hlater).1
  omega

theorem getElem?_of_lt_grown {i} (hgrown : chain.blocks <+: chain'.blocks)
    (hlt : i < chain.blocks.length) (h : chain'.blocks[i]? = some block) :
    chain.blocks[i]? = some block := by
  obtain ⟨appended, happended⟩ := hgrown
  rwa [← happended, getElem?_append_left hlt] at h

theorem Searched.previous {transactionHash : Bytes32} (h : Searched chain transactionHash block)
    (hgrown : chain.blocks <+: chain'.blocks) (hnot : ¬ block.Contains transactionHash)
    (hparent : chain'.at? block.parentHash = some parent) :
    Searched chain transactionHash parent := by
  obtain ⟨i, hi, hlater⟩ := h
  have hmem : parent ∈ chain'.blocks := List.mem_of_find?_eq_some hparent
  have hhash : parent.hash = block.parentHash := by simpa using List.find?_some hparent
  cases i with
  | zero =>
    -- the first block has no parent
    have hroot : block ∈ chain'.blocks.head? := by
      rw [List.head?_eq_getElem?]
      exact getElem?_of_grown hgrown hi
    exact absurd hhash (chain'.rooted block hroot parent hmem)
  | succ i =>
    obtain ⟨hlt, hblock⟩ := List.getElem?_eq_some_iff.mp hi
    have hbefore : chain.blocks[i]? = some chain.blocks[i] := List.getElem?_eq_getElem _
    have hlink := (List.isChain_iff_getElem.mp chain.linked i hlt).1
    rw [hblock, ← hhash] at hlink
    obtain ⟨k, hk⟩ := List.mem_iff_getElem?.mp hmem
    obtain rfl := chain'.index_eq hk (getElem?_of_grown hgrown hbefore) hlink
    rw [getElem?_of_grown hgrown hbefore] at hk
    refine ⟨k, hbefore.trans hk, ?_⟩
    intro j hj later hlater'
    by_cases hnext : j = k + 1
    · rw [hnext, hi] at hlater'
      cases hlater'
      exact hnot
    · exact hlater j (by omega) later hlater'

def FoundIn (chain : FinalizedChain) (entry : JournalEntry) (reconciliation : Reconciliation) :
    Prop :=
  ∃ block ∈ chain.blocks, ∃ extrinsic ∈ block.extrinsics,
    extrinsic.hash = entry.intent.transactionHash ∧
      settleExtrinsic block extrinsic.events = .ok reconciliation

def Walked (chain : FinalizedChain) (entry : JournalEntry) : WalkEnd → Prop
  | .settled reconciliation => FoundIn chain entry reconciliation
  | .stopped block => Searched chain entry.intent.transactionHash block

theorem walk_ensures (h : Searched chain entry.intent.transactionHash block)
    (hgrown : chain.blocks <+: (node.chain n).blocks) (fuel : ℕ) :
    Ensures n (walk node entry fuel block) fun result t => n ≤ t ∧ Walked chain entry result := by
  induction fuel generalizing block n with
  | zero => exact ensures_pure ⟨Nat.le_refl n, h⟩
  | succ _ ih =>
    rw [walk]
    split_ifs with hanchor
    · exact ensures_pure ⟨Nat.le_refl n, h⟩
    · refine ensures_bind (ensures_request.mono ?_)
      rintro extrinsics _ ⟨rfl, hextrinsics⟩
      cases hextrinsics
      have hmem : block ∈ chain.blocks := by
        obtain ⟨i, hi, -⟩ := h
        exact mem_of_getElem? hi
      split
      · rename_i extrinsic hfind
        refine ensures_bind (ensures_request.mono ?_)
        rintro events _ ⟨rfl, hevents⟩
        cases hevents
        refine ensures_bind (ensures_ofResult fun reconciliation hsettle => ensures_pure ?_)
        have hhash : extrinsic.hash = entry.intent.transactionHash := by
          simpa using find?_some hfind
        exact ⟨by omega, block, hmem, extrinsic, mem_of_find?_eq_some hfind, hhash, hsettle⟩
      · rename_i hfind
        refine ensures_bind (ensures_request.mono ?_)
        rintro parent _ ⟨rfl, hparent⟩
        have hgrown' : chain.blocks <+: (node.chain (n + 1)).blocks := hgrown.trans (node.grows n)
        have hnot : ¬ block.Contains entry.intent.transactionHash := by
          rintro ⟨extrinsic, hextrinsic, hhash⟩
          exact absurd hhash (by simpa using find?_eq_none.mp hfind extrinsic hextrinsic)
        refine (ih (h.previous hgrown' hnot hparent) (hgrown'.trans (node.grows _))).mono ?_
        rintro result t ⟨hle, hwalked⟩
        exact ⟨by omega, hwalked⟩

end Walk

section Result
variable {node : Node} {entry : JournalEntry}

theorem reconcileLiveSubmission_ensures :
    Ensures 0 (reconcileLiveSubmission node entry) fun reconciliation t =>
      1 < t ∧ (FoundIn (node.chain 1) entry reconciliation ∨
        reconciliation = .unresolved ∨
        reconciliation = .expired ∧
          expirySeconds entry ≤ (node.chain (t - 1)).head.timestamp ∧
          ∃ block, block.hash = entry.intent.anchorBlockHash ∧
            Searched (node.chain 1) entry.intent.transactionHash block) := by
  refine ensures_bind (ensures_request.mono ?_)
  rintro _ _ ⟨rfl, -⟩
  refine ensures_bind (ensures_request.mono ?_)
  rintro head _ ⟨rfl, hhead⟩
  cases hhead
  refine ensures_bind ((walk_ensures (searched_head (node.chain 1) _) (node.grows_le (by omega))
    maxReconciliationBlocks).mono ?_)
  rintro (reconciliation | block) t ⟨ht, hwalked⟩
  · exact ensures_pure ⟨by omega, .inl hwalked⟩
  · dsimp only
    split_ifs with hanchor
    · refine ensures_bind (ensures_request.mono ?_)
      rintro tip _ ⟨rfl, htip⟩
      cases htip
      refine ensures_pure ⟨by omega, .inr ?_⟩
      split_ifs with hexpired
      · exact .inr ⟨rfl, hexpired, block, hanchor, hwalked⟩
      · exact .inl rfl
    · exact ensures_pure ⟨by omega, .inr (.inl rfl)⟩

def Admissible (entry : JournalEntry) (chain : FinalizedChain) : Prop :=
  ∀ (i : ℕ) block, chain.blocks[i]? = some block →
    block.Contains entry.intent.transactionHash →
    block.timestamp < expirySeconds entry ∧
      ∃ j < i, ∃ anchor, chain.blocks[j]? = some anchor ∧
        anchor.hash = entry.intent.anchorBlockHash

theorem not_contains_of_searched {chain chain' chain'' : FinalizedChain} {block : FinalizedBlock}
    (hadmissible : Admissible entry chain'')
    (hsearched : Searched chain entry.intent.transactionHash block)
    (hanchor : block.hash = entry.intent.anchorBlockHash)
    (hgrown : chain.blocks <+: chain'.blocks) (hgrown' : chain'.blocks <+: chain''.blocks)
    (htip : expirySeconds entry ≤ chain'.head.timestamp)
    (hlate : ∀ i ≥ chain.blocks.length, ∀ appended, chain'.blocks[i]? = some appended →
      expirySeconds entry ≤ appended.timestamp) :
    ∀ other ∈ chain''.blocks, ¬ other.Contains entry.intent.transactionHash := by
  intro other hother hcontains
  obtain ⟨i, hi⟩ := mem_iff_getElem?.mp hother
  obtain ⟨hearly, j, hj, anchor, hanchor', hhash⟩ := hadmissible i other hi hcontains
  obtain ⟨k, hk, hlater⟩ := hsearched
  -- the anchor is the block the walk ended at
  obtain rfl : j = k :=
    chain''.index_eq hanchor' (getElem?_of_grown (hgrown.trans hgrown') hk)
      (hhash.trans hanchor.symm)
  by_cases hnew : i < chain'.blocks.length
  · have hi' : chain'.blocks[i]? = some other := getElem?_of_lt_grown hgrown' hnew hi
    by_cases hold : i < chain.blocks.length
    · exact hlater i hj other (getElem?_of_lt_grown hgrown hold hi') hcontains
    · exact absurd hearly (not_lt.mpr (hlate i (Nat.le_of_not_lt hold) other hi'))
  · -- a block after the tip has at least the time of the tip
    have hpos := length_pos_iff.mpr chain'.nonempty
    have hle := chain''.timestamp_le (getElem?_of_grown hgrown' chain'.getElem?_head) hi (by omega)
    exact absurd hearly (not_lt.mpr (htip.trans hle))

theorem settleExtrinsic_ok {block events reconciliation}
    (h : settleExtrinsic block events = .ok reconciliation) :
    reconciliation = .included block.hash block.number.toUInt64 ∧
        .extrinsicSuccess ∈ events ∧ .extrinsicFailed ∉ events ∨
      reconciliation = .rejected ∧ .extrinsicFailed ∈ events ∧ .extrinsicSuccess ∉ events := by
  rw [settleExtrinsic] at h
  split_ifs at h
  split at h
  · rename_i hsuccess hfailed
    cases h
    exact .inl ⟨rfl, of_decide_eq_true hsuccess, of_decide_eq_false hfailed⟩
  · rename_i hsuccess hfailed
    cases h
    exact .inr ⟨rfl, of_decide_eq_true hfailed, of_decide_eq_false hsuccess⟩
  · cases h

/-- **Live reconciliation is sound**, if no block that may still hold the transaction is
appended between the request for the head, with number 1, and the last one. -/
theorem reconcileLiveSubmission_sound {reconciliation : Reconciliation} {n : ℕ}
    (hadmissible : ∀ k, Admissible entry (node.chain k))
    (hrun : call 0 (reconcileLiveSubmission node entry) = (.ok reconciliation, n)) :
    (reconciliation = .expired → (∀ i ≥ (node.chain 1).blocks.length, ∀ appended,
        (node.chain (n - 1)).blocks[i]? = some appended →
          expirySeconds entry ≤ appended.timestamp) →
      ∀ block ∈ (node.chain n).blocks, ¬ block.Contains entry.intent.transactionHash) ∧
    (∀ blockHash blockHeight, reconciliation = .included blockHash blockHeight →
      ∃ block ∈ (node.chain n).blocks, block.hash = blockHash ∧
        block.number.toUInt64 = blockHeight ∧ ∃ extrinsic ∈ block.extrinsics,
          extrinsic.hash = entry.intent.transactionHash ∧
            .extrinsicSuccess ∈ extrinsic.events ∧ .extrinsicFailed ∉ extrinsic.events) ∧
    (reconciliation = .rejected → ∃ block ∈ (node.chain n).blocks, ∃ extrinsic ∈ block.extrinsics,
        extrinsic.hash = entry.intent.transactionHash ∧
          .extrinsicFailed ∈ extrinsic.events ∧ .extrinsicSuccess ∉ extrinsic.events) := by
  obtain ⟨hn, hcases⟩ := reconcileLiveSubmission_ensures reconciliation n hrun
  have hgrown := node.grows_le hn.le
  rcases hcases with ⟨block, hblock, extrinsic, hextrinsic, hhash, hsettle⟩ | rfl |
    ⟨rfl, htip, block, hanchor, hsearched⟩
  · rcases settleExtrinsic_ok hsettle with ⟨rfl, hevents⟩ | ⟨rfl, hevents⟩
    · refine ⟨by simp, ?_, by simp⟩
      intro blockHash blockHeight heq
      cases heq
      exact ⟨block, hgrown.subset hblock, rfl, rfl, extrinsic, hextrinsic, hhash, hevents⟩
    · refine ⟨by simp, by simp, fun _ => ?_⟩
      exact ⟨block, hgrown.subset hblock, extrinsic, hextrinsic, hhash, hevents⟩
  · simp
  · refine ⟨fun _ hlate => ?_, by simp, by simp⟩
    exact not_contains_of_searched (hadmissible n) hsearched hanchor
      (node.grows_le (by omega)) (node.grows_le (by omega)) htip hlate

/-! ## A chain that grows during the run -/

def growingEntry : JournalEntry where
  attempt := ⟨⟨⟨"growing", by decide, by decide, by decide, by decide⟩⟩, .zero, 10000, 0⟩
  intent := ⟨1, hashOfByte 7, hashOfByte 1, .live⟩
  blockHash := none
  blockHeight := none
  state := .broadcasting

def anchorBlock : FinalizedBlock := ⟨hashOfByte 1, .zero, 0, 1000, []⟩

def includingBlock : FinalizedBlock where
  hash := hashOfByte 2
  parentHash := hashOfByte 1
  number := 1
  timestampMillis := 9000
  extrinsics := [⟨hashOfByte 7, [.extrinsicSuccess]⟩]

def lateBlock : FinalizedBlock :=
  ⟨hashOfByte 3, hashOfByte 2, 2, 10000, []⟩

def anchorChain : FinalizedChain where
  blocks := [anchorBlock]
  nonempty := by decide
  linked := by decide
  distinct := by decide
  rooted := by decide

def grownChain : FinalizedChain where
  blocks := [anchorBlock, includingBlock, lateBlock]
  nonempty := by decide
  linked := by decide
  distinct := by decide
  rooted := by decide

def lateChain : FinalizedChain where
  blocks := [anchorBlock, { lateBlock with parentHash := hashOfByte 1, number := 1 }]
  nonempty := by decide
  linked := by decide
  distinct := by decide
  rooted := by decide

/-- A node whose chain grows after the head has been read. -/
def growingTo (chain : FinalizedChain) (hgrown : anchorChain.blocks <+: chain.blocks) : Node where
  chain n := if n < 2 then anchorChain else chain
  grows := by
    intro n
    split_ifs
    · exact List.prefix_rfl
    · exact hgrown
    · omega
    · exact List.prefix_rfl
  failure _ := none

def growingNode : Node := growingTo grownChain ⟨[includingBlock, lateBlock], rfl⟩

def lateNode : Node := growingTo lateChain ⟨_, rfl⟩

def idleNode (chain : FinalizedChain) : Node :=
  ⟨fun _ => chain, fun _ => List.prefix_rfl, fun _ => none⟩

theorem admissible_of_empty {chain : FinalizedChain}
    (hempty : ∀ block ∈ chain.blocks, block.extrinsics = []) : Admissible entry chain := by
  rintro i block hi ⟨extrinsic, hextrinsic, -⟩
  rw [hempty block (mem_of_getElem? hi)] at hextrinsic
  cases hextrinsic

theorem admissible_growingTo {chain hgrown} (h : Admissible entry chain) (k : ℕ) :
    Admissible entry ((growingTo chain hgrown).chain k) := by
  change Admissible entry (if k < 2 then anchorChain else chain)
  split_ifs
  · exact admissible_of_empty (by decide)
  · exact h

theorem admissible_grownChain : Admissible growingEntry grownChain := by
  intro i block hi hcontains
  match i, hi with
  | 0, hi =>
    cases hi
    obtain ⟨extrinsic, hextrinsic, -⟩ := hcontains
    cases hextrinsic
  | 1, hi =>
    cases hi
    exact ⟨by decide, 0, by decide, anchorBlock, rfl, rfl⟩
  | 2, hi =>
    cases hi
    obtain ⟨extrinsic, hextrinsic, -⟩ := hcontains
    cases hextrinsic
  | i + 3, hi => cases hi

/-- The inclusion is found on a chain that does not grow; and where only late blocks are appended
what expired is not there. -/
theorem reconcileLiveSubmission_late_blocks :
    (∃ block ∈ grownChain.blocks, block.hash = includingBlock.hash ∧
      block.number.toUInt64 = 1 ∧ ∃ extrinsic ∈ block.extrinsics,
        extrinsic.hash = growingEntry.intent.transactionHash ∧
          .extrinsicSuccess ∈ extrinsic.events ∧ .extrinsicFailed ∉ extrinsic.events) ∧
    ∀ block ∈ (lateNode.chain 3).blocks, ¬ block.Contains growingEntry.intent.transactionHash := by
  constructor
  · exact (@reconcileLiveSubmission_sound (idleNode grownChain) growingEntry _ _
      (fun _ => admissible_grownChain) rfl).2.1 _ _ rfl
  · refine (@reconcileLiveSubmission_sound lateNode growingEntry .expired 3
      (admissible_growingTo (admissible_of_empty (by decide))) (by decide +kernel)).1 rfl ?_
    rintro (_ | _ | i) hi appended happended
    · exact absurd hi (by decide)
    · cases happended
      decide
    · cases happended

/-- The head is read before the transaction is included and the tip when it has run out:
it is reported expired, and is on the chain. -/
theorem reconcileLiveSubmission_expired_live :
    (∀ k, Admissible growingEntry (growingNode.chain k)) ∧
      call 0 (reconcileLiveSubmission growingNode growingEntry) = (.ok .expired, 3) ∧
      includingBlock ∈ (growingNode.chain 3).blocks ∧
      includingBlock.Contains growingEntry.intent.transactionHash := by
  exact ⟨admissible_growingTo admissible_grownChain, by decide +kernel,
    mem_cons_of_mem _ mem_cons_self, _, mem_singleton_self _, rfl⟩

end Result

end Oxid.Midnight
