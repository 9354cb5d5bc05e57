import Mathlib.Algebra.BigOperators.Group.Multiset.Basic
import Mathlib.Data.Multiset.Count
import Mathlib.Tactic.Abel
import Oxid.Midnight.Indexer

/-!
# What a folded account holds

The unspent outputs and the spent ones together are the created ones, with multiplicity:
nothing stops an output that was spent from being created again.
-/

namespace Oxid.Midnight
open Foundation Result Text Wallet IndexerTransaction Multiset OrderedMap

variable {acc acc' : SnapshotAccumulator} {snapshot : IndexerSnapshot}

namespace SnapshotAccumulator

inductive Applied (acc : SnapshotAccumulator) : IndexerEvent → SnapshotAccumulator → Prop
  | progress (target) (hcursor : acc.currentCursor ≤ target) (hfirst : acc.targetCursor = none) :
      Applied acc (.progress target)
        { acc with eventCount := acc.eventCount + 1, targetCursor := some target }
  | repeated (cursor tx) (hfound : acc.transactions.find? tx.hash = some tx) :
      Applied acc (.transaction cursor tx) { acc with eventCount := acc.eventCount + 1 }
  | new (cursor tx remaining utxos) (hnew : acc.transactions.find? tx.hash = none)
      (htarget : ∀ target, acc.targetCursor = some target → cursor ≤ target)
      (hrecords : acc.utxoRecordCount + tx.records ≤ maxUtxoRecords)
      (hspent : tx.spent.foldlM spend acc.utxos = .ok remaining)
      (hcreated : tx.created.foldlM create remaining = .ok utxos) :
      Applied acc (.transaction cursor tx)
        { currentCursor := cursor
          targetCursor := acc.targetCursor
          eventCount := acc.eventCount + 1
          utxoRecordCount := acc.utxoRecordCount + tx.records
          utxos
          transactions := acc.transactions.insert tx.hash tx }

theorem applied_of_apply {event} (h : acc.apply event = .ok acc') :
    acc.eventCount + 1 ≤ maxEvents ∧ Applied acc event acc' := by
  simp only [apply, bind_ok_iff, rejectIf_ok_iff, decide_eq_false_iff_not, not_lt,
    exists_const] at h
  obtain ⟨hevents, h⟩ := h
  refine ⟨hevents, ?_⟩
  cases event with
  | progress target =>
    simp only [bind_ok_iff, rejectIf_ok_iff, decide_eq_false_iff_not, not_lt, exists_const,
      Option.isSome_eq_false_iff, Option.isNone_iff_eq_none] at h
    obtain ⟨hcursor, hfirst, heq⟩ := h
    cases heq
    exact .progress target hcursor hfirst
  | transaction cursor tx =>
    dsimp only at h
    split at h
    · rename_i existing hfound
      simp only [bind_ok_iff, rejectIf_ok_iff, Bool.or_eq_false_iff, decide_eq_false_iff_not,
        not_not, exists_const] at h
      obtain ⟨⟨rfl, -⟩, heq⟩ := h
      cases heq
      exact .repeated cursor existing hfound
    · rename_i hnew
      simp only [applyTransaction, bind_ok_iff, rejectIf_ok_iff, exists_const,
        decide_eq_false_iff_not, not_lt, Option.any_eq_false] at h
      obtain ⟨-, htarget, hrecords, remaining, hspent, utxos, hcreated, heq⟩ := h
      cases heq
      exact .new cursor tx remaining utxos hnew (by simpa using htarget) hrecords hspent hcreated

theorem foldlM_spend {spent : List IndexerUtxo} {utxos remaining : OrderedMap UtxoKey IndexerUtxo}
    (h : spent.foldlM spend utxos = .ok remaining) (hkeyed : utxos.IndexedBy utxoKey) :
    remaining.IndexedBy utxoKey ∧
      (utxos.values : Multiset IndexerUtxo) = spent + remaining.values := by
  induction spent generalizing utxos with
  | nil =>
    cases h
    exact ⟨hkeyed, by simp⟩
  | cons _ _ ih =>
    rw [List.foldlM_cons] at h
    obtain ⟨next, hspend, hrest⟩ := bind_ok_iff.mp h
    simp only [spend, bind_ok_iff, okOr_ok_iff, rejectIf_ok_iff, decide_eq_false_iff_not,
      not_not, exists_const] at hspend
    obtain ⟨existing, hfound, rfl, heq⟩ := hspend
    cases heq
    obtain ⟨hkeyed', hvalues⟩ := ih hrest (hkeyed.erase _)
    refine ⟨hkeyed', ?_⟩
    rw [coe_eq_coe.mpr (values_erase_perm hfound), ← cons_coe, ← cons_coe, hvalues, cons_add]

theorem foldlM_create {created : List IndexerUtxo}
    {remaining utxos : OrderedMap UtxoKey IndexerUtxo}
    (h : created.foldlM create remaining = .ok utxos) (hkeyed : remaining.IndexedBy utxoKey) :
    utxos.IndexedBy utxoKey ∧
      (utxos.values : Multiset IndexerUtxo) = created + remaining.values := by
  induction created generalizing remaining with
  | nil =>
    cases h
    exact ⟨hkeyed, by simp⟩
  | cons utxo _ ih =>
    rw [List.foldlM_cons] at h
    obtain ⟨next, hcreate, hrest⟩ := bind_ok_iff.mp h
    simp only [create, bind_ok_iff, rejectIf_ok_iff, exists_const, contains,
      Option.isSome_eq_false_iff, Option.isNone_iff_eq_none] at hcreate
    obtain ⟨hfree, heq⟩ := hcreate
    cases heq
    obtain ⟨hkeyed', hvalues⟩ := ih hrest (hkeyed.insert utxo)
    refine ⟨hkeyed', ?_⟩
    rw [hvalues, coe_eq_coe.mpr (values_insert_perm hfree utxo),
      ← cons_coe, ← cons_coe, add_cons, cons_add]

/-! ## The invariant -/

structure Reconciled (acc : SnapshotAccumulator) : Prop where
  keyed : acc.utxos.IndexedBy utxoKey
  hashed : acc.transactions.IndexedBy IndexerTransaction.hash
  normal : ∀ hash tx, acc.transactions.find? hash = some tx → NormalTransaction tx
  conserved : (acc.utxos.values : Multiset IndexerUtxo) +
    acc.transactions.values.flatMap IndexerTransaction.spent =
      acc.transactions.values.flatMap IndexerTransaction.created
  records : acc.utxoRecordCount = (acc.transactions.values.map IndexerTransaction.records).sum
  recordLimit : acc.utxoRecordCount ≤ maxUtxoRecords
  events : acc.transactions.size ≤ acc.eventCount
  eventLimit : acc.eventCount ≤ maxEvents
  target : ∀ target, acc.targetCursor = some target → acc.currentCursor ≤ target

theorem reconciled_default : Reconciled default where
  keyed := indexedBy_empty _
  hashed := indexedBy_empty _
  normal := by simp [default]
  conserved := by simp [default, values, empty]
  records := by simp [default, values, empty]
  recordLimit := Nat.zero_le _
  events := Nat.le_refl 0
  eventLimit := Nat.zero_le _
  target := by simp [default]

theorem Reconciled.apply {event : IndexerEvent} (h : Reconciled acc)
    (happly : acc.apply event = .ok acc')
    (hnormal : ∀ cursor tx, event = .transaction cursor tx → NormalTransaction tx) :
    Reconciled acc' := by
  obtain ⟨hlimit, happlied⟩ := applied_of_apply happly
  have hevents := Nat.le_succ_of_le h.events
  cases happlied with
  | progress _ hcursor =>
    refine ⟨h.keyed, h.hashed, h.normal, h.conserved, h.records, h.recordLimit, hevents, hlimit, ?_⟩
    intro t ht
    cases ht
    exact hcursor
  | repeated =>
    exact ⟨h.keyed, h.hashed, h.normal, h.conserved, h.records, h.recordLimit, hevents, hlimit,
      h.target⟩
  | new cursor tx _ _ hnew htarget hrecords hspent hcreated =>
    obtain ⟨hkeyed, hspent⟩ := foldlM_spend hspent h.keyed
    obtain ⟨hkeyed', hcreated⟩ := foldlM_create hcreated hkeyed
    have hperm := values_insert_perm hnew tx
    refine ⟨hkeyed', h.hashed.insert tx, ?_, ?_, ?_, hrecords, ?_, hlimit, htarget⟩
    · exact forall_find?_insert h.normal (hnormal cursor tx rfl)
    · -- Created outputs are new, spent ones were there: both sides grow by what is created.
      have hconserved := h.conserved
      rw [hspent] at hconserved
      rw [coe_eq_coe.mpr (hperm.flatMap_right _),
        coe_eq_coe.mpr (hperm.flatMap_right _), List.flatMap_cons, List.flatMap_cons,
        ← coe_add, ← coe_add, ← hconserved, hcreated]
      abel
    · rw [(hperm.map _).sum_eq, List.map_cons, List.sum_cons, ← h.records]
      exact Nat.add_comm _ _
    · rw [size_insert_of_find? hnew]
      exact Nat.succ_le_succ h.events

theorem reconciled_of_foldlM {events : List IndexerEvent}
    (hfold : events.foldlM SnapshotAccumulator.apply default = .ok acc)
    (hnormal : ∀ cursor tx, .transaction cursor tx ∈ events → NormalTransaction tx) :
    Reconciled acc := by
  refine foldlM_invariant hfold reconciled_default ?_
  intro p event q hmem hinv happly
  refine hinv.apply happly ?_
  intro cursor tx heq
  exact hnormal cursor tx (heq ▸ hmem)

/-! ## The finished snapshot -/

theorem finish_ok (h : acc.finish = .ok snapshot) :
    ∃ target, acc.targetCursor = some target ∧ target ≤ acc.currentCursor ∧
      snapshot = ⟨acc.currentCursor, target, none, acc.utxos.values, acc.transactions.values⟩ := by
  simp only [finish, bind_ok_iff, okOr_ok_iff, rejectIf_ok_iff, decide_eq_false_iff_not, not_lt,
    exists_const] at h
  obtain ⟨target, htarget, hcursor, heq⟩ := h
  cases heq
  exact ⟨target, htarget, hcursor, rfl⟩

theorem Reconciled.nodup_keys (h : Reconciled acc) : (acc.utxos.values.map utxoKey).Nodup := by
  rw [h.keyed.map_values]
  exact acc.utxos.nodup_keys

theorem sum_records (txs : List IndexerTransaction) : (txs.map records).sum =
      (txs.flatMap created).length + (txs.flatMap spent).length := by
  induction txs with
  | nil => rfl
  | cons _ _ ih =>
    simp only [List.map_cons, List.sum_cons, ih, List.flatMap_cons, List.length_append, records]
    omega

theorem Reconciled.coherent (h : Reconciled acc) (hfinish : acc.finish = .ok snapshot) :
    Coherent snapshot := by
  obtain ⟨target, htarget, hcursor, rfl⟩ := finish_ok hfinish
  have htransactions : ∀ tx ∈ acc.transactions.values, NormalTransaction tx := by
    intro tx htx
    obtain ⟨hash, hhash⟩ := mem_values_iff.mp htx
    exact h.normal hash tx hhash
  have hsub : ∀ utxo ∈ acc.utxos.values, utxo ∈ acc.transactions.values.flatMap created := by
    intro utxo hutxo
    rw [← mem_coe, ← h.conserved, mem_add, mem_coe]
    exact .inl hutxo
  have hcount := congrArg card h.conserved
  rw [card_add, coe_card, coe_card, coe_card] at hcount
  have hrecords := h.recordLimit
  rw [h.records] at hrecords
  refine ⟨le_antisymm (h.target target htarget) hcursor, ?_, h.nodup_keys, ?_,
    htransactions, ?_, ?_, hrecords⟩
  · intro utxo hutxo
    obtain ⟨tx, htx, hmem⟩ := List.mem_flatMap.mp (hsub utxo hutxo)
    exact (htransactions tx htx).created utxo hmem
  · rw [sum_records] at hrecords
    dsimp only
    omega
  · rw [h.hashed.map_values]
    exact acc.transactions.nodup_keys
  · have hsize : acc.transactions.values.length = acc.transactions.size := List.length_map _
    have hevents := h.events
    have hlimit := h.eventLimit
    dsimp only
    omega

end SnapshotAccumulator

open SnapshotAccumulator

def timesCreated (utxo : IndexerUtxo) (txs : List IndexerTransaction) : ℕ :=
  (txs.flatMap IndexerTransaction.created).count utxo

def timesSpent (utxo : IndexerUtxo) (txs : List IndexerTransaction) : ℕ :=
  (txs.flatMap IndexerTransaction.spent).count utxo

theorem SnapshotAccumulator.Reconciled.timesCreated_eq (h : Reconciled acc) (utxo : IndexerUtxo) :
    timesCreated utxo acc.transactions.values =
      timesSpent utxo acc.transactions.values + if utxo ∈ acc.utxos.values then 1 else 0 := by
  have hcount := congrArg (count utxo) h.conserved
  rw [count_add, coe_count, coe_count, coe_count] at hcount
  have hnodup : acc.utxos.values.Nodup := h.nodup_keys.of_map utxoKey
  rw [timesCreated, ← hcount, timesSpent, List.Nodup.count hnodup, Nat.add_comm]

/-! ## Sums by token -/

def tokenTotal (token : List Char) (utxos : List IndexerUtxo) : ℕ :=
  (utxos.map fun utxo => if utxo.tokenType = token then utxo.value.val else 0).sum

def tokenAmount (token : List Char) (byToken : OrderedMap (List Char) U128) : ℕ :=
  ((byToken.find? token).getD 0).val

theorem tokenTotal_cons (token : List Char) (utxo : IndexerUtxo) (utxos : List IndexerUtxo) :
    tokenTotal token (utxo :: utxos) =
      (if utxo.tokenType = token then utxo.value.val else 0) + tokenTotal token utxos := by
  rw [tokenTotal, List.map_cons, List.sum_cons]
  rfl

theorem tokenTotal_flatMap_add (h : acc.Reconciled) (token : List Char) :
    tokenTotal token acc.utxos.values + tokenTotal token (acc.transactions.values.flatMap spent) =
      tokenTotal token (acc.transactions.values.flatMap created) := by
  have hsum := congrArg (fun utxos => (utxos.map fun utxo : IndexerUtxo =>
      if utxo.tokenType = token then utxo.value.val else 0).sum) h.conserved
  simpa only [map_add, sum_add, map_coe, sum_coe, tokenTotal] using hsum

variable {utxos : List IndexerUtxo}

section
variable {byToken byToken' : OrderedMap (List Char) U128}

theorem addToToken_ok_iff {utxo} : addToToken byToken utxo = .ok byToken' ↔
      ∃ amount : U128, amount.val = tokenAmount utxo.tokenType byToken + utxo.value.val ∧
        byToken' = byToken.insert utxo.tokenType amount := by
  simp only [addToToken, bind_ok_iff, okOr_ok_iff, U128.checkedAdd_eq_some_iff, tokenAmount]
  refine exists_congr fun amount => and_congr Iff.rfl ?_
  exact ⟨fun heq => by cases heq; rfl, fun heq => by rw [heq]; rfl⟩

theorem tokenAmount_addToToken {utxo} (h : addToToken byToken utxo = .ok byToken')
    (token : List Char) : tokenAmount token byToken' =
      tokenAmount token byToken + if utxo.tokenType = token then utxo.value.val else 0 := by
  obtain ⟨amount, hamount, rfl⟩ := addToToken_ok_iff.mp h
  by_cases htoken : utxo.tokenType = token
  · rw [if_pos htoken, ← htoken, ← hamount, tokenAmount, find?_insert_self]
    rfl
  · rw [if_neg htoken, tokenAmount, find?_insert_of_ne _ _ (Ne.symm htoken)]
    rfl

theorem tokenAmount_foldlM (h : utxos.foldlM addToToken byToken = .ok byToken')
    (token : List Char) :
    tokenAmount token byToken' = tokenAmount token byToken + tokenTotal token utxos := by
  induction utxos generalizing byToken with
  | nil =>
    cases h
    rfl
  | cons _ _ ih =>
    rw [List.foldlM_cons] at h
    obtain ⟨next, hnext, hrest⟩ := bind_ok_iff.mp h
    rw [ih hrest, tokenAmount_addToToken hnext, tokenTotal_cons, Nat.add_assoc]

end

variable {byToken : OrderedMap (List Char) U128}

theorem tokenAmount_amountsByToken (h : amountsByToken utxos = .ok byToken) (token : List Char) :
    tokenAmount token byToken = tokenTotal token utxos := by
  rw [tokenAmount_foldlM h, tokenAmount, find?_empty]
  exact Nat.zero_add _

theorem exists_amountsByToken_ok_iff : (∃ byToken, amountsByToken utxos = .ok byToken) ↔
      ∀ token, tokenTotal token utxos < 2 ^ 128 := by
  constructor
  · intro h token
    obtain ⟨byToken, hbyToken⟩ := h
    rw [← tokenAmount_amountsByToken hbyToken token]
    exact Fin.isLt _
  · intro h
    refine exists_foldlM_ok (P := fun byToken rest =>
      ∀ token, tokenAmount token byToken + tokenTotal token rest < 2 ^ 128) ?_ ?_
    · intro token
      rw [tokenAmount, find?_empty]
      exact lt_of_eq_of_lt (Nat.zero_add _) (h token)
    · intro byToken utxo rest hfits
      have hfit := hfits utxo.tokenType
      rw [tokenTotal_cons, if_pos rfl] at hfit
      have hnext := addToToken_ok_iff.mpr
        ⟨⟨tokenAmount utxo.tokenType byToken + utxo.value.val, by omega⟩, rfl, rfl⟩
      refine ⟨_, hnext, ?_⟩
      intro token
      rw [tokenAmount_addToToken hnext, Nat.add_assoc, ← tokenTotal_cons]
      exact hfits token

theorem exists_utxo_of_mem_keys (h : amountsByToken utxos = .ok byToken) :
    ∀ token ∈ byToken.keys, ∃ utxo ∈ utxos, utxo.tokenType = token := by
  refine foldlM_invariant (P := fun byToken : OrderedMap (List Char) U128 =>
    ∀ token ∈ byToken.keys, ∃ utxo ∈ utxos, utxo.tokenType = token) h ?_ ?_
  · simp [OrderedMap.keys, OrderedMap.empty]
  · intro p utxo q hmem hinv hadd token htoken
    obtain ⟨amount, -, rfl⟩ := addToToken_ok_iff.mp hadd
    rcases mem_keys_insert.mp htoken with rfl | hold
    · exact ⟨utxo, hmem, rfl⟩
    · exact hinv token hold

/-! ## Assets of tokens -/

theorem isWhitespace_of_isLowerHex {c} (h : isLowerHex c) : isWhitespace c = false := by
  simpa using of_isLowerHex (p := fun d => !isWhitespace d) h (by decide +kernel)

theorem isControl_of_isLowerHex {c} (h : isLowerHex c) : isControl c = false := by
  simpa using of_isLowerHex (p := fun d => !isControl d) h (by decide +kernel)

theorem exists_opaqueId (start : String) {value} (h : NormalHex value)
    (hlength : start.toList.length ≤ 64) (hspace : start.toList.any isWhitespace = false)
    (hcontrol : start.toList.any isControl = false) :
    ∃ i : OpaqueId, i.asStr = start ++ String.ofList value := by
  have htext : (start ++ String.ofList value).toList = start.toList ++ value := by simp
  refine ⟨⟨start ++ String.ofList value, ?_, ?_, ?_, ?_⟩, rfl⟩
  · rw [htext]
    intro heq
    have hlen := h.length
    rw [(List.append_eq_nil_iff.mp heq).2] at hlen
    cases hlen
  · rw [htext, List.length_append, h.length]
    omega
  · rw [htext, List.any_append, hspace, Bool.false_or, List.any_eq_false]
    intro c hc
    rw [isWhitespace_of_isLowerHex (h.digits c hc)]
    decide
  · rw [htext, List.any_append, hcontrol, Bool.false_or, List.any_eq_false]
    intro c hc
    rw [isControl_of_isLowerHex (h.digits c hc)]
    decide

variable {token : List Char} {asset : ChainAsset}

theorem asStr_of_assetForToken (h : assetForToken token = .ok asset) :
    asset.id.id.asStr = if token = nativeNightTokenType then "midnight:night"
      else "midnight:unshielded:" ++ String.ofList token := by
  rw [assetForToken] at h
  split_ifs at h ⊢ with hnight
  · simp only [midnightAsset, bind_ok_iff, mapError_ok_iff, ChainAssetId.parse_ok_iff] at h
    obtain ⟨decimals, -, id, hid, symbol, -, heq⟩ := h
    cases heq
    exact hid
  · simp only [bind_ok_iff, mapError_ok_iff, ChainAssetId.parse_ok_iff] at h
    obtain ⟨-, -, id, hid, symbol, -, decimals, -, heq⟩ := h
    cases heq
    exact hid

theorem assetForToken_injective {token'} (h : assetForToken token = .ok asset)
    (h' : assetForToken token' = .ok asset) : token = token' := by
  have hname : ∀ t : List Char, "midnight:night" ≠ "midnight:unshielded:" ++ String.ofList t := by
    intro t heq
    have htext := congrArg (fun s : String => s.toList[9]?) heq
    simp at htext
  have heq := (asStr_of_assetForToken h).symm.trans (asStr_of_assetForToken h')
  split_ifs at heq with hnight hnight' hnight'
  · rw [hnight, hnight']
  · exact absurd heq (hname token')
  · exact absurd heq.symm (hname token)
  · have htext := congrArg String.toList heq
    simpa using htext

theorem exists_midnightAsset :
    (∃ asset, midnightAsset "midnight:night" "NIGHT" starsPerNight = .ok asset) ∧
      ∃ asset, midnightAsset "midnight:dust" "DUST" specksPerDust = .ok asset :=
  ⟨exists_ok_of_isOk (by decide +kernel), exists_ok_of_isOk (by decide +kernel)⟩

theorem exists_assetForToken (h : NormalHex token) : ∃ asset, assetForToken token = .ok asset := by
  rw [assetForToken]
  split_ifs
  · exact exists_midnightAsset.1
  have hlong : ¬ token.length < 8 := by rw [h.length]; decide
  obtain ⟨id, hid⟩ := exists_opaqueId "midnight:unshielded:" h (by decide) (by decide)
    (by decide)
  have hparse : ChainAssetId.parse ("midnight:unshielded:" ++ String.ofList token) = .ok ⟨id⟩ :=
    ChainAssetId.parse_ok_iff.mpr hid
  have htext : ("TKN-" ++ String.ofList (token.take 8)).toList = "TKN-".toList ++ token.take 8 := by
    simp
  have hsymbol : parsePublicText ("TKN-" ++ String.ofList (token.take 8)) 24 =
      .ok ("TKN-" ++ String.ofList (token.take 8)) := by
    refine parsePublicText_ok ?_ ?_ ?_ ?_ <;> rw [htext]
    · simp
    · rw [List.length_append, List.length_take, h.length]
      decide
    · rw [List.forall_mem_append]
      refine ⟨by simp [isWhitespace], ?_⟩
      intro c hc
      exact isWhitespace_of_isLowerHex (h.digits c (List.mem_of_mem_take hc))
    · rw [List.forall_mem_append]
      refine ⟨by simp [isControl], ?_⟩
      intro c hc
      exact isControl_of_isLowerHex (h.digits c (List.mem_of_mem_take hc))
  have hone : decimalPlaces 1 = some 0 := by decide
  simp [hlong, hparse, AssetSymbol.parse, hsymbol, hone, okOr, Except.mapError, Except.map, ok_bind]

/-! ## What is shown -/

def amountOf (balances : List AssetBalance) (asset : ChainAsset) : ℕ :=
  (balances.map fun b => if b.asset = asset then b.atomicUnits.val else 0).sum

theorem amountOf_mapM_tokenBalance {entries : List (List Char × U128)}
    {balances : List AssetBalance} (h : entries.mapM tokenBalance = .ok balances)
    (hasset : assetForToken token = .ok asset) : amountOf balances asset =
      (entries.map fun e => if e.1 = token then e.2.val else 0).sum := by
  rw [list_mapM_ok_iff_forall₂] at h
  induction h with
  | nil => rfl
  | @cons entry _ _ _ hbalance _ ih =>
    simp only [tokenBalance, bind_ok_iff] at hbalance
    obtain ⟨asset', hasset', heq⟩ := hbalance
    cases heq
    have hiff : asset' = asset ↔ entry.1 = token := by
      constructor
      · intro h
        exact assetForToken_injective (h ▸ hasset') hasset
      · intro h
        rw [h, hasset, Except.ok.injEq] at hasset'
        exact hasset'.symm
    rw [amountOf, List.map_cons, List.sum_cons, List.map_cons, List.sum_cons, ← ih]
    simp only [hiff]
    rfl

theorem sum_entries_of_key (byToken : OrderedMap (List Char) U128) (token : List Char) :
    (byToken.entries.map fun e => if e.1 = token then e.2.val else 0).sum =
      tokenAmount token byToken := by
  have key : ∀ l : List (List Char × U128), l.Pairwise (fun a b => a.1 < b.1) →
      (l.map fun e => if e.1 = token then e.2.val else 0).sum =
        ((findEntry token l).getD 0).val := by
    intro l hl
    induction l with
    | nil => rfl
    | cons e l ih =>
      obtain ⟨he, hl⟩ := List.pairwise_cons.mp hl
      rw [List.map_cons, List.sum_cons, ih hl, findEntry]
      by_cases hkey : token = e.1
      · have hnone : findEntry token l = none :=
          findEntry_eq_none fun a ha => hkey ▸ he a ha
        rw [if_pos hkey.symm, if_pos hkey, hnone]
        rfl
      · rw [if_neg (Ne.symm hkey), if_neg hkey, Nat.zero_add]
  exact key byToken.entries byToken.sorted

theorem amountOf_mapIndexerSnapshot {balances : List AssetBalance}
    {history : List WalletTransaction} (h : mapIndexerSnapshot snapshot = .ok (balances, history))
    (hasset : assetForToken token = .ok asset) :
    amountOf balances asset = tokenTotal token snapshot.utxos := by
  simp only [mapIndexerSnapshot, bind_ok_iff] at h
  obtain ⟨byToken, hbyToken, balances', hbalances, history', -, heq⟩ := h
  cases heq
  rw [amountOf_mapM_tokenBalance hbalances hasset, sum_entries_of_key,
    tokenAmount_amountsByToken hbyToken]

theorem exists_mapM_tokenBalance (h : amountsByToken utxos = .ok byToken)
    (hnormal : ∀ utxo ∈ utxos, NormalUtxo utxo) :
    ∀ entry ∈ byToken.entries, ∃ balance, tokenBalance entry = .ok balance := by
  intro entry hentry
  have hkey : entry.1 ∈ byToken.keys := List.mem_map_of_mem hentry
  obtain ⟨utxo, hutxo, htoken⟩ := exists_utxo_of_mem_keys h entry.1 hkey
  obtain ⟨asset, hasset⟩ := exists_assetForToken (htoken ▸ (hnormal utxo hutxo).tokenType)
  exact ⟨⟨asset, entry.2⟩, by rw [tokenBalance, hasset]; rfl⟩

theorem exists_aggregateChanges_ok_iff (direction : BalanceChangeDirection) {utxos}
    (hnormal : ∀ utxo ∈ utxos, NormalUtxo utxo) :
    (∃ changes, aggregateChanges utxos direction = .ok changes) ↔
      ∀ token, tokenTotal token utxos < 2 ^ 128 := by
  rw [← exists_amountsByToken_ok_iff]
  constructor
  · intro h
    obtain ⟨changes, hchanges⟩ := h
    obtain ⟨byToken, hbyToken, -⟩ := bind_ok_iff.mp hchanges
    exact ⟨byToken, hbyToken⟩
  · intro h
    obtain ⟨byToken, hbyToken⟩ := h
    rw [aggregateChanges, hbyToken, ok_bind, exists_mapM_ok_iff]
    intro entry hentry
    obtain ⟨balance, hbalance⟩ := exists_mapM_tokenBalance hbyToken hnormal entry hentry
    exact ⟨⟨direction, balance⟩, by rw [hbalance]; rfl⟩

theorem exists_transactionDirection {created spent}
    (hcreated : ∀ token, tokenTotal token created < 2 ^ 128)
    (hspent : ∀ token, tokenTotal token spent < 2 ^ 128) :
    ∃ direction, transactionDirection created spent = .ok direction := by
  obtain ⟨credits, hcredits⟩ := exists_amountsByToken_ok_iff.mpr hcreated
  obtain ⟨debits, hdebits⟩ := exists_amountsByToken_ok_iff.mpr hspent
  rw [transactionDirection]
  split
  · exact ⟨_, rfl⟩
  · exact ⟨_, rfl⟩
  · exact ⟨_, rfl⟩
  · rw [hcredits, ok_bind, hdebits, ok_bind]
    dsimp only
    split <;> exact ⟨_, rfl⟩

theorem exists_mapTransaction_ok_iff {tx} (hnormal : NormalTransaction tx) :
    (∃ shown, mapTransaction tx = .ok shown) ↔
      ∀ token, tokenTotal token tx.created < 2 ^ 128 ∧ tokenTotal token tx.spent < 2 ^ 128 := by
  rw [forall_and]
  constructor
  · intro h
    obtain ⟨shown, hshown⟩ := h
    simp only [mapTransaction, bind_ok_iff] at hshown
    obtain ⟨direction, -, credits, hcredits, debits, hdebits, -⟩ := hshown
    exact ⟨(exists_aggregateChanges_ok_iff .credit hnormal.created).mp ⟨credits, hcredits⟩,
      (exists_aggregateChanges_ok_iff .debit hnormal.spent).mp ⟨debits, hdebits⟩⟩
  · intro h
    obtain ⟨direction, hdirection⟩ := exists_transactionDirection h.1 h.2
    obtain ⟨credits, hcredits⟩ :=
      (exists_aggregateChanges_ok_iff .credit hnormal.created).mpr h.1
    obtain ⟨debits, hdebits⟩ :=
      (exists_aggregateChanges_ok_iff .debit hnormal.spent).mpr h.2
    obtain ⟨dust, hdust⟩ := exists_midnightAsset.2
    obtain ⟨id, hid⟩ := exists_opaqueId "" hnormal.hash (by decide) (by decide) (by decide)
    have hparse : ChainTransactionId.parse (String.ofList tx.hash) = .ok ⟨id⟩ :=
      ChainTransactionId.parse_ok_iff.mpr (by rw [hid, String.empty_append])
    rw [mapTransaction, hdirection, ok_bind, hcredits, ok_bind, hdebits, ok_bind, hdust, hparse]
    cases tx.feeSpecks with
    | none => exact ⟨_, rfl⟩
    | some => exact ⟨_, rfl⟩

def SumsFit (snapshot : IndexerSnapshot) : Prop :=
  ∀ token, tokenTotal token snapshot.utxos < 2 ^ 128 ∧
    ∀ tx ∈ snapshot.transactions,
      tokenTotal token tx.created < 2 ^ 128 ∧ tokenTotal token tx.spent < 2 ^ 128

theorem Coherent.exists_mapIndexerSnapshot_ok_iff (h : Coherent snapshot) :
    (∃ shown, mapIndexerSnapshot snapshot = .ok shown) ↔ SumsFit snapshot := by
  have htransactions : (∃ history, snapshot.transactions.mapM mapTransaction = .ok history) ↔
      ∀ tx ∈ snapshot.transactions, ∀ token,
        tokenTotal token tx.created < 2 ^ 128 ∧ tokenTotal token tx.spent < 2 ^ 128 := by
    rw [exists_mapM_ok_iff]
    exact forall₂_congr fun tx htx => exists_mapTransaction_ok_iff (h.transactions tx htx)
  constructor
  · intro hshown
    obtain ⟨shown, hshown⟩ := hshown
    simp only [mapIndexerSnapshot, bind_ok_iff] at hshown
    obtain ⟨byToken, hbyToken, -, -, history, hhistory, -⟩ := hshown
    intro token
    exact ⟨exists_amountsByToken_ok_iff.mp ⟨byToken, hbyToken⟩ token,
      fun tx htx => htransactions.mp ⟨history, hhistory⟩ tx htx token⟩
  · intro hfits
    obtain ⟨byToken, hbyToken⟩ :=
      exists_amountsByToken_ok_iff.mpr fun token => (hfits token).1
    obtain ⟨balances, hbalances⟩ :=
      exists_mapM_ok_iff.mpr (exists_mapM_tokenBalance hbyToken h.utxos)
    obtain ⟨history, hhistory⟩ :=
      htransactions.mpr fun tx htx token => (hfits token).2 tx htx
    rw [mapIndexerSnapshot, hbyToken, ok_bind, hbalances, ok_bind, hhistory]
    exact ⟨_, rfl⟩

/-! ## An output that is created again -/

def rawOutput : GraphqlUtxo where
  owner := ['m', 'n']
  tokenType := List.replicate 64 '0'
  value := ['5']
  intentHash := List.replicate 64 'a'
  outputIndex := 0
  ctime := .null
  registeredForDustGeneration := false

def rawTransaction (id : Int64) (digit : Char) (created spent : List GraphqlUtxo) :
    Option GraphqlEvent :=
  some {
    typename := "UnshieldedTransaction"
    transaction := some {
      id
      hash := List.replicate 64 digit
      blockHeight := 7
      blockTimestamp := 9
      typename := "SystemTransaction"
      status := none
      paidFees := none }
    createdUtxos := some created
    spentUtxos := some spent
    highestTransactionId := none }

def rawProgress (highest : Int64) : Option GraphqlEvent :=
  some ⟨"UnshieldedTransactionsProgress", none, none, none, some highest⟩

def decodedOutput : IndexerUtxo where
  tokenType := List.replicate 64 '0'
  value := 5
  intentHash := List.replicate 64 'a'
  outputIndex := 0
  createdAtSeconds := none
  registeredForDustGeneration := false

def decodedTransaction (digit : Char) (created spent : List IndexerUtxo) : IndexerTransaction where
  hash := List.replicate 64 digit
  blockHeight := 7
  timestampMillis := 9
  status := .success
  feeSpecks := none
  created := created
  spent := spent

def recreation : List IndexerEvent :=
  [.transaction 1 (decodedTransaction 'b' [decodedOutput] []),
    .transaction 2 (decodedTransaction 'c' [decodedOutput] [decodedOutput]), .progress 2]

def recreationSnapshot : IndexerSnapshot where
  currentCursor := 2
  targetCursor := 2
  chainTipHeight := none
  utxos := [decodedOutput]
  transactions := [decodedTransaction 'b' [decodedOutput] [],
    decodedTransaction 'c' [decodedOutput] [decodedOutput]]

theorem decoded_recreation :
    ∀ event ∈ recreation, ∃ raw address, decodeEvent raw address = .ok event := by
  intro event hmem
  simp only [recreation, List.mem_cons, List.not_mem_nil, or_false] at hmem
  rcases hmem with rfl | rfl | rfl
  · exact ⟨rawTransaction 1 'b' [rawOutput] [], ['m', 'n'], by decide +kernel⟩
  · exact ⟨rawTransaction 2 'c' [rawOutput] [rawOutput], ['m', 'n'], by decide +kernel⟩
  · exact ⟨rawProgress 2, ['m', 'n'], by decide +kernel⟩

theorem finish_recreation : recreation.foldlM apply .default >>= finish =
      .ok recreationSnapshot := by
  decide +kernel

/-- The fold of any decoded events: an output is unspent when it was created once more often than it
was spent, and every other one was spent as often as created; the balances are shown unless a sum
overflows, and each is what was created less what was spent; and the snapshot is a checkpoint. -/
theorem snapshot_equals_history {events : List IndexerEvent} {acc : SnapshotAccumulator}
    {snapshot : IndexerSnapshot}
    (hdecoded : ∀ event ∈ events, ∃ raw address, decodeEvent raw address = .ok event)
    (hfold : events.foldlM apply .default = .ok acc)
    (hfinish : acc.finish = .ok snapshot) : snapshot.currentCursor = snapshot.targetCursor ∧
      (∀ utxo, (utxo ∈ snapshot.utxos ∧ timesCreated utxo snapshot.transactions =
          timesSpent utxo snapshot.transactions + 1) ∨
        (utxo ∉ snapshot.utxos ∧ timesCreated utxo snapshot.transactions =
          timesSpent utxo snapshot.transactions)) ∧
      ((∀ utxo, timesCreated utxo snapshot.transactions ≤ 1) → ∀ utxo,
        utxo ∈ snapshot.utxos ↔ (∃ tx ∈ snapshot.transactions, utxo ∈ tx.created) ∧
          ∀ tx ∈ snapshot.transactions, utxo ∉ tx.spent) ∧
      ((∃ shown, mapIndexerSnapshot snapshot = .ok shown) ↔ SumsFit snapshot) ∧
      (∀ balances history, mapIndexerSnapshot snapshot = .ok (balances, history) →
        ∀ token asset, assetForToken token = .ok asset → amountOf balances asset +
              tokenTotal token (snapshot.transactions.flatMap IndexerTransaction.spent) =
            tokenTotal token (snapshot.transactions.flatMap IndexerTransaction.created)) ∧
      snapshot.validateCheckpoint = .ok () := by
  have hreconciled : acc.Reconciled := by
    refine reconciled_of_foldlM hfold ?_
    intro cursor tx hmem
    obtain ⟨raw, address, hraw⟩ := hdecoded _ hmem
    exact normalTransaction_of_decodeEvent hraw
  have hcoherent := hreconciled.coherent hfinish
  obtain ⟨target, -, -, rfl⟩ := finish_ok hfinish
  have htimes := hreconciled.timesCreated_eq
  refine ⟨hcoherent.cursor, ?_, ?_, hcoherent.exists_mapIndexerSnapshot_ok_iff, ?_,
    hcoherent.validateCheckpoint_eq rfl⟩
  · intro utxo
    have hutxo := htimes utxo
    split_ifs at hutxo with hmem
    · exact .inl ⟨hmem, hutxo⟩
    · exact .inr ⟨hmem, hutxo⟩
  · intro honce utxo
    have hutxo := htimes utxo
    have hle := honce utxo
    have hcreated : (∃ tx ∈ acc.transactions.values, utxo ∈ tx.created) ↔
        0 < timesCreated utxo acc.transactions.values := by
      rw [timesCreated, List.count_pos_iff, List.mem_flatMap]
    have hspent : (∀ tx ∈ acc.transactions.values, utxo ∉ tx.spent) ↔
        timesSpent utxo acc.transactions.values = 0 := by
      rw [timesSpent, List.count_eq_zero, List.mem_flatMap]
      push Not
      rfl
    dsimp only at hle ⊢
    rw [hcreated, hspent]
    split_ifs at hutxo with hmem
    · simp only [hmem, true_iff]
      omega
    · simp only [hmem, false_iff]
      omega
  · intro balances history hshown token asset hasset
    rw [amountOf_mapIndexerSnapshot hshown hasset]
    exact tokenTotal_flatMap_add hreconciled token

theorem recreation_equals_history : ∃ acc, recreation.foldlM apply .default = .ok acc ∧
      acc.finish = .ok recreationSnapshot ∧ recreationSnapshot.validateCheckpoint = .ok () ∧
      ∀ balances history, mapIndexerSnapshot recreationSnapshot = .ok (balances, history) →
        ∀ asset, assetForToken nativeNightTokenType = .ok asset →
          amountOf balances asset + 5 = 10 := by
  obtain ⟨acc, hfold, hfinish⟩ := bind_ok_iff.mp finish_recreation
  obtain ⟨-, -, -, -, hbalances, hvalid⟩ :=
    snapshot_equals_history decoded_recreation hfold hfinish
  exact ⟨acc, hfold, hfinish, hvalid,
    fun balances history hshown => hbalances balances history hshown nativeNightTokenType⟩

theorem recreated_output_is_unspent_though_spent :
    (∀ event ∈ recreation, ∃ raw address, decodeEvent raw address = .ok event) ∧
      recreation.foldlM apply .default >>= finish =
        .ok recreationSnapshot ∧ ¬ ∀ utxo, utxo ∈ recreationSnapshot.utxos ↔
        (∃ tx ∈ recreationSnapshot.transactions, utxo ∈ tx.created) ∧
          ∀ tx ∈ recreationSnapshot.transactions, utxo ∉ tx.spent := by
  refine ⟨decoded_recreation, finish_recreation, ?_⟩
  intro h
  obtain ⟨-, hspent⟩ := (h decodedOutput).mp List.mem_cons_self
  exact hspent (decodedTransaction 'c' [decodedOutput] [decodedOutput]) (by decide +kernel)
    List.mem_cons_self

namespace SnapshotAccumulator

def transactionEvent (e : UInt64 × IndexerTransaction) : IndexerEvent := .transaction e.1 e.2

theorem foldlM_transactions {txs : List (UInt64 × IndexerTransaction)}
    (hfold : (txs.map transactionEvent).foldlM apply acc = .ok acc')
    (hhashes : (txs.map fun e => e.2.hash).Nodup)
    (hnew : ∀ e ∈ txs, acc.transactions.find? e.2.hash = none) :
    acc'.targetCursor = acc.targetCursor ∧ acc'.eventCount = acc.eventCount + txs.length ∧
      acc'.transactions.size = acc.transactions.size + txs.length := by
  induction txs generalizing acc with
  | nil =>
    cases hfold
    exact ⟨rfl, rfl, rfl⟩
  | cons e _ ih =>
    rw [List.map_cons, List.foldlM_cons] at hfold
    obtain ⟨next, hnext, hrest⟩ := bind_ok_iff.mp hfold
    rw [List.map_cons, List.nodup_cons] at hhashes
    have hfree := hnew e List.mem_cons_self
    cases (applied_of_apply hnext).2 with
    | repeated _ _ hfound => simp [hfree] at hfound
    | new _ _ _ _ hnone =>
      obtain ⟨htarget', hevents, hsize⟩ := ih hrest hhashes.2 (by
        intro e' he'
        rw [find?_insert_of_ne]
        · exact hnew e' (List.mem_cons_of_mem _ he')
        · intro heq
          exact hhashes.1 (List.mem_map.mpr ⟨e', he', heq⟩))
      rw [size_insert_of_find? hnone] at hsize
      rw [List.length_cons]
      exact ⟨htarget', by rw [hevents]; dsimp only; omega, by omega⟩

theorem Reconciled.fromCheckpoint_eq (h : Reconciled acc) (hfinish : acc.finish = .ok snapshot) :
    fromCheckpoint snapshot =
      .ok { acc with targetCursor := none, eventCount := acc.transactions.size } := by
  have hvalid := h.coherent hfinish
  obtain ⟨target, -, -, rfl⟩ := finish_ok hfinish
  have hsize : acc.transactions.values.length = acc.transactions.size := List.length_map _
  rw [fromCheckpoint, hvalid.validateCheckpoint_eq rfl, ok_bind]
  dsimp only
  rw [h.keyed.ofEntries_values, h.hashed.ofEntries_values, ← h.records, hsize]
  rfl

/-- A complete sync, restored and continued with any events, gives the accumulator or the error that
a fold of all the events does. -/
theorem resumed_fold_equals_full_fold {txs : List (UInt64 × IndexerTransaction)}
    {target : UInt64} {acc : SnapshotAccumulator} {snapshot : IndexerSnapshot}
    (hdecoded : ∀ e ∈ txs, ∃ raw address, decodeEvent raw address = .ok (transactionEvent e))
    (hhashes : (txs.map fun e => e.2.hash).Nodup)
    (hfold : (txs.map transactionEvent ++ [IndexerEvent.progress target]).foldlM
      apply default = .ok acc) (hfinish : acc.finish = .ok snapshot) (rest : List IndexerEvent) :
    fromCheckpoint snapshot >>= rest.foldlM apply =
      (txs.map transactionEvent ++ rest).foldlM apply default := by
  have hreconciled : Reconciled acc := by
    refine reconciled_of_foldlM hfold ?_
    intro cursor tx hmem
    rcases List.mem_append.mp hmem with htx | hprogress
    · obtain ⟨e, he, heq⟩ := List.mem_map.mp htx
      obtain ⟨raw, address, hraw⟩ := hdecoded e he
      rw [heq] at hraw
      exact normalTransaction_of_decodeEvent hraw
    · simp at hprogress
  rw [List.foldlM_append] at hfold
  obtain ⟨before, hbefore, hprogress⟩ := bind_ok_iff.mp hfold
  rw [List.foldlM_cons] at hprogress
  obtain ⟨acc', happly, hnil⟩ := bind_ok_iff.mp hprogress
  cases hnil
  obtain ⟨hnone, hevents, hsize⟩ := foldlM_transactions hbefore hhashes fun _ _ => rfl
  cases (applied_of_apply happly).2 with
  | progress _ _ hfirst =>
    have hcount : before.transactions.size = before.eventCount := hsize.trans hevents.symm
    rw [hreconciled.fromCheckpoint_eq hfinish, ok_bind, List.foldlM_append, hbefore, ok_bind]
    dsimp only
    rw [hcount, ← hfirst]

theorem resumed_recreation_equals_full_fold : ∃ acc snapshot,
      ([(1, decodedTransaction 'b' [decodedOutput] [])].map transactionEvent ++
        [IndexerEvent.progress 1]).foldlM apply default = .ok acc ∧ acc.finish = .ok snapshot ∧
      fromCheckpoint snapshot >>= (recreation.drop 1).foldlM apply =
        recreation.foldlM apply default := by
  obtain ⟨snapshot, hsnapshot⟩ := exists_ok_of_isOk
    (x := ([(1, decodedTransaction 'b' [decodedOutput] [])].map transactionEvent ++
      [IndexerEvent.progress 1]).foldlM apply default >>= finish)
    (by decide +kernel)
  obtain ⟨acc, hfold, hfinish⟩ := bind_ok_iff.mp hsnapshot
  refine ⟨acc, snapshot, hfold, hfinish,
    resumed_fold_equals_full_fold ?_ (by decide) hfold hfinish (recreation.drop 1)⟩
  intro e he
  exact decoded_recreation (transactionEvent e) (by rw [List.mem_singleton.mp he]; decide +kernel)

end SnapshotAccumulator

end Oxid.Midnight
