import Mathlib.Order.OrderDual
import Oxid.Greedy
import Oxid.Sorting
import Oxid.Midnight.Submission

/-!
# Choosing the inputs of a transfer

`select_utxos` takes the largest UTXOs first until the amount is reached.  At most 256 inputs
fit a transfer; the bound is checked after each one was taken.
-/

namespace Oxid.Midnight
open Foundation PassportVault List Nat Greedy Result

structure SpendableUtxo where
  value : U128
  intentHash : Bytes32
  outputIndex : UInt32
  createdAtSeconds : Option UInt64
  registeredForDustGeneration : Bool
  deriving DecidableEq

def maxWalletTransferInputs : ℕ := 256

def SpendableUtxo.identity (utxo : SpendableUtxo) : Bytes32 × UInt32 :=
  (utxo.intentHash, utxo.outputIndex)

def SpendableUtxo.identityKey (utxo : SpendableUtxo) : List ℕ ×ₗ ℕ :=
  toLex (utxo.intentHash.bytes.map UInt8.toNat, utxo.outputIndex.toNat)

def selectionKey (utxo : SpendableUtxo) : ℕᵒᵈ ×ₗ List ℕ ×ₗ ℕ :=
  toLex (OrderDual.toDual utxo.value.val, utxo.identityKey)

def selectLoop (amount : U128) : List SpendableUtxo → List SpendableUtxo → U128 →
      Except TransactionPortError (List SpendableUtxo × U128)
  | [], _, _ => .error .insufficientFunds
  | utxo :: utxos, selected, total => do
    let total ← Result.okOr (U128.checkedAdd total utxo.value) .invalidData
    let selected := selected ++ [utxo]
    Result.rejectIf (maxWalletTransferInputs < selected.length) .invalidData
    if amount ≤ total then .ok (selected, total) else selectLoop amount utxos selected total

def selectUtxos (utxos : List SpendableUtxo) (amount : U128) :
    Except TransactionPortError (List SpendableUtxo × U128) :=
  selectLoop amount (Sorting.sortBy selectionKey utxos) [] 0

def totalValue (utxos : List SpendableUtxo) : ℕ := Greedy.total (fun utxo => utxo.value.val) utxos

theorem identity_eq_of_identityKey_eq {a b : SpendableUtxo} (h : a.identityKey = b.identityKey) :
    a.identity = b.identity := by
  have hpair := toLex.injective h
  rw [Prod.mk.injEq] at hpair
  have hbytes : a.intentHash.bytes = b.intentHash.bytes :=
    map_injective_iff.mpr (fun _ _ => UInt8.toNat_inj.mp) hpair.1
  exact Prod.ext (Bytes32.ext hbytes) (UInt32.toNat_inj.mp hpair.2)

theorem identityKey_eq_of_selectionKey_eq {a b} (h : selectionKey a = selectionKey b) :
    a.identityKey = b.identityKey :=
  congrArg (fun key => (ofLex key).2) h

theorem descending_sortBy_selectionKey (utxos : List SpendableUtxo) :
    Greedy.Descending (fun utxo => utxo.value.val) (Sorting.sortBy selectionKey utxos) := by
  refine (Sorting.pairwise_sortBy selectionKey utxos).imp ?_
  intro a b hle
  rcases Prod.Lex.le_iff.mp hle with hlt | ⟨heq, -⟩
  · exact le_of_lt hlt
  · exact le_of_eq (OrderDual.toDual.injective heq).symm

section Loop
variable {amount : U128} {utxos selected chosen : List SpendableUtxo} {total sum : U128}

abbrev ReachesAmount (amount : U128) (utxos : List SpendableUtxo) (n : ℕ) : Prop :=
  Greedy.Reaches (fun utxo => utxo.value.val) amount.val utxos n

theorem selectLoop_cons {utxo} (hsum : total.val + utxo.value.val < 2 ^ 128) :
    selectLoop amount (utxo :: utxos) selected total =
      if maxWalletTransferInputs < (selected ++ [utxo]).length then .error .invalidData
      else if amount.val ≤ total.val + utxo.value.val then
        .ok (selected ++ [utxo], ⟨total.val + utxo.value.val, hsum⟩)
      else selectLoop amount utxos (selected ++ [utxo]) ⟨total.val + utxo.value.val, hsum⟩ := by
  have hadd : total.checkedAdd utxo.value = some ⟨total.val + utxo.value.val, hsum⟩ :=
    U128.checkedAdd_eq_some_iff.mpr rfl
  rw [selectLoop, hadd, okOr, Option.elim_some, ok_bind]
  dsimp only
  by_cases hcap : maxWalletTransferInputs < (selected ++ [utxo]).length
  · rw [if_pos hcap, decide_eq_true hcap]
    rfl
  · rw [if_neg hcap, decide_eq_false hcap]
    rfl

/-- **The loop.**  What was selected so far is a prefix, and no prefix of it reaches the
amount.  As long as nothing overflows, the loop stops at the shortest prefix that does, if
the bound on the inputs lets it get there. -/
theorem selectLoop_ok_iff (hfits : totalValue (selected ++ utxos) < 2 ^ 128)
    (htotal : total.val = totalValue selected)
    (hbelow : ∀ m ≤ selected.length, totalValue ((selected ++ utxos).take m) < amount.val)
    (hroom : selected.length ≤ maxWalletTransferInputs) :
    selectLoop amount utxos selected total = .ok (chosen, sum) ↔
      ∃ n, ReachesAmount amount (selected ++ utxos) n ∧ n ≤ maxWalletTransferInputs ∧
        chosen = (selected ++ utxos).take n ∧ sum.val = totalValue chosen := by
  have hlonger : ∀ n, ReachesAmount amount (selected ++ utxos) n → selected.length < n := by
    intro n hreaches
    by_contra hle
    exact absurd hreaches.reached (Nat.not_le.mpr (hbelow n (Nat.le_of_not_lt hle)))
  induction utxos generalizing selected total with
  | nil =>
    constructor
    · intro h
      cases h
    · rintro ⟨n, hreaches, -⟩
      have hlength := hreaches.le_length
      rw [append_nil] at hlength
      exact absurd (hlonger n hreaches) (not_lt.mpr hlength)
  | cons utxo utxos ih =>
    have hassoc : selected ++ utxo :: utxos = selected ++ [utxo] ++ utxos := by simp
    have hlength : (selected ++ [utxo]).length = selected.length + 1 := by simp
    have hnext : totalValue (selected ++ [utxo]) = total.val + utxo.value.val := by
      simp [totalValue, total_append, htotal]
    have hsum : total.val + utxo.value.val < 2 ^ 128 := by
      rw [hassoc, totalValue, total_append, ← totalValue, hnext] at hfits
      omega
    have htake : (selected ++ [utxo] ++ utxos).take (selected.length + 1) = selected ++ [utxo] :=
      take_left' hlength
    rw [hassoc] at hfits hbelow hlonger ⊢
    rw [selectLoop_cons hsum]
    split_ifs with hcap hreached
    · -- one input too many: the prefix that reaches the amount is at least as long
      refine ⟨fun h => (by cases h), ?_⟩
      rintro ⟨n, hreaches, hn, -⟩
      have := hlonger n hreaches
      omega
    · -- the amount is reached now
      have hnow : ReachesAmount amount (selected ++ [utxo] ++ utxos) (selected.length + 1) := by
        refine ⟨by simp, ?_, fun m hm => hbelow m (by omega)⟩
        rw [htake, ← totalValue, hnext]
        exact hreached
      constructor
      · intro h
        cases h
        exact ⟨_, hnow, by omega, htake.symm, hnext.symm⟩
      · rintro ⟨n, hreaches, hn, rfl, hvalue⟩
        have hle : n ≤ selected.length + 1 := hreaches.le hnow
        obtain rfl : n = selected.length + 1 := by
          have := hlonger n hreaches
          omega
        rw [htake] at hvalue ⊢
        rw [Except.ok.injEq, Prod.mk.injEq]
        exact ⟨rfl, Fin.ext (by rw [hvalue, hnext])⟩
    · -- the next round
      have hbelow' : ∀ m ≤ (selected ++ [utxo]).length,
          totalValue ((selected ++ [utxo] ++ utxos).take m) < amount.val := by
        intro m hm
        by_cases hlast : m = selected.length + 1
        · rw [hlast, htake, hnext]
          omega
        · exact hbelow m (by omega)
      refine ih hfits hnext.symm hbelow' (by omega) fun n hreaches => ?_
      have := hlonger n hreaches
      by_contra hle
      obtain rfl : n = selected.length + 1 := by omega
      have := hreaches.reached
      rw [htake, ← totalValue, hnext] at this
      exact hreached this

end Loop

abbrev byValue (utxos : List SpendableUtxo) : List SpendableUtxo :=
  Sorting.sortBy selectionKey utxos

section Selection
variable {utxos : List SpendableUtxo} {amount : U128}

theorem selectUtxos_ok_iff {selected sum} (hfits : totalValue utxos < 2 ^ 128)
    (hamount : 0 < amount) : selectUtxos utxos amount = .ok (selected, sum) ↔
      ∃ n, ReachesAmount amount (byValue utxos) n ∧ n ≤ maxWalletTransferInputs ∧
        selected = (byValue utxos).take n ∧ sum.val = totalValue selected := by
  rw [selectUtxos, selectLoop_ok_iff]
  · rfl
  · rw [nil_append, totalValue, total_perm (Sorting.sortBy_perm selectionKey utxos)]
    exact hfits
  · rfl
  · intro m hm
    rw [le_zero.mp hm]
    exact hamount
  · exact zero_le _

theorem subperm_byValue {chosen : List SpendableUtxo} :
    chosen.Subperm (byValue utxos) ↔ chosen.Subperm utxos :=
  (Sorting.sortBy_perm selectionKey utxos).subperm_left

theorem byValue_eq_of_perm {utxos' : List SpendableUtxo}
    (hdistinct : (utxos.map SpendableUtxo.identity).Nodup) (h : utxos'.Perm utxos) :
    byValue utxos' = byValue utxos := by
  refine Sorting.sortBy_eq_of_perm (fun a ha b hb hkey => ?_) h
  exact inj_on_of_nodup_map hdistinct ha hb
    (identity_eq_of_identityKey_eq (identityKey_eq_of_selectionKey_eq hkey))

/-- **Selection is correct and optimal.** -/
theorem selectUtxos_correct_and_optimal (hdistinct : (utxos.map SpendableUtxo.identity).Nodup)
    (hfits : totalValue utxos < 2 ^ 128) (hamount : 0 < amount) :
    ((∃ result, selectUtxos utxos amount = .ok result) ↔
      ∃ chosen, chosen.Sublist utxos ∧ chosen.length ≤ maxWalletTransferInputs ∧
        amount.val ≤ totalValue chosen) ∧
    (∀ selected sum, selectUtxos utxos amount = .ok (selected, sum) →
      selected.Subperm utxos ∧ selected.Nodup ∧ sum.val = totalValue selected ∧ amount ≤ sum ∧
      (∀ fewer, fewer.Subperm utxos → fewer.length < selected.length →
        totalValue fewer < amount.val) ∧ totalValue selected.dropLast < amount.val) ∧
    ∀ utxos', utxos'.Perm utxos → selectUtxos utxos' amount = selectUtxos utxos amount := by
  have hdescending := descending_sortBy_selectionKey utxos
  refine ⟨⟨?_, ?_⟩, ?_, ?_⟩
  · rintro ⟨⟨selected, sum⟩, hok⟩
    obtain ⟨n, hreaches, hn, rfl, -⟩ := (selectUtxos_ok_iff hfits hamount).mp hok
    -- the selected UTXOs, back in the order of the input
    obtain ⟨chosen, hperm, hsub⟩ :=
      subperm_byValue.mp (take_sublist n (byValue utxos)).subperm
    refine ⟨chosen, hsub, ?_, ?_⟩
    · rw [hperm.length_eq, length_take]
      omega
    · rw [totalValue, total_perm hperm]
      exact hreaches.reached
  · rintro ⟨chosen, hsub, hlength, hreached⟩
    have hchosen := subperm_byValue.mpr hsub.subperm
    obtain ⟨n, hreaches⟩ := exists_reaches hdescending hchosen hreached
    have hle := hreaches.le_of_subperm hdescending hchosen hreached
    have hsum : totalValue ((byValue utxos).take n) < 2 ^ 128 := by
      refine lt_of_le_of_lt (total_take_le _ n) ?_
      rw [total_perm (Sorting.sortBy_perm selectionKey utxos)]
      exact hfits
    exact ⟨(_, ⟨_, hsum⟩), (selectUtxos_ok_iff hfits hamount).mpr
      ⟨n, hreaches, hle.trans hlength, rfl, rfl⟩⟩
  · intro selected sum hok
    obtain ⟨n, hreaches, hn, rfl, hsum⟩ := (selectUtxos_ok_iff hfits hamount).mp hok
    have hselected := subperm_byValue.mp (take_sublist n (byValue utxos)).subperm
    have hlength : ((byValue utxos).take n).length = n :=
      length_take_of_le hreaches.le_length
    have hpos : 0 < n := by
      by_contra hzero
      have hreached := hreaches.reached
      rw [Nat.eq_zero_of_not_pos hzero, take_zero, total_nil] at hreached
      exact absurd hamount (not_lt.mpr hreached)
    refine ⟨hselected, ?_, hsum, ?_, ?_, ?_⟩
    · obtain ⟨ordered, hperm, hsub⟩ := hselected
      exact hperm.nodup_iff.mp ((List.Nodup.of_map _ hdistinct).sublist hsub)
    · rw [Fin.le_def, hsum]
      exact hreaches.reached
    · intro fewer hfewer hshorter
      by_contra hreached
      have hle := hreaches.le_of_subperm hdescending (subperm_byValue.mpr hfewer)
        (Nat.le_of_not_lt hreached)
      omega
    · rw [dropLast_eq_take, hlength, take_take, min_eq_left (sub_le n 1)]
      exact hreaches.least (n - 1) (by omega)
  · intro utxos' hperm
    rw [selectUtxos, selectUtxos, ← byValue, byValue_eq_of_perm hdistinct hperm]

theorem selectUtxos_two_inputs :
    ∃ result, selectUtxos [⟨30, .zero, 0, none, false⟩, ⟨70, .zero, 1, some 5, true⟩] 80 =
      .ok result :=
  (selectUtxos_correct_and_optimal (by decide) (by decide) (by decide)).1.mpr
    ⟨_, List.Sublist.refl _, by decide, by decide⟩

end Selection

/-! ## Shielded notes

`build_shielded_transfer` takes the notes as the wallet stores them, and counts them only
when the amount is reached. -/

structure ShieldedCoin where
  (nonce tokenType : Bytes32)
  value : U128
  mtIndex : UInt64
  deriving DecidableEq

structure NotePlan where
  selected : List ShieldedCoin
  inputCount : ℕ
  changeAtomicUnits : U128
  deriving DecidableEq

def selectNotes (tokenType : Bytes32) (amount : U128) :
    List ShieldedCoin → List ShieldedCoin → U128 →
      Except TransactionPortError (List ShieldedCoin × U128)
  | [], selected, total => .ok (selected, total)
  | coin :: coins, selected, total =>
    if coin.tokenType ≠ tokenType then selectNotes tokenType amount coins selected total
    else do
      let selected := selected ++ [coin]
      let total ← Result.okOr (U128.checkedAdd total coin.value) .invalidChainState
      if amount ≤ total then .ok (selected, total)
      else selectNotes tokenType amount coins selected total

def planNotes (tokenType : Bytes32) (amount : U128) (coins : List ShieldedCoin) :
    Except TransactionPortError NotePlan := do
  let (selected, total) ← selectNotes tokenType amount coins [] 0
  Result.rejectIf (total < amount) .insufficientFunds
  Result.rejectIf (2 ^ 16 ≤ selected.length || selected.length = 0 ||
    maxWalletTransferInputs < selected.length) .invalidData
  let changeAtomicUnits ← Result.okOr (U128.checkedSub total amount) .invalidChainState
  return ⟨selected, selected.length, changeAtomicUnits⟩

def notesOf (tokenType : Bytes32) (coins : List ShieldedCoin) : List ShieldedCoin :=
  coins.filter fun coin => coin.tokenType = tokenType

def noteTotal (notes : List ShieldedCoin) : ℕ := Greedy.total (fun coin => coin.value.val) notes

section Notes
variable {tokenType : Bytes32} {amount : U128} {coins selected : List ShieldedCoin} {total : U128}

/-- The loop takes the shortest prefix of the notes that makes up what is missing, or all. -/
theorem selectNotes_ok (hfits : total.val + noteTotal (notesOf tokenType coins) < 2 ^ 128)
    (hbelow : total.val < amount.val) : ∃ n sum, selectNotes tokenType amount coins selected total =
        .ok (selected ++ (notesOf tokenType coins).take n, sum) ∧
      n ≤ (notesOf tokenType coins).length ∧
      sum.val = total.val + noteTotal ((notesOf tokenType coins).take n) ∧
      (sum.val < amount.val → n = (notesOf tokenType coins).length) ∧
      ∀ m < n, total.val + noteTotal ((notesOf tokenType coins).take m) < amount.val := by
  induction coins generalizing selected total with
  | nil => exact ⟨0, total, by simp [selectNotes, notesOf], zero_le _, rfl, fun _ => rfl, nofun⟩
  | cons coin coins ih =>
    by_cases htype : coin.tokenType = tokenType
    · have hnotes : notesOf tokenType (coin :: coins) = coin :: notesOf tokenType coins := by
        simp [notesOf, htype]
      simp only [hnotes, noteTotal, total_cons] at hfits ⊢
      have hsum : total.val + coin.value.val < 2 ^ 128 := by omega
      have hadd : total.checkedAdd coin.value = some ⟨_, hsum⟩ :=
        U128.checkedAdd_eq_some_iff.mpr rfl
      simp only [selectNotes, htype, ne_eq, not_true, if_false, hadd, okOr,
        Option.elim_some, ok_bind]
      split_ifs with hreached
      · refine ⟨1, _, rfl, by simp, by simp, fun hlt => absurd hlt (not_lt.mpr hreached), ?_⟩
        intro m hm
        simpa [lt_one_iff.mp hm] using hbelow
      · obtain ⟨n, sum, hok, hn, hvalue, hall, hleast⟩ :=
          @ih (selected ++ [coin]) ⟨_, hsum⟩ (by simpa [noteTotal, add_assoc] using hfits)
            (Nat.lt_of_not_le hreached)
        refine ⟨n + 1, sum, by rw [hok]; simp, by simpa using hn, ?_, ?_, ?_⟩
        · rw [take_succ_cons, total_cons, ← add_assoc]
          exact hvalue
        · intro hlt
          simpa using hall hlt
        · intro m hm
          cases m with
          | zero => simpa using hbelow
          | succ m =>
            rw [take_succ_cons, total_cons, ← add_assoc]
            exact hleast m (lt_of_succ_lt_succ hm)
    · have hnotes : notesOf tokenType (coin :: coins) = notesOf tokenType coins := by
        simp [notesOf, htype]
      rw [hnotes] at hfits ⊢
      rw [selectNotes, if_pos htype]
      exact ih hfits hbelow

abbrev NotesReach (tokenType : Bytes32) (amount : U128) (coins : List ShieldedCoin) (n : ℕ) :
    Prop :=
  Greedy.Reaches (fun coin => coin.value.val) amount.val (notesOf tokenType coins) n

theorem planNotes_cases (hfits : noteTotal (notesOf tokenType coins) < 2 ^ 128)
    (hamount : 0 < amount) : (noteTotal (notesOf tokenType coins) < amount.val ∧
        planNotes tokenType amount coins = .error .insufficientFunds) ∨
      ∃ n, NotesReach tokenType amount coins n ∧ if n ≤ maxWalletTransferInputs then
          ∃ change, planNotes tokenType amount coins =
              .ok ⟨(notesOf tokenType coins).take n, n, change⟩ ∧
            noteTotal ((notesOf tokenType coins).take n) = amount.val + change.val
        else planNotes tokenType amount coins = .error .invalidData := by
  obtain ⟨n, sum, hok, hn, hvalue, hall, hleast⟩ :=
    @selectNotes_ok tokenType amount coins [] 0 (by simpa using hfits) hamount
  simp only [Fin.val_zero, zero_add, nil_append] at hok hvalue hleast
  rw [planNotes, hok, ok_bind]
  dsimp only
  by_cases hshort : sum < amount
  · refine .inl ⟨?_, ?_⟩
    · rw [hall hshort, take_length] at hvalue
      exact hvalue ▸ hshort
    · rw [decide_eq_true hshort]
      rfl
  · have hreached : amount.val ≤ sum.val := Nat.le_of_not_lt hshort
    have hlength : ((notesOf tokenType coins).take n).length = n := length_take_of_le hn
    have hpos : n ≠ 0 := by
      rintro rfl
      rw [hvalue] at hreached
      exact absurd hamount (not_lt.mpr hreached)
    refine .inr ⟨n, ⟨hn, hreached.trans_eq hvalue, hleast⟩, ?_⟩
    rw [decide_eq_false hshort, rejectIf_false, ok_bind, hlength]
    split_ifs with hcap
    · have hcount : (2 ^ 16 ≤ n || n = 0 || maxWalletTransferInputs < n) = false := by
        have hsmall : ¬ 2 ^ 16 ≤ n := by
          rw [maxWalletTransferInputs] at hcap
          omega
        simp only [hsmall, hpos, not_lt.mpr hcap, decide_false, Bool.or_self]
      rw [hcount, rejectIf_false, ok_bind, U128.checkedSub, if_pos (Fin.le_def.mpr hreached)]
      refine ⟨sum - amount, rfl, ?_⟩
      rw [← hvalue, U128.val_sub hreached]
      omega
    · rw [decide_eq_true (Nat.lt_of_not_le hcap), Bool.or_true]
      rfl

/-- What the selection does with an amount that can be paid, and with one that cannot. -/
structure Plannable (tokenType : Bytes32) (amount : U128) (coins : List ShieldedCoin) : Prop where
  insufficient : planNotes tokenType amount coins = .error .insufficientFunds ↔
    noteTotal (notesOf tokenType coins) < amount.val
  tooMany : planNotes tokenType amount coins = .error .invalidData →
    ∀ chosen, chosen.Subperm (notesOf tokenType coins) →
      chosen.length ≤ maxWalletTransferInputs → noteTotal chosen < amount.val
  selected : planNotes tokenType amount coins ≠ .error .insufficientFunds →
    planNotes tokenType amount coins ≠ .error .invalidData →
    ∃ plan, planNotes tokenType amount coins = .ok plan ∧
      plan.selected.Sublist (notesOf tokenType coins) ∧
      plan.inputCount = plan.selected.length ∧
      noteTotal plan.selected = amount.val + plan.changeAtomicUnits.val

/-- **A payable amount is plannable** exactly if the notes reach it, in the order of the
store, within 256 of them, or if no 256 notes reach it at all. -/
theorem payable_amount_plannable_iff (hfits : noteTotal (notesOf tokenType coins) < 2 ^ 128)
    (hamount : 0 < amount) :
    Plannable tokenType amount coins ↔ ∀ n, NotesReach tokenType amount coins n →
      n ≤ maxWalletTransferInputs ∨ ∀ chosen, chosen.Subperm (notesOf tokenType coins) →
          chosen.length ≤ maxWalletTransferInputs → noteTotal chosen < amount.val := by
  rcases planNotes_cases hfits hamount with ⟨hshort, hplan⟩ | ⟨n, hreaches, hplan⟩
  · refine iff_of_true ⟨iff_of_true hplan hshort, ?_, fun hnot => absurd hplan hnot⟩ ?_
    · intro hmany
      cases hplan.symm.trans hmany
    · intro n hreaches
      have hle := hreaches.reached.trans (total_take_le _ n)
      exact absurd hshort (not_lt.mpr hle)
  have henough : ¬ noteTotal (notesOf tokenType coins) < amount.val :=
    not_lt.mpr (hreaches.reached.trans (total_take_le _ n))
  split_ifs at hplan with hcap
  · obtain ⟨change, hplan, hchange⟩ := hplan
    refine iff_of_true ⟨iff_of_false (by rw [hplan]; nofun) henough, ?_, fun _ _ => ?_⟩ ?_
    · intro hmany
      cases hplan.symm.trans hmany
    · exact ⟨_, hplan, take_sublist _ _, (length_take_of_le hreaches.le_length).symm, hchange⟩
    · intro m hm
      exact .inl ((hm.le hreaches).trans hcap)
  · constructor
    · intro hplannable m _
      exact .inr (hplannable.tooMany hplan)
    · intro hreachable
      refine ⟨iff_of_false (by rw [hplan]; nofun) henough, fun _ => ?_, fun _ hnot => ?_⟩
      · exact (hreachable n hreaches).resolve_left hcap
      · exact absurd hplan hnot

def sampleNote (value : U128) : ShieldedCoin := ⟨.zero, .zero, value, 0⟩

theorem payable_amount_plannable_two_notes : Plannable .zero 80 [sampleNote 30, sampleNote 70] := by
  refine (payable_amount_plannable_iff (by decide) (by decide)).mpr fun n hreaches => .inl ?_
  exact hreaches.le_length.trans (by decide)

/-- One note pays the amount, but 256 smaller ones are stored before it. -/
theorem payable_amount_not_planned :
    planNotes .zero 300 (List.replicate 256 (sampleNote 1) ++ [sampleNote 1000]) =
        .error .invalidData ∧ [sampleNote 1000].Subperm
        (notesOf .zero (List.replicate 256 (sampleNote 1) ++ [sampleNote 1000])) ∧
      300 ≤ noteTotal [sampleNote 1000] := by
  have hmem : sampleNote 1000 ∈
      notesOf .zero (replicate 256 (sampleNote 1) ++ [sampleNote 1000]) := by
    decide +kernel
  exact ⟨by decide +kernel, (singleton_sublist.mpr hmem).subperm, by decide⟩

end Notes

end Oxid.Midnight
