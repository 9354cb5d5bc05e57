import Mathlib.Data.List.Infix
import Oxid.PassportVault.Midnight
import Oxid.Selection

/-!
# Which actions were applied

A segment other than the first may fail as a whole.  `infer_included_target_actions` keeps
every choice of segments whose operations are a prefix of what the node reports, and asks
whether those that explain the report agree on the contract.
-/

namespace Oxid.PassportVault

open Selection OrderedMap List

variable {M : MidnightTypes}

def maxReplayActionsPerTransaction : ℕ := 256

def maxOutcomeCandidates : ℕ := 1024

structure ActionRecord (M : MidnightTypes) where
  index : ℕ
  segment : UInt16
  action : ContractAction M

def actionRecords (actions : List (UInt16 × ContractAction M)) :
    Except PassportVaultReplayError (List (ActionRecord M)) := do
  Result.rejectIf (maxReplayActionsPerTransaction < actions.length) .capacityExceeded
  return actions.mapIdx fun index a => ⟨index, a.1, a.2⟩

structure OperationBatches where
  (calls deploys maintains : List CanonicalMidnightOperation)
  deriving DecidableEq

def CanonicalMidnightOperation.batch : CanonicalMidnightOperation → ℕ
  | .call _ => 0
  | .deploy _ => 1
  | .maintain _ => 2

open CanonicalMidnightOperation

@[simp] theorem batch_call (address : Bytes32) : (call address).batch = 0 := rfl

@[simp] theorem batch_deploy (address : Bytes32) : (deploy address).batch = 1 := rfl

@[simp] theorem batch_maintain (address : Bytes32) : (maintain address).batch = 2 := rfl

namespace OperationBatches

def empty : OperationBatches := ⟨[], [], []⟩

def push (batches : OperationBatches) (operation : CanonicalMidnightOperation) : OperationBatches :=
  match operation with
  | .call _ => { batches with calls := batches.calls ++ [operation] }
  | .deploy _ => { batches with deploys := batches.deploys ++ [operation] }
  | .maintain _ => { batches with maintains := batches.maintains ++ [operation] }

def startsWith (observed batches : OperationBatches) : Bool :=
  batches.calls.isPrefixOf observed.calls && batches.deploys.isPrefixOf observed.deploys &&
    batches.maintains.isPrefixOf observed.maintains

end OperationBatches

def observeOperations (batches : OperationBatches) (previousBatch : ℕ) :
    List CanonicalMidnightOperation → Except PassportVaultReplayError OperationBatches
  | [] => .ok batches
  | operation :: rest =>
    if operation.batch < previousBatch then .error .outcomeMismatch
    else observeOperations (batches.push operation) operation.batch rest

def observedOperationBatches (observed : List CanonicalMidnightOperation) :
    Except PassportVaultReplayError OperationBatches :=
  observeOperations .empty 0 observed

def recordOperationBatches (records : List (ActionRecord M)) : OperationBatches :=
  records.foldl (fun batches record => batches.push record.action.operation) .empty

def groupActions (groups : List (List (ActionRecord M))) (seenSegments : List UInt16) :
    List (ActionRecord M) → Except PassportVaultReplayError (List (List (ActionRecord M)))
  | [] => .ok groups
  | record :: rest =>
    if (groups.getLast?.bind List.head?).any fun previous => previous.segment = record.segment then
      groupActions (groups.dropLast ++ [groups.getLastD [] ++ [record]]) seenSegments rest
    else if record.segment ∈ seenSegments then .error .invalidTransaction
    else groupActions (groups ++ [[record]]) (record.segment :: seenSegments) rest

def actionGroups (records : List (ActionRecord M)) :
    Except PassportVaultReplayError (List (List (ActionRecord M))) :=
  groupActions [] [] records

structure OutcomeCandidate where
  includedActions : List ℕ

instance instLinearOrderOutcomeCandidate : LinearOrder OutcomeCandidate :=
  LinearOrder.lift' OutcomeCandidate.includedActions fun a b h => by cases a; cases b; congr

def recordsAt (records : List (ActionRecord M)) (indices : List ℕ) : List (ActionRecord M) :=
  indices.filterMap fun index => records[index]?

def candidateMatchesObservedPrefix (candidate : OutcomeCandidate)
    (records : List (ActionRecord M)) (observed : OperationBatches) : Bool :=
  observed.startsWith (recordOperationBatches (recordsAt records candidate.includedActions))

def nextCandidates (records : List (ActionRecord M)) (observed : OperationBatches)
    (candidates : OrderedMap OutcomeCandidate Unit) (group : List (ActionRecord M)) :
    OrderedMap OutcomeCandidate Unit :=
  OrderedMap.ofKeys <| candidates.keys.flatMap fun candidate =>
    let included : OutcomeCandidate := ⟨candidate.includedActions ++ group.map (·.index)⟩
    (if group.head?.map (·.segment) ≠ some 0 ∧
        candidateMatchesObservedPrefix candidate records observed
      then [candidate] else []) ++
    (if candidateMatchesObservedPrefix included records observed then [included] else [])

def exploreGroups (records : List (ActionRecord M)) (observed : OperationBatches)
    (candidates : OrderedMap OutcomeCandidate Unit) : List (List (ActionRecord M)) →
      Except PassportVaultReplayError (OrderedMap OutcomeCandidate Unit)
  | [] => .ok candidates
  | group :: rest =>
    let next := nextCandidates records observed candidates group
    if next.size = 0 then .error .outcomeMismatch
    else if maxOutcomeCandidates < next.size then .error .ambiguousOutcome
    else exploreGroups records observed next rest

def targetSets (records : List (ActionRecord M)) (contractAddress : Bytes32)
    (observed : OperationBatches) (candidates : OrderedMap OutcomeCandidate Unit) :
    OrderedMap (List ℕ) Unit :=
  OrderedMap.ofKeys <|
    (candidates.keys.filter fun candidate =>
      recordOperationBatches (recordsAt records candidate.includedActions) = observed).map
    fun candidate => candidate.includedActions.filter fun index =>
      (records[index]?).any fun record => record.action.targets contractAddress

def onlyTargetSet : List (List ℕ) → Except PassportVaultReplayError (OrderedMap ℕ Unit)
  | [] => .error .outcomeMismatch
  | [targets] => .ok (OrderedMap.ofKeys targets)
  | _ => .error .ambiguousOutcome

def inferIncludedTargetActions (records : List (ActionRecord M)) (contractAddress : Bytes32)
    (allApplied : Bool) (observed : List CanonicalMidnightOperation) :
    Except PassportVaultReplayError (OrderedMap ℕ Unit) := do
  let groups ← actionGroups records
  let observedBatches ← observedOperationBatches observed
  if allApplied then
    Result.rejectIf (recordOperationBatches records ≠ observedBatches) .outcomeMismatch
    return OrderedMap.ofKeys ((records.filter fun record =>
      record.action.targets contractAddress).map (·.index))
  else
    let candidates ← exploreGroups records observedBatches (OrderedMap.ofKeys [⟨[]⟩]) groups
    onlyTargetSet (targetSets records contractAddress observedBatches candidates).keys

/-! ## Batches

The batches of a list of operations are its calls, its deployments and its
maintenance operations, each in their order. -/

section Batches
variable {ops ops' observed : List CanonicalMidnightOperation}

def OperationBatches.split (ops : List CanonicalMidnightOperation) : OperationBatches where
  calls := ops.filter fun op => op.batch = 0
  deploys := ops.filter fun op => op.batch = 1
  maintains := ops.filter fun op => op.batch = 2

def OperationBatches.report (batches : OperationBatches) : List CanonicalMidnightOperation :=
  batches.calls ++ batches.deploys ++ batches.maintains

abbrev InBatches (observed : List CanonicalMidnightOperation) : Prop :=
  observed.Pairwise fun a b => a.batch ≤ b.batch

open OperationBatches

theorem split_push (ops : List CanonicalMidnightOperation) (op : CanonicalMidnightOperation) :
    (split ops).push op = .split (ops ++ [op]) := by
  cases op <;> simp [split, push]

theorem recordOperationBatches_eq (records : List (ActionRecord M)) :
    recordOperationBatches records = .split (records.map (·.action.operation)) := by
  induction records using reverseRecOn with
  | nil => rfl
  | append_singleton _ _ ih =>
    rw [recordOperationBatches, foldl_append, ← recordOperationBatches, ih, map_append]
    exact split_push _ _

theorem observeOperations_eq (ops rest : List CanonicalMidnightOperation) (previous : ℕ) :
    observeOperations (.split ops) previous rest =
      if InBatches rest ∧ ∀ op ∈ rest, previous ≤ op.batch then .ok (.split (ops ++ rest))
      else .error .outcomeMismatch := by
  induction rest generalizing ops previous with
  | nil => simp [observeOperations]
  | cons op _ ih =>
    rw [observeOperations, split_push, ih, append_assoc, singleton_append]
    by_cases hlt : op.batch < previous
    · rw [if_pos hlt, if_neg]
      intro h
      exact absurd hlt (Nat.not_lt.mpr (h.2 op mem_cons_self))
    · rw [if_neg hlt]
      -- What follows is no earlier than `op`, and `op` is no earlier than `previous`.
      congr 1
      rw [InBatches, InBatches, pairwise_cons, forall_mem_cons, eq_iff_iff]
      constructor
      · rintro ⟨hrest, hop⟩
        exact ⟨⟨hop, hrest⟩, Nat.not_lt.mp hlt, fun o ho =>
          (Nat.not_lt.mp hlt).trans (hop o ho)⟩
      · rintro ⟨⟨hop, hrest⟩, -, -⟩
        exact ⟨hrest, hop⟩

theorem observedOperationBatches_eq (observed : List CanonicalMidnightOperation) :
    observedOperationBatches observed =
      if InBatches observed then .ok (.split observed) else .error .outcomeMismatch := by
  rw [observedOperationBatches, show empty = .split [] from rfl, observeOperations_eq]
  simp

theorem report_split (h : InBatches ops) : (split ops).report = ops := by
  induction ops with
  | nil => rfl
  | cons op ops ih =>
    obtain ⟨hop, hops⟩ := pairwise_cons.mp h
    have hnone {k : ℕ} (hk : k < op.batch) : (ops.filter fun o => decide (o.batch = k)) = [] := by
      rw [filter_eq_nil_iff]
      intro o ho
      have := hop o ho
      simp
      omega
    have ih := ih hops
    simp only [split, report] at ih ⊢
    cases op with
    | call => simpa using ih
    | deploy =>
      have h0 := hnone (k := 0) (by simp)
      simp only [h0, nil_append] at ih
      simp [h0, ih]
    | maintain =>
      have h0 := hnone (k := 0) (by simp)
      have h1 := hnone (k := 1) (by simp)
      simp only [h0, h1, nil_append] at ih
      simp [h0, h1, ih]

theorem split_report (ops : List CanonicalMidnightOperation) :
    split (split ops).report = .split ops := by
  have hapart {j k : ℕ} (h : j ≠ k) :
      ((ops.filter fun op => decide (op.batch = k)).filter fun op => decide (op.batch = j)) =
        [] := by
    rw [filter_eq_nil_iff]
    intro op hop
    have := (mem_filter.mp hop).2
    simp_all [eq_comm]
  simp [split, report, filter_append, hapart]

theorem inBatches_report (ops : List CanonicalMidnightOperation) :
    InBatches (split ops).report := by
  have hbatch {k : ℕ} {op : CanonicalMidnightOperation}
      (h : op ∈ ops.filter fun op => decide (op.batch = k)) : op.batch = k := by
    simpa using (mem_filter.mp h).2
  have hsame (k : ℕ) : InBatches (ops.filter fun op => decide (op.batch = k)) :=
    pairwise_of_forall_mem_list fun a ha b hb => by rw [hbatch ha, hbatch hb]
  rw [InBatches, report, pairwise_append, pairwise_append]
  refine ⟨⟨hsame 0, hsame 1, ?_⟩, hsame 2, ?_⟩
  · intro a ha b hb
    rw [hbatch ha, hbatch hb]
    decide
  · intro a ha b hb
    rw [hbatch hb]
    rcases mem_append.mp ha with ha | ha
    · rw [hbatch ha]
      decide
    · rw [hbatch ha]
      decide

theorem report_eq_iff : (split ops).report = observed ↔
      InBatches observed ∧ split ops = .split observed := by
  constructor
  · rintro rfl
    exact ⟨inBatches_report ops, (split_report ops).symm⟩
  · rintro ⟨hbatches, heq⟩
    rw [heq, report_split hbatches]

theorem split_append (ops ops' : List CanonicalMidnightOperation) : split (ops ++ ops') =
      ⟨(split ops).calls ++ (split ops').calls, (split ops).deploys ++ (split ops').deploys,
        (split ops).maintains ++ (split ops').maintains⟩ := by
  simp [split]

theorem startsWith_of_append {batches : OperationBatches}
    (h : batches.startsWith (.split (ops ++ ops'))) : batches.startsWith (.split ops) := by
  rw [split_append] at h
  simp only [startsWith, Bool.and_eq_true, isPrefixOf_iff_prefix] at h ⊢
  exact ⟨⟨(prefix_append _ _).trans h.1.1, (prefix_append _ _).trans h.1.2⟩,
    (prefix_append _ _).trans h.2⟩

theorem startsWith_self (batches : OperationBatches) : batches.startsWith batches := by
  simp [startsWith]

end Batches

/-- The records are cut into groups of one segment each, and no segment has two. -/
structure Grouped (records : List (ActionRecord M)) (groups : List (List (ActionRecord M))) :
    Prop where
  flatten : groups.flatten = records
  nonempty : ∀ group ∈ groups, group ≠ []
  uniform : ∀ group ∈ groups, ∀ a ∈ group, ∀ b ∈ group, a.segment = b.segment
  distinct : groups.Pairwise fun g h => ∀ a ∈ g, ∀ b ∈ h, a.segment ≠ b.segment

section Groups
variable {records rest group current : List (ActionRecord M)}
  {groups done : List (List (ActionRecord M))} {seen : List UInt16} {record : ActionRecord M}

theorem groupActions_join (hne : current ≠ [])
    (hsame : ∀ a ∈ current, ∀ b ∈ group, a.segment = b.segment) :
    groupActions (done ++ [current]) seen (group ++ rest) =
      groupActions (done ++ [current ++ group]) seen rest := by
  induction group generalizing current with
  | nil => rw [append_nil, nil_append]
  | cons b _ ih =>
    obtain ⟨a, tail, rfl⟩ := exists_cons_of_ne_nil hne
    have hsegment : a.segment = b.segment := hsame a mem_cons_self b mem_cons_self
    have hjoin : ((done ++ [a :: tail]).getLast?.bind head?).any
        (fun previous => decide (previous.segment = b.segment)) := by
      simp [hsegment]
    rw [cons_append, groupActions, if_pos hjoin, dropLast_concat, getLastD_concat, ih (by simp)]
    · rw [append_assoc, singleton_append]
    · intro c hc d hd
      rcases mem_append.mp hc with hc | hc
      · exact hsame c hc d (mem_cons_of_mem b hd)
      · rw [mem_singleton] at hc
        rw [hc, ← hsegment]
        exact hsame a mem_cons_self d (mem_cons_of_mem b hd)

theorem groupActions_open
    (hseen : ∀ g ∈ done, ∀ a ∈ g, a.segment ∈ seen) (hfresh : record.segment ∉ seen)
    (huniform : ∀ a ∈ record :: group, a.segment = record.segment) :
    groupActions done seen (record :: group ++ rest) =
      groupActions (done ++ [record :: group]) (record.segment :: seen) rest := by
  have hother : ¬ (done.getLast?.bind head?).any
      (fun previous => decide (previous.segment = record.segment)) := by
    simp only [Option.any_eq_true, Option.bind_eq_some_iff, decide_eq_true_eq]
    rintro ⟨previous, ⟨g, hg, hprevious⟩, hsegment⟩
    have hmem := hseen g (mem_of_getLast? hg) previous (mem_of_head? hprevious)
    exact hfresh (hsegment ▸ hmem)
  rw [cons_append, groupActions, if_neg hother, if_neg hfresh, groupActions_join (by simp)]
  · rw [singleton_append]
  · intro a ha b hb
    rw [mem_singleton] at ha
    rw [ha, huniform b (mem_cons_of_mem record hb)]

theorem groupActions_groups (hseen : ∀ g ∈ done, ∀ a ∈ g, a.segment ∈ seen)
    (honly : ∀ segment ∈ seen, ∃ g ∈ done, ∃ a ∈ g, a.segment = segment)
    (h : Grouped (done ++ groups).flatten (done ++ groups)) :
    groupActions done seen groups.flatten = .ok (done ++ groups) := by
  induction groups generalizing done seen with
  | nil => rw [append_nil]; rfl
  | cons group groups ih =>
    have hgroup : group ∈ done ++ group :: groups := by simp
    obtain ⟨record, tail, rfl⟩ := exists_cons_of_ne_nil (h.nonempty group hgroup)
    have hfresh : record.segment ∉ seen := by
      intro hmem
      obtain ⟨g, hg, a, ha, hsegment⟩ := honly _ hmem
      have hapart := (pairwise_append.mp h.distinct).2.2 g hg (record :: tail) (by simp)
      exact hapart a ha record mem_cons_self hsegment
    have hassoc : done ++ (record :: tail) :: groups = done ++ [record :: tail] ++ groups := by
      rw [append_assoc, singleton_append]
    rw [flatten_cons, groupActions_open hseen hfresh, ih]
    · rw [hassoc]
    · intro g hg a ha
      rcases mem_append.mp hg with hg | hg
      · exact mem_cons_of_mem _ (hseen g hg a ha)
      · rw [mem_singleton] at hg
        rw [hg] at ha
        rw [h.uniform _ hgroup a ha record mem_cons_self]
        exact mem_cons_self
    · intro segment hsegment
      rcases mem_cons.mp hsegment with rfl | hsegment
      · exact ⟨record :: tail, by simp, record, mem_cons_self, rfl⟩
      · obtain ⟨g, hg, hrest⟩ := honly segment hsegment
        exact ⟨g, by simp [hg], hrest⟩
    · rw [← hassoc]
      exact h
    · intro a ha
      exact h.uniform _ hgroup a ha record mem_cons_self

theorem actionGroups_eq (h : Grouped records groups) : actionGroups records = .ok groups := by
  have hrecords := h.flatten
  subst hrecords
  exact groupActions_groups (by simp) (by simp) h

theorem Grouped.nodup (h : Grouped records groups) : groups.Nodup := by
  refine h.distinct.imp_of_mem ?_
  rintro g g' hg - hapart rfl
  obtain ⟨a, tail, rfl⟩ := exists_cons_of_ne_nil (h.nonempty g hg)
  exact hapart a mem_cons_self a mem_cons_self rfl

end Groups

/-! ## The search -/

def Indexed (records : List (ActionRecord M)) : Prop :=
  records.map (·.index) = List.range records.length

def OfFirstSegment (group : List (ActionRecord M)) : Prop := ∃ record ∈ group, record.segment = 0

def candidateOf (chosen : List (List (ActionRecord M))) : OutcomeCandidate :=
  ⟨chosen.flatten.map (·.index)⟩

def Alive (observed : OperationBatches) (chosen : List (List (ActionRecord M))) : Prop :=
  observed.startsWith (recordOperationBatches chosen.flatten)

def liveCandidates (records : List (ActionRecord M)) (observed : OperationBatches)
    (groups : List (List (ActionRecord M))) : OrderedMap OutcomeCandidate Unit :=
  groups.foldl (nextCandidates records observed) (OrderedMap.ofKeys [⟨[]⟩])

section Search
variable {records l group : List (ActionRecord M)} {record : ActionRecord M}
  {groups done chosen : List (List (ActionRecord M))} {batches : OperationBatches}
  {candidates : OrderedMap OutcomeCandidate Unit} {c : OutcomeCandidate}

theorem Indexed.getElem?_index (h : Indexed records) (hmem : record ∈ records) :
    records[record.index]? = some record := by
  obtain ⟨i, hi, rfl⟩ := mem_iff_getElem.mp hmem
  have hindex : records[i].index = i := by
    have hget := congrArg (fun l => l[i]?) h
    simpa [hi] using hget
  rw [hindex, getElem?_eq_getElem hi]

theorem recordsAt_map_index (h : Indexed records) (hsub : l ⊆ records) :
    recordsAt records (l.map (·.index)) = l := by
  induction l with
  | nil => rfl
  | cons _ l ih =>
    rw [cons_subset] at hsub
    rw [map_cons, recordsAt, filterMap_cons, h.getElem?_index hsub.1, ← recordsAt, ih hsub.2]

theorem ofFirstSegment_iff (h : Grouped records groups) (hgroup : group ∈ groups) :
    OfFirstSegment group ↔ group.head?.map (·.segment) = some 0 := by
  obtain ⟨record, tail, rfl⟩ := exists_cons_of_ne_nil (h.nonempty group hgroup)
  rw [head?_cons, Option.map_some, Option.some.injEq]
  constructor
  · rintro ⟨a, ha, hzero⟩
    rw [h.uniform _ hgroup record mem_cons_self a ha, hzero]
  · intro hzero
    exact ⟨record, mem_cons_self, hzero⟩

theorem alive_nil (batches : OperationBatches) : Alive (M := M) batches [] := by
  simp [Alive, recordOperationBatches, OperationBatches.empty, OperationBatches.startsWith]

theorem alive_of_concat (h : Alive batches (chosen ++ [group])) : Alive batches chosen := by
  rw [Alive, recordOperationBatches_eq] at h ⊢
  rw [flatten_append, map_append] at h
  exact startsWith_of_append h

theorem Grouped.flatten_subset (h : Grouped records groups) (hsub : chosen.Sublist groups) :
    chosen.flatten.Sublist records := by
  rw [← h.flatten]
  exact flatten_sublist hsub

theorem recordsAt_candidateOf (hindexed : Indexed records) (h : Grouped records groups)
    (hsub : chosen.Sublist groups) :
    recordsAt records (candidateOf chosen).includedActions = chosen.flatten :=
  recordsAt_map_index hindexed (h.flatten_subset hsub).subset

theorem candidateOf_concat (chosen : List (List (ActionRecord M))) (group : List (ActionRecord M)) :
    candidateOf (chosen ++ [group]) =
      ⟨(candidateOf chosen).includedActions ++ group.map (·.index)⟩ := by
  simp [candidateOf]

theorem mem_nextCandidates : c ∈ (nextCandidates records batches candidates group).keys ↔
      ∃ candidate ∈ candidates.keys, (group.head?.map (·.segment) ≠ some 0 ∧
          candidateMatchesObservedPrefix candidate records batches ∧ c = candidate) ∨
        (candidateMatchesObservedPrefix
            ⟨candidate.includedActions ++ group.map (·.index)⟩ records batches ∧
          c = ⟨candidate.includedActions ++ group.map (·.index)⟩) := by
  rw [nextCandidates, mem_keys_ofKeys, mem_flatMap]
  refine exists_congr fun candidate => and_congr_right fun _ => ?_
  rw [mem_append]
  refine or_congr ?_ ?_
  · split_ifs with h
    · simp [h]
    · simp only [not_mem_nil, false_iff]
      tauto
  · split_ifs with h
    · simp [h]
    · simp [h]

/-- **The search keeps the choices that survive.** -/
theorem mem_liveCandidates (hindexed : Indexed records) (h : Grouped records groups)
    (hdone : done <+: groups) : c ∈ (liveCandidates records batches done).keys ↔
      ∃ chosen, Survives OfFirstSegment (Alive batches) done chosen ∧ c = candidateOf chosen := by
  induction done using reverseRecOn generalizing c with
  | nil =>
    simp only [liveCandidates, foldl_nil, mem_keys_ofKeys, mem_singleton, Survives, isSelection_nil]
    constructor
    · intro heq
      exact ⟨[], ⟨rfl, alive_nil batches⟩, heq⟩
    · rintro ⟨chosen, ⟨rfl, -⟩, heq⟩
      exact heq
  | append_singleton done group ih =>
    have hprefix : done <+: groups := (prefix_append done [group]).trans hdone
    have hnodup : (done ++ [group]).Nodup := h.nodup.sublist hdone.sublist
    have hgroup : group ∈ groups := hdone.subset (by simp)
    have hmatch {chosen : List (List (ActionRecord M))} (hsub : chosen.Sublist groups) :
        candidateMatchesObservedPrefix (candidateOf chosen) records batches ↔
          Alive batches chosen := by
      rw [candidateMatchesObservedPrefix, recordsAt_candidateOf hindexed h hsub, Alive]
    have hextend {chosen : List (List (ActionRecord M))} (hsub : chosen.Sublist done) :
        (chosen ++ [group]).Sublist groups :=
      (hsub.append (.refl [group])).trans hdone.sublist
    rw [liveCandidates, foldl_append, ← liveCandidates, foldl_cons, foldl_nil, mem_nextCandidates]
    simp only [survives_concat hnodup fun _ _ => alive_of_concat, ih hprefix,
      ofFirstSegment_iff h hgroup]
    constructor
    · rintro ⟨candidate, ⟨chosen, hsurvives, rfl⟩, ⟨hsegment, -, rfl⟩ | ⟨halive, rfl⟩⟩
      · exact ⟨chosen, .inl ⟨hsegment, hsurvives⟩, rfl⟩
      · rw [← candidateOf_concat] at halive ⊢
        exact ⟨chosen ++ [group], .inr ⟨chosen, rfl, hsurvives,
          (hmatch (hextend hsurvives.1.sublist)).mp halive⟩, rfl⟩
    · rintro ⟨chosen, ⟨hsegment, hsurvives⟩ | ⟨init, rfl, hsurvives, halive⟩, rfl⟩
      · exact ⟨_, ⟨chosen, hsurvives, rfl⟩, .inl ⟨hsegment,
          (hmatch (hsurvives.1.sublist.trans hprefix.sublist)).mpr hsurvives.2, rfl⟩⟩
      · refine ⟨_, ⟨init, hsurvives, rfl⟩, .inr ?_⟩
        rw [← candidateOf_concat]
        exact ⟨(hmatch (hextend hsurvives.1.sublist)).mpr halive, rfl⟩

end Search

/-! ## The specification -/

/-- The chosen groups, that of the first segment among them, explain the report: their
operations, batch by batch, are what was observed. -/
def Explains (groups : List (List (ActionRecord M))) (observed : List CanonicalMidnightOperation)
    (chosen : List (List (ActionRecord M))) : Prop :=
  IsSelection OfFirstSegment groups chosen ∧
    (recordOperationBatches chosen.flatten).report = observed

def targetList (contractAddress : Bytes32) (chosen : List (List (ActionRecord M))) : List ℕ :=
  (chosen.flatten.filter fun record => record.action.targets contractAddress).map (·.index)

def targetActions (contractAddress : Bytes32) (chosen : List (List (ActionRecord M))) :
    OrderedMap ℕ Unit :=
  OrderedMap.ofKeys (targetList contractAddress chosen)

section Specification
variable {records : List (ActionRecord M)} {groups chosen chosen' : List (List (ActionRecord M))}
  {batches : OperationBatches} {observed : List CanonicalMidnightOperation}
  {contractAddress : Bytes32} {t : List ℕ}

theorem explains_iff : Explains groups observed chosen ↔
      InBatches observed ∧ Survives OfFirstSegment (Alive (.split observed)) groups chosen ∧
        recordOperationBatches chosen.flatten = .split observed := by
  rw [Explains, recordOperationBatches_eq, report_eq_iff, Survives, Alive,
    recordOperationBatches_eq]
  constructor
  · rintro ⟨hselection, hbatches, heq⟩
    refine ⟨hbatches, ⟨hselection, ?_⟩, heq⟩
    rw [heq]
    exact startsWith_self _
  · rintro ⟨hbatches, ⟨hselection, -⟩, heq⟩
    exact ⟨hselection, hbatches, heq⟩

theorem targetList_pairwise (hindexed : Indexed records) (h : Grouped records groups)
    (hsub : chosen.Sublist groups) : (targetList contractAddress chosen).Pairwise (· < ·) := by
  have hrange : (records.map (·.index)).Pairwise (· < ·) := by
    rw [hindexed]
    exact pairwise_lt_range
  refine hrange.sublist ?_
  exact (filter_sublist.trans (h.flatten_subset hsub)).map _

theorem targetActions_inj (hindexed : Indexed records) (h : Grouped records groups)
    (hsub : chosen.Sublist groups) (hsub' : chosen'.Sublist groups) :
    targetActions contractAddress chosen = targetActions contractAddress chosen' ↔
      targetList contractAddress chosen = targetList contractAddress chosen' := by
  constructor
  · intro heq
    have hkeys := congrArg OrderedMap.keys heq
    rwa [targetActions, targetActions, keys_ofKeys (targetList_pairwise hindexed h hsub),
      keys_ofKeys (targetList_pairwise hindexed h hsub')] at hkeys
  · intro heq
    rw [targetActions, targetActions, heq]

theorem filter_candidateOf (hindexed : Indexed records) (h : Grouped records groups)
    (hsub : chosen.Sublist groups) :
    ((candidateOf chosen).includedActions.filter fun index =>
        (records[index]?).any fun record => record.action.targets contractAddress) =
      targetList contractAddress chosen := by
  rw [candidateOf, filter_map, targetList]
  congr 1
  refine filter_congr fun record hrecord => ?_
  rw [Function.comp, hindexed.getElem?_index ((h.flatten_subset hsub).subset hrecord)]
  rfl

theorem mem_targetSets (hindexed : Indexed records) (h : Grouped records groups)
    (hbatches : InBatches observed) : t ∈ (targetSets records contractAddress (.split observed)
        (liveCandidates records (.split observed) groups)).keys ↔
      ∃ chosen, Explains groups observed chosen ∧ t = targetList contractAddress chosen := by
  rw [targetSets, mem_keys_ofKeys, mem_map]
  simp only [mem_filter, decide_eq_true_eq, explains_iff, hbatches, true_and,
    mem_liveCandidates hindexed h (prefix_refl groups)]
  constructor
  · rintro ⟨c, ⟨⟨chosen, hsurvives, rfl⟩, heq⟩, rfl⟩
    rw [recordsAt_candidateOf hindexed h hsurvives.1.sublist] at heq
    exact ⟨chosen, ⟨hsurvives, heq⟩, filter_candidateOf hindexed h hsurvives.1.sublist⟩
  · rintro ⟨chosen, ⟨hsurvives, heq⟩, rfl⟩
    refine ⟨candidateOf chosen, ⟨⟨chosen, hsurvives, rfl⟩, ?_⟩,
      filter_candidateOf hindexed h hsurvives.1.sublist⟩
    rw [recordsAt_candidateOf hindexed h hsurvives.1.sublist]
    exact heq

theorem exploreGroups_cases (records : List (ActionRecord M)) (batches : OperationBatches)
    (candidates : OrderedMap OutcomeCandidate Unit) (rest : List (List (ActionRecord M))) :
    let final := rest.foldl (nextCandidates records batches) candidates
    exploreGroups records batches candidates rest = .ok final ∨
    exploreGroups records batches candidates rest = .error .outcomeMismatch ∧ final.keys = [] ∨
    exploreGroups records batches candidates rest = .error .ambiguousOutcome ∧
      ∃ done ∈ rest.inits,
        maxOutcomeCandidates < (done.foldl (nextCandidates records batches) candidates).size := by
  have hnone : ∀ (rest : List (List (ActionRecord M))) (c : OrderedMap OutcomeCandidate Unit),
      c.keys = [] → (rest.foldl (nextCandidates records batches) c).keys = [] := by
    intro rest
    induction rest with
    | nil => exact fun c hc => hc
    | cons _ _ ih =>
      intro c hc
      refine ih _ (eq_nil_iff_forall_not_mem.mpr fun k hk => ?_)
      obtain ⟨candidate, hcandidate, -⟩ := mem_nextCandidates.mp hk
      rw [hc] at hcandidate
      cases hcandidate
  induction rest generalizing candidates with
  | nil => exact .inl rfl
  | cons group rest ih =>
    simp only [exploreGroups, foldl_cons]
    by_cases hempty : (nextCandidates records batches candidates group).size = 0
    · rw [if_pos hempty]
      refine .inr (.inl ⟨rfl, hnone rest _ ?_⟩)
      rw [← length_eq_zero_iff, length_keys, hempty]
    rw [if_neg hempty]
    by_cases hmany : maxOutcomeCandidates < (nextCandidates records batches candidates group).size
    · rw [if_pos hmany]
      refine .inr (.inr ⟨rfl, [group], ?_, hmany⟩)
      rw [mem_inits]
      exact cons_prefix_cons.mpr ⟨rfl, nil_prefix⟩
    rw [if_neg hmany]
    rcases ih (nextCandidates records batches candidates group) with
      hok | hmismatch | ⟨hambiguous, done, hdone, hsize⟩
    · exact .inl hok
    · exact .inr (.inl hmismatch)
    · refine .inr (.inr ⟨hambiguous, group :: done, ?_, hsize⟩)
      rw [mem_inits] at hdone ⊢
      exact cons_prefix_cons.mpr ⟨rfl, hdone⟩

theorem infer_cases (contractAddress : Bytes32) (observed : List CanonicalMidnightOperation)
    (hindexed : Indexed records) (h : Grouped records groups) :
    (∃ sets : List (List ℕ), sets.Nodup ∧ (∀ t, t ∈ sets ↔
        ∃ chosen, Explains groups observed chosen ∧ t = targetList contractAddress chosen) ∧
      inferIncludedTargetActions records contractAddress false observed = onlyTargetSet sets) ∨
    inferIncludedTargetActions records contractAddress false observed = .error .ambiguousOutcome ∧
      ∃ batches, observedOperationBatches observed = .ok batches ∧ ∃ done ∈ groups.inits,
        maxOutcomeCandidates < (liveCandidates records batches done).size := by
  have hobserved := observedOperationBatches_eq observed
  rw [inferIncludedTargetActions, actionGroups_eq h, hobserved]
  by_cases hbatches : InBatches observed
  swap
  · -- Operations out of their batches are the report of no choice.
    refine .inl ⟨[], nodup_nil, ?_, by rw [if_neg hbatches]; rfl⟩
    intro t
    simp only [not_mem_nil, explains_iff, hbatches, false_and, exists_false]
  rw [if_pos hbatches]
  have hmem (t : List ℕ) : t ∈ (targetSets records contractAddress (.split observed)
      (liveCandidates records (.split observed) groups)).keys ↔ _ :=
    mem_targetSets hindexed h hbatches
  rcases exploreGroups_cases records (.split observed) (ofKeys [⟨[]⟩]) groups with
    hok | ⟨hmismatch, hnone⟩ | ⟨hambiguous, done, hdone, hsize⟩
  · exact .inl ⟨_, nodup_keys _, hmem, by
      simp only [Bool.false_eq_true, if_false, bind, Except.bind, hok, liveCandidates]⟩
  · refine .inl ⟨[], nodup_nil, ?_, by
      simp only [Bool.false_eq_true, if_false, bind, Except.bind, hmismatch, onlyTargetSet]⟩
    intro t
    rw [← hmem t, targetSets, liveCandidates, hnone]
    simp
  · exact .inr ⟨by simp only [Bool.false_eq_true, if_false, bind, Except.bind, hambiguous],
      _, rfl, done, hdone, hsize⟩

theorem onlyTargetSet_verdict {sets} (hindexed : Indexed records) (h : Grouped records groups)
    (hnodup : sets.Nodup) (hmem : ∀ t, t ∈ sets ↔
      ∃ chosen, Explains groups observed chosen ∧ t = targetList contractAddress chosen) :
    (∀ actions, onlyTargetSet sets = .ok actions ↔ (∃ chosen, Explains groups observed chosen) ∧
      ∀ chosen, Explains groups observed chosen → targetActions contractAddress chosen = actions) ∧
    (onlyTargetSet sets = .error .ambiguousOutcome ↔
      ∃ chosen chosen', Explains groups observed chosen ∧ Explains groups observed chosen' ∧
        targetActions contractAddress chosen ≠ targetActions contractAddress chosen') ∧
    (onlyTargetSet sets = .error .outcomeMismatch ↔
      ¬ ∃ chosen, Explains groups observed chosen) := by
  have hset (chosen : List (List (ActionRecord M))) (hc : Explains groups observed chosen) :
      targetList contractAddress chosen ∈ sets :=
    (hmem _).mpr ⟨chosen, hc, rfl⟩
  cases sets with
  | nil =>
    have hnone (chosen : List (List (ActionRecord M))) : ¬ Explains groups observed chosen :=
      fun hc => absurd (hset chosen hc) not_mem_nil
    simp [onlyTargetSet, hnone]
  | cons first sets =>
    obtain ⟨one, hone, hfirst⟩ := (hmem first).mp mem_cons_self
    cases sets with
    | nil =>
      -- Every explanation has the one target set.
      have hsame (chosen : List (List (ActionRecord M))) (hc : Explains groups observed chosen) :
          targetActions contractAddress chosen = ofKeys first := by
        rw [targetActions, mem_singleton.mp (hset chosen hc)]
      refine ⟨fun actions => ?_, ?_, ?_⟩
      · rw [onlyTargetSet, Except.ok.injEq]
        constructor
        · rintro rfl
          exact ⟨⟨one, hone⟩, hsame⟩
        · intro hall
          rw [← hsame one hone, hall.2 one hone]
      · simp only [onlyTargetSet, reduceCtorEq, false_iff]
        rintro ⟨chosen, chosen', hc, hc', hne⟩
        exact hne ((hsame chosen hc).trans (hsame chosen' hc').symm)
      · simp only [onlyTargetSet, reduceCtorEq, false_iff, not_not]
        exact ⟨one, hone⟩
    | cons second =>
      -- Two of them differ.
      obtain ⟨two, htwo, hsecond⟩ := (hmem second).mp (by simp)
      have hne : targetActions contractAddress one ≠ targetActions contractAddress two := by
        rw [Ne, targetActions_inj hindexed h hone.1.sublist htwo.1.sublist, ← hfirst, ← hsecond]
        rintro rfl
        simp at hnodup
      refine ⟨fun actions => ?_, ?_, ?_⟩
      · simp only [onlyTargetSet, reduceCtorEq, false_iff]
        intro hall
        exact hne ((hall.2 one hone).trans (hall.2 two htwo).symm)
      · simp only [onlyTargetSet, true_iff]
        exact ⟨one, two, hone, htwo, hne⟩
      · simp only [onlyTargetSet, Except.error.injEq, reduceCtorEq, false_iff, not_not]
        exact ⟨one, hone⟩

/-- **The inference is exhaustive.**  As long as there are never more candidates than the cap, it
answers what going through all choices of segments would; and an answer it gives is always that of
every explanation. -/
theorem inference_exhaustive (hindexed : Indexed records) (hgroups : Grouped records groups)
    (contractAddress : Bytes32) (observed : List CanonicalMidnightOperation) :
    ((∀ batches, observedOperationBatches observed = .ok batches → ∀ done ∈ groups.inits,
        (liveCandidates records batches done).size ≤ maxOutcomeCandidates) → (∀ actions,
        inferIncludedTargetActions records contractAddress false observed = .ok actions ↔
          (∃ chosen, Explains groups observed chosen) ∧ ∀ chosen, Explains groups observed chosen →
            targetActions contractAddress chosen = actions) ∧
      (inferIncludedTargetActions records contractAddress false observed =
          .error .ambiguousOutcome ↔
        ∃ chosen chosen', Explains groups observed chosen ∧ Explains groups observed chosen' ∧
          targetActions contractAddress chosen ≠ targetActions contractAddress chosen') ∧
      (inferIncludedTargetActions records contractAddress false observed =
          .error .outcomeMismatch ↔ ¬ ∃ chosen, Explains groups observed chosen)) ∧
    ∀ actions, inferIncludedTargetActions records contractAddress false observed = .ok actions →
      (∃ chosen, Explains groups observed chosen) ∧ ∀ chosen, Explains groups observed chosen →
        targetActions contractAddress chosen = actions := by
  rcases infer_cases contractAddress observed hindexed hgroups with
    ⟨sets, hnodup, hmem, heq⟩ | ⟨heq, batches, hbatches, done, hdone, hsize⟩
  · have hverdict := onlyTargetSet_verdict hindexed hgroups hnodup hmem
    rw [heq]
    exact ⟨fun _ => hverdict, fun actions => (hverdict.1 actions).mp⟩
  · rw [heq]
    refine ⟨fun hcap => absurd (hcap batches hbatches done hdone) (Nat.not_le.mpr hsize), ?_⟩
    intro actions hok
    cases hok

end Specification

namespace Sample

def midnight : MidnightTypes where
  Transaction := Unit
  Intent := Unit
  CallDetails := Unit
  Program := Unit
  StateValue := Unit
  Operations := Unit
  Token := Unit
  OtherEffects := Unit
  tokenOrder := inferInstance
  decEffects := inferInstance

def address (byte : UInt8) : Bytes32 := ⟨List.replicate 32 byte, by simp⟩

def callOf (byte : UInt8) : ContractAction midnight := .call ⟨address byte, none, none, ()⟩

def groups : List (List (ActionRecord midnight)) :=
  [[⟨0, 0, callOf 1⟩], [⟨1, 1, callOf 2⟩], [⟨2, 2, callOf 2⟩]]

def observed : List CanonicalMidnightOperation := [.call (address 1), .call (address 2)]

theorem grouped : Grouped groups.flatten groups where
  flatten := rfl
  nonempty := by decide
  uniform := by decide
  distinct := by decide

end Sample

open Sample

theorem inference_exhaustive_two_explanations :
    Indexed groups.flatten ∧ Grouped groups.flatten groups ∧
    inferIncludedTargetActions groups.flatten (address 1) false observed =
      .ok (OrderedMap.ofKeys [0]) ∧ (∀ chosen, Explains groups observed chosen →
      targetActions (address 1) chosen = OrderedMap.ofKeys [0]) ∧
    ∃ chosen chosen', Explains groups observed chosen ∧ Explains groups observed chosen' ∧
      targetActions (address 2) chosen ≠ targetActions (address 2) chosen' := by
  have hcap : ∀ batches, observedOperationBatches observed = .ok batches → ∀ done ∈ groups.inits,
        (liveCandidates groups.flatten batches done).size ≤ maxOutcomeCandidates := by
    intro batches hbatches
    cases hbatches
    decide +kernel
  have hfirst : inferIncludedTargetActions groups.flatten (address 1) false
      observed = .ok (ofKeys [0]) := by
    decide +kernel
  have hother : inferIncludedTargetActions groups.flatten (address 2) false
      observed = .error .ambiguousOutcome := by
    decide +kernel
  have hindexed : Indexed groups.flatten := rfl
  exact ⟨hindexed, grouped, hfirst,
    (((inference_exhaustive hindexed grouped _ _).1 hcap).1 _ |>.mp hfirst).2,
    ((inference_exhaustive hindexed grouped _ _).1 hcap).2.1.mp hother⟩

end Oxid.PassportVault
