import Mathlib.Data.Char
import Mathlib.Data.List.Lex
import Mathlib.Data.Prod.Lex
import Oxid.Foundation
import Oxid.Latch
import Oxid.OrderedMap

/-!
# The activity of the vault

`passport-vault/application/src/activity.rs` keeps a bounded list of the operations on the
vault.  A record is updated until it has a terminal status; the oldest of more than 128 are
dropped.  Each method is one critical section.
-/

namespace Oxid.PassportVault

open Foundation List UInt64

inductive PlatformError
  | clockUnavailable | randomnessUnavailable
  deriving DecidableEq

inductive PassportVaultCallKind
  | createLock | depositToLock | claimFromLock | withdrawFromLock
  deriving DecidableEq

def maxPassportVaultActivityRecords : ℕ := 128

structure PassportVaultActivityId where
  value : UInt64
  deriving DecidableEq

inductive PassportVaultActivitySource
  | standaloneVault | midnightContractCall
  deriving DecidableEq

inductive PassportVaultActivityStatus
  | pending | confirmed | failed | refused | cancelled | timedOut | outcomeUnknown
  deriving DecidableEq

/-- A call that has timed out may still be confirmed. -/
def PassportVaultActivityStatus.isTerminal : PassportVaultActivityStatus → Bool
  | .confirmed | .failed | .refused | .cancelled => true
  | .pending | .timedOut | .outcomeUnknown => false

inductive PassportVaultActivityFinality
  | pending | final | unknown
  deriving DecidableEq

def PassportVaultActivityStatus.finality :
    PassportVaultActivityStatus → PassportVaultActivityFinality
  | .pending => .pending
  | .timedOut | .outcomeUnknown => .unknown
  | .confirmed | .failed | .refused | .cancelled => .final

structure PassportVaultActivityRecord where
  id : PassportVaultActivityId
  profileId : String
  source : PassportVaultActivitySource
  operation : PassportVaultCallKind
  status : PassportVaultActivityStatus
  finality : PassportVaultActivityFinality
  (observedAtMillis lockId : Option UInt64)
  deriving DecidableEq

/-- The key of `contract_drafts`. -/
structure ContractDraft where
  (profileId draftId : String)
  deriving DecidableEq

instance instLinearOrderContractDraft : LinearOrder ContractDraft :=
  LinearOrder.lift' (fun d => toLex (d.profileId.toList, d.draftId.toList)) fun a b h => by
    obtain ⟨hprofile, hdraft⟩ := Prod.mk.inj (toLex.injective h)
    cases a
    cases b
    congr 1
    · exact String.toList_inj.mp hprofile
    · exact String.toList_inj.mp hdraft

structure PassportVaultActivityState where
  nextId : UInt64
  records : List PassportVaultActivityRecord
  contractDrafts : OrderedMap ContractDraft PassportVaultActivityId

structure PassportVaultActivityView where
  (source retention : String)
  records : List PassportVaultActivityRecord

namespace PassportVaultActivityState

def default : PassportVaultActivityState := ⟨0, [], .empty⟩

/-- A record takes the entry of its draft with it. -/
def evict : List PassportVaultActivityRecord → OrderedMap ContractDraft PassportVaultActivityId →
    List PassportVaultActivityRecord × OrderedMap ContractDraft PassportVaultActivityId
  | [], drafts => ([], drafts)
  | evicted :: records, drafts =>
    if maxPassportVaultActivityRecords < (evicted :: records).length then
      evict records (drafts.retain fun _ value => value ≠ evicted.id)
    else (evicted :: records, drafts)

/-- A draft that has a record gets no second one. -/
def beginInner (clock : Except PlatformError UInt64) (contractDraft : Option ContractDraft)
    (profileId : String) (source : PassportVaultActivitySource)
    (operation : PassportVaultCallKind) (lockId : Option UInt64)
    (state : PassportVaultActivityState) :
    Option PassportVaultActivityId × PassportVaultActivityState :=
  match contractDraft.bind state.contractDrafts.find? with
  | some existing => (some existing, state)
  | none =>
    match checkedAdd64 state.nextId 1 with
    | none => (none, state)
    | some nextId =>
      let id : PassportVaultActivityId := ⟨nextId⟩
      let record : PassportVaultActivityRecord :=
        ⟨id, profileId, source, operation, .pending, .pending, clock.toOption, lockId⟩
      let contractDrafts := match contractDraft with
        | some draft => state.contractDrafts.insert draft id
        | none => state.contractDrafts
      let kept := evict (state.records ++ [record]) contractDrafts
      (some id, ⟨nextId, kept.1, kept.2⟩)

def begin (clock : Except PlatformError UInt64) (profileId : String)
    (source : PassportVaultActivitySource) (operation : PassportVaultCallKind)
    (lockId : Option UInt64) :
    PassportVaultActivityState → Option PassportVaultActivityId × PassportVaultActivityState :=
  beginInner clock none profileId source operation lockId

def beginContract (clock : Except PlatformError UInt64) (draftId profileId : String)
    (operation : PassportVaultCallKind) (lockId : Option UInt64) :
    PassportVaultActivityState → Option PassportVaultActivityId × PassportVaultActivityState :=
  beginInner clock (some ⟨profileId, draftId⟩) profileId .midnightContractCall operation lockId

/-- A terminal status stays, with its time. -/
def updateRecord (clock : Except PlatformError UInt64) (status : PassportVaultActivityStatus)
    (record : PassportVaultActivityRecord) : PassportVaultActivityRecord :=
  if record.status = status ∨ record.status.isTerminal then record
  else { record with
    status := status
    finality := status.finality
    -- An unavailable clock keeps the time observed before.
    observedAtMillis := clock.toOption.or record.observedAtMillis }

def updateFirst (id : PassportVaultActivityId)
    (change : PassportVaultActivityRecord → PassportVaultActivityRecord) :
    List PassportVaultActivityRecord → List PassportVaultActivityRecord
  | [] => []
  | record :: records =>
    if record.id = id then change record :: records
    else record :: updateFirst id change records

def update (clock : Except PlatformError UInt64) (id : PassportVaultActivityId)
    (status : PassportVaultActivityStatus) (state : PassportVaultActivityState) :
    PassportVaultActivityState :=
  { state with records := updateFirst id (updateRecord clock status) state.records }

def updateContract (clock : Except PlatformError UInt64) (draft : ContractDraft)
    (status : PassportVaultActivityStatus) (state : PassportVaultActivityState) :
    PassportVaultActivityState :=
  match state.contractDrafts.find? draft with
  | some id => state.update clock id status
  | none => state

/-- Latest first. -/
def list (state : PassportVaultActivityState) (profileId : String) : PassportVaultActivityView where
  source := "application_event_projection"
  retention := "process_local_bounded_not_backed_up"
  records := state.records.reverse.filter fun record => record.profileId = profileId

def record? (state : PassportVaultActivityState) (id : PassportVaultActivityId) :
    Option PassportVaultActivityRecord :=
  state.records.find? fun record => record.id = id

/-! ## The invariant -/

/-- Ids increase, and every draft leads to a record of its own profile. -/
structure Coherent (s : PassportVaultActivityState) : Prop where
  ordered : (s.records.map (·.id.value)).Pairwise (· < ·)
  issued : ∀ r ∈ s.records, r.id.value ≤ s.nextId
  retained : ∀ draft id, s.contractDrafts.find? draft = some id →
    ∃ r ∈ s.records, r.id = id ∧ r.profileId = draft.profileId
  distinct : ∀ draft draft' id, s.contractDrafts.find? draft = some id →
    s.contractDrafts.find? draft' = some id → draft = draft'
  settled : ∀ r ∈ s.records, r.finality = r.status.finality

theorem coherent_default : Coherent default where
  ordered := .nil
  issued := by simp [default]
  retained := by simp [default]
  distinct := by simp [default]
  settled := by simp [default]

variable {s p q : PassportVaultActivityState} {id id' : PassportVaultActivityId}
  {draft : ContractDraft} {r : PassportVaultActivityRecord} {clock : Except PlatformError UInt64}
  {status : PassportVaultActivityStatus}

theorem find?_eq_some_of_ordered {records : List PassportVaultActivityRecord}
    (h : (records.map (·.id.value)).Pairwise (· < ·)) (hr : r ∈ records) :
    records.find? (fun a => a.id = r.id) = some r := by
  induction records with
  | nil => cases hr
  | cons a _ ih =>
    rw [map_cons, pairwise_cons] at h
    obtain ⟨ha, hrecords⟩ := h
    by_cases heq : a.id = r.id
    · rw [find?_cons_of_pos (by simp [heq])]
      rcases mem_cons.mp hr with rfl | hmem
      · rfl
      · have hlt := ha r.id.value (mem_map_of_mem hmem)
        rw [heq] at hlt
        exact absurd hlt (lt_irrefl _)
    · rw [find?_cons_of_neg (by simp [heq])]
      rcases mem_cons.mp hr with rfl | hmem
      · exact absurd rfl heq
      · exact ih hrecords hmem

theorem Coherent.record?_eq_some_iff (h : Coherent s) :
    s.record? id = some r ↔ r ∈ s.records ∧ r.id = id := by
  constructor
  · intro hr
    exact ⟨mem_of_find?_eq_some hr, by simpa using find?_some hr⟩
  · rintro ⟨hr, rfl⟩
    exact find?_eq_some_of_ordered h.ordered hr

theorem Coherent.issued_draft (h : Coherent s) (hd : s.contractDrafts.find? draft = some id) :
    id.value ≤ s.nextId := by
  obtain ⟨r, hr, rfl, -⟩ := h.retained draft id hd
  exact h.issued r hr

/-! ## Updates -/

@[simp] theorem id_updateRecord : (updateRecord clock status r).id = r.id := by
  rw [updateRecord]
  split_ifs <;> rfl

@[simp] theorem profileId_updateRecord : (updateRecord clock status r).profileId = r.profileId := by
  rw [updateRecord]
  split_ifs <;> rfl

theorem status_updateRecord : (updateRecord clock status r).status =
      Latch.write PassportVaultActivityStatus.isTerminal r.status status := by
  rw [updateRecord, Latch.write]
  by_cases hterminal : r.status.isTerminal
  · rw [if_pos (.inr hterminal), if_pos hterminal]
  by_cases heq : r.status = status
  · rw [if_pos (.inl heq), if_neg hterminal, heq]
  · rw [if_neg (not_or.mpr ⟨heq, hterminal⟩), if_neg hterminal]

theorem settled_updateRecord (h : r.finality = r.status.finality) :
    (updateRecord clock status r).finality = (updateRecord clock status r).status.finality := by
  rw [updateRecord]
  split_ifs
  · exact h
  · rfl

section UpdateFirst
variable {change : PassportVaultActivityRecord → PassportVaultActivityRecord}
  {records : List PassportVaultActivityRecord}

theorem mem_updateFirst (h : r ∈ updateFirst id change records) :
    r ∈ records ∨ ∃ a ∈ records, r = change a := by
  induction records with
  | nil => cases h
  | cons a _ ih =>
    rw [updateFirst] at h
    split_ifs at h with heq
    · rcases mem_cons.mp h with rfl | hmem
      · exact .inr ⟨a, mem_cons_self, rfl⟩
      · exact .inl (mem_cons_of_mem a hmem)
    · rcases mem_cons.mp h with rfl | hmem
      · exact .inl mem_cons_self
      · rcases ih hmem with hmem | ⟨b, hb, hr⟩
        · exact .inl (mem_cons_of_mem a hmem)
        · exact .inr ⟨b, mem_cons_of_mem a hb, hr⟩

theorem map_id_updateFirst (hchange : ∀ a, (change a).id = a.id) :
    (updateFirst id change records).map (·.id) = records.map (·.id) := by
  induction records with
  | nil => rfl
  | cons a _ ih =>
    rw [updateFirst]
    split_ifs
    · rw [map_cons, map_cons, hchange]
    · rw [map_cons, map_cons, ih]

theorem find?_updateFirst (hchange : ∀ a, (change a).id = a.id) :
    (updateFirst id change records).find? (fun a => a.id = id') =
      if id' = id then (records.find? fun a => a.id = id).map change
      else records.find? fun a => a.id = id' := by
  induction records with
  | nil => simp [updateFirst]
  | cons a _ ih =>
    by_cases ha : a.id = id
    · by_cases hid : id' = id
      · simp [updateFirst, ha, hid, hchange]
      · have hne : ¬ id = id' := fun heq => hid heq.symm
        simp [updateFirst, ha, hid, hne, hchange]
    · by_cases hid : id' = id
      · simp only [hid, if_true] at ih
        simp [updateFirst, ha, hid, ih]
      · simp only [hid, if_false] at ih
        simp [updateFirst, ha, hid, ih, find?_cons]

end UpdateFirst

theorem record?_update : (s.update clock id status).record? id' =
      if id' = id then (s.record? id).map (updateRecord clock status) else s.record? id' :=
  find?_updateFirst fun _ => id_updateRecord

theorem map_id_update (s : PassportVaultActivityState) (clock : Except PlatformError UInt64)
    (id : PassportVaultActivityId) (status : PassportVaultActivityStatus) :
    (s.update clock id status).records.map (·.id) = s.records.map (·.id) :=
  map_id_updateFirst fun _ => id_updateRecord

theorem coherent_update (h : Coherent s) : Coherent (s.update clock id status) := by
  refine ⟨?_, ?_, ?_, h.distinct, ?_⟩
  · have hids := congrArg (map (·.value)) (map_id_update s clock id status)
    rw [map_map, map_map] at hids
    exact hids ▸ h.ordered
  · intro r hr
    rcases mem_updateFirst hr with hr | ⟨a, ha, rfl⟩
    · exact h.issued r hr
    · rw [id_updateRecord]
      exact h.issued a ha
  · intro draft id'' hd
    obtain ⟨r, hr, hid, hprofile⟩ := h.retained draft id'' hd
    have hfound : s.record? id'' = some r := h.record?_eq_some_iff.mpr ⟨hr, hid⟩
    have hupdated : ∃ r', (s.update clock id status).record? id'' = some r' ∧
        r'.profileId = r.profileId := by
      rw [record?_update]
      by_cases heq : id'' = id
      · rw [if_pos heq, ← heq, hfound]
        exact ⟨updateRecord clock status r, rfl, profileId_updateRecord⟩
      · rw [if_neg heq, hfound]
        exact ⟨r, rfl, rfl⟩
    obtain ⟨r', hr', hprofile'⟩ := hupdated
    exact ⟨r', mem_of_find?_eq_some hr', by simpa using find?_some hr',
      hprofile'.trans hprofile⟩
  · intro r hr
    rcases mem_updateFirst hr with hr | ⟨a, ha, rfl⟩
    · exact h.settled r hr
    · exact settled_updateRecord (h.settled a ha)

theorem exists_mem_update {id''} :
    (∃ r ∈ (s.update clock id status).records, r.id = id'') ↔ ∃ r ∈ s.records, r.id = id'' := by
  rw [← mem_map, ← mem_map, map_id_update]

theorem coherent_updateContract (h : Coherent s) :
    Coherent (s.updateContract clock draft status) := by
  rw [updateContract]
  split
  · exact coherent_update h
  · exact h

theorem contractDrafts_updateContract :
    (s.updateContract clock draft status).contractDrafts = s.contractDrafts := by
  rw [updateContract]
  split <;> rfl

theorem nextId_updateContract : (s.updateContract clock draft status).nextId = s.nextId := by
  rw [updateContract]
  split <;> rfl

theorem exists_mem_updateContract {id''} :
    (∃ r ∈ (s.updateContract clock draft status).records, r.id = id'') ↔
      ∃ r ∈ s.records, r.id = id'' := by
  rw [updateContract]
  split
  · exact exists_mem_update
  · exact Iff.rfl

theorem record?_updateContract {draft'} (h : Coherent s)
    (hd : s.contractDrafts.find? draft' = some id) :
    (s.updateContract clock draft status).record? id =
      if draft' = draft then (s.record? id).map (updateRecord clock status) else s.record? id := by
  rw [updateContract]
  split
  · next id' hd' =>
      rw [record?_update]
      by_cases heq : draft' = draft
      · rw [heq, hd', Option.some.injEq] at hd
        rw [if_pos hd.symm, if_pos heq, hd]
      · have hne : id ≠ id' := fun hid => heq (h.distinct _ _ id hd (hid ▸ hd'))
        rw [if_neg hne, if_neg heq]
  · next hnone =>
      have hne : draft' ≠ draft := by
        intro heq
        rw [heq, hnone] at hd
        cases hd
      rw [if_neg hne]

theorem evict_spec (records : List PassportVaultActivityRecord)
    (drafts : OrderedMap ContractDraft PassportVaultActivityId) :
    ∃ gone, records = gone ++ (evict records drafts).1 ∧
      ∀ draft id, (evict records drafts).2.find? draft = some id ↔
        drafts.find? draft = some id ∧ ∀ r ∈ gone, r.id ≠ id := by
  induction records generalizing drafts with
  | nil => exact ⟨[], rfl, by simp [evict]⟩
  | cons a _ ih =>
    rw [evict]
    split_ifs
    · obtain ⟨gone, hrecords, hdrafts⟩ := ih (drafts.retain fun _ value => value ≠ a.id)
      refine ⟨a :: gone, by rw [cons_append, ← hrecords], ?_⟩
      intro draft id
      rw [hdrafts, OrderedMap.find?_retain_eq_some_iff, and_assoc, forall_mem_cons,
        decide_eq_true_eq]
      exact and_congr_right fun _ => and_congr_left fun _ => ne_comm
    · exact ⟨[], rfl, by simp⟩

/-- A call that got a record: `gone` are those dropped for it. -/
structure Begun (contractDraft : Option ContractDraft) (profileId : String)
    (p q : PassportVaultActivityState) (record : PassportVaultActivityRecord)
    (gone : List PassportVaultActivityRecord) : Prop where
  unmapped : ∀ draft, contractDraft = some draft → p.contractDrafts.find? draft = none
  fresh : record.id.value.toNat = p.nextId.toNat + 1
  next : q.nextId = record.id.value
  pending : record.status = .pending ∧ record.finality = .pending
  owner : record.profileId = profileId
  records : p.records ++ [record] = gone ++ q.records
  drafts : ∀ draft id, q.contractDrafts.find? draft = some id ↔
    (contractDraft = some draft ∧ id = record.id ∨ p.contractDrafts.find? draft = some id) ∧
      ∀ r ∈ gone, r.id ≠ id

theorem beginInner_cases (clock : Except PlatformError UInt64)
    (contractDraft : Option ContractDraft) (profileId : String)
    (source : PassportVaultActivitySource) (operation : PassportVaultCallKind)
    (lockId : Option UInt64) (p : PassportVaultActivityState) :
    ((beginInner clock contractDraft profileId source operation lockId p).2 = p ∧
        (contractDraft = none →
          (beginInner clock contractDraft profileId source operation lockId p).1 = none)) ∨
      ∃ record gone, Begun contractDraft profileId p
        (beginInner clock contractDraft profileId source operation lockId p).2 record gone ∧
        (beginInner clock contractDraft profileId source operation lockId p).1 =
          some record.id := by
  rw [beginInner]
  split
  · next hmapped =>
      refine .inl ⟨rfl, fun hnone => ?_⟩
      rw [hnone] at hmapped
      cases hmapped
  · next hunmapped =>
      split
      · exact .inl ⟨rfl, fun _ => rfl⟩
      · next nextId hnext =>
          have hfresh := checkedAdd64_eq_some_iff.mp hnext
          obtain ⟨gone, hrecords, hdrafts⟩ := evict_spec _ _
          refine .inr ⟨_, gone, ⟨?_, hfresh, rfl, ⟨rfl, rfl⟩, rfl, hrecords, ?_⟩, rfl⟩
          · rintro draft rfl
            exact hunmapped
          · intro draft id
            rw [hdrafts]
            refine and_congr_left fun _ => ?_
            cases contractDraft with
            | none => simp
            | some draft' =>
              by_cases heq : draft = draft'
              · subst heq
                have hnone : p.contractDrafts.find? draft = none := hunmapped
                simp [hnone, eq_comm]
              · have hne : ¬ draft' = draft := fun h => heq h.symm
                simp [OrderedMap.find?_insert, heq, hne]

section Begun
variable {contractDraft : Option ContractDraft} {profileId : String}
  {record : PassportVaultActivityRecord} {gone : List PassportVaultActivityRecord}

section
variable (h : Begun contractDraft profileId p q record gone)
include h

theorem Begun.mem_of_mem (hr : r ∈ q.records) : r ∈ p.records ∨ r = record := by
  have hmem : r ∈ p.records ++ [record] := h.records ▸ mem_append_right gone hr
  simpa using hmem

theorem Begun.mem_of_not_gone
    (hr : r ∈ p.records ∨ r = record) (hgone : ∀ a ∈ gone, a.id ≠ r.id) : r ∈ q.records := by
  have hmem : r ∈ gone ++ q.records := by
    rw [← h.records]
    simpa using hr
  rcases mem_append.mp hmem with hmem | hmem
  · exact absurd rfl (hgone r hmem)
  · exact hmem

theorem Begun.lt_fresh (hid : id.value ≤ p.nextId) : id.value < record.id.value := by
  have hfresh := h.fresh
  rw [le_iff_toNat_le] at hid
  rw [lt_iff_toNat_lt]
  omega

theorem Begun.nextId_le : p.nextId ≤ q.nextId := by
  have hfresh := h.fresh
  rw [h.next, le_iff_toNat_le]
  omega

theorem Begun.ordered (hp : Coherent p) :
    (gone.map (·.id.value) ++ q.records.map (·.id.value)).Pairwise (· < ·) := by
  rw [← map_append, ← h.records, map_append, pairwise_append]
  refine ⟨hp.ordered, by simp, ?_⟩
  intro a ha b hb
  obtain ⟨r, hr, rfl⟩ := mem_map.mp ha
  obtain rfl : b = record.id.value := by simpa using hb
  exact h.lt_fresh (hp.issued r hr)

theorem coherent_begun (hp : Coherent p)
    (howner : ∀ draft, contractDraft = some draft → draft.profileId = profileId) : Coherent q := by
  refine ⟨?_, ?_, ?_, ?_, ?_⟩
  · exact (pairwise_append.mp (h.ordered hp)).2.1
  · intro r hr
    rcases h.mem_of_mem hr with hr | rfl
    · exact le_trans (hp.issued r hr) h.nextId_le
    · exact h.next ▸ le_refl _
  · intro draft id hd
    obtain ⟨hsource, hgone⟩ := (h.drafts draft id).mp hd
    rcases hsource with ⟨hdraft, rfl⟩ | hd
    · exact ⟨record, h.mem_of_not_gone (.inr rfl) hgone, rfl,
        h.owner.trans (howner draft hdraft).symm⟩
    · obtain ⟨r, hr, rfl, hprofile⟩ := hp.retained draft id hd
      exact ⟨r, h.mem_of_not_gone (.inl hr) hgone, rfl, hprofile⟩
  · intro draft draft' id hd hd'
    obtain ⟨hsource, -⟩ := (h.drafts draft id).mp hd
    obtain ⟨hsource', -⟩ := (h.drafts draft' id).mp hd'
    rcases hsource with ⟨hnew, hid⟩ | hold
    · rcases hsource' with ⟨hnew', -⟩ | hold'
      · exact Option.some.inj (hnew.symm.trans hnew')
      · have hlt := h.lt_fresh (hp.issued_draft hold')
        rw [hid] at hlt
        exact absurd hlt (lt_irrefl _)
    · rcases hsource' with ⟨-, hid'⟩ | hold'
      · have hlt := h.lt_fresh (hp.issued_draft hold)
        rw [hid'] at hlt
        exact absurd hlt (lt_irrefl _)
      · exact hp.distinct draft draft' id hold hold'
  · intro r hr
    rcases h.mem_of_mem hr with hr | rfl
    · exact hp.settled r hr
    · rw [h.pending.1, h.pending.2]
      rfl

theorem Begun.mem_of_issued (hr : r ∈ q.records) (hid : r.id.value ≤ p.nextId) : r ∈ p.records := by
  rcases h.mem_of_mem hr with hr | rfl
  · exact hr
  · exact absurd (h.lt_fresh hid) (lt_irrefl _)

theorem Begun.mapped_of_mem (hp : Coherent p) (hr : r ∈ q.records)
    (hd : p.contractDrafts.find? draft = some r.id) : q.contractDrafts.find? draft = some r.id := by
  refine (h.drafts draft r.id).mpr ⟨.inr hd, ?_⟩
  intro a ha heq
  have hlt := (pairwise_append.mp (h.ordered hp)).2.2 a.id.value (mem_map_of_mem ha)
    r.id.value (mem_map_of_mem hr)
  rw [heq] at hlt
  exact lt_irrefl _ hlt

theorem Begun.record?_of_unmapped (hq : Coherent q) (hnone : p.contractDrafts.find? draft = none)
    (hd : q.contractDrafts.find? draft = some id) : q.record? id = some record := by
  obtain ⟨hsource, hgone⟩ := (h.drafts draft id).mp hd
  rcases hsource with ⟨-, rfl⟩ | hold
  · rw [hq.record?_eq_some_iff]
    exact ⟨h.mem_of_not_gone (.inr rfl) hgone, rfl⟩
  · rw [hnone] at hold
    cases hold

end

end Begun

end PassportVaultActivityState
end Oxid.PassportVault
