import Oxid.PassportVault.ContractCall
import Oxid.Transition.Run

/-!
# What the activity shows of a call

A use case writes to the activity store at most once, at its end.  The status of a record is a
latch: it is the first terminal one any use case told about the draft, errors of refused calls
included.
-/

namespace Oxid.PassportVault
open PassportVaultActivityStatus

open Foundation Result Transaction Transition PassportVaultActivityState ContractCallUseCase
  PassportVaultContractCallService
open Option List UInt64

structure ActivitySystem where
  activity : PassportVaultActivityState
  standalone : List PassportVaultActivityId

inductive ActivityEvent
  | contractCall (service : PassportVaultContractCallService) (useCase : ContractCallUseCase)
  | standaloneBegins (clock : Except PlatformError UInt64) (profileId : String)
      (operation : PassportVaultCallKind) (lockId : Option UInt64)
  | standaloneFinishes (clock : Except PlatformError UInt64) (id : PassportVaultActivityId)
      (succeeded : Bool)

namespace ActivitySystem

def initial : ActivitySystem := ⟨.default, []⟩

def step (system : ActivitySystem) : ActivityEvent → Option ActivitySystem
  | .contractCall service useCase =>
    some { system with activity := (call system.activity (useCase.perform service)).2 }
  | .standaloneBegins clock profileId operation lockId =>
    -- `begin_activity`.
    let begun := system.activity.begin clock profileId .standaloneVault operation lockId
    some ⟨begun.2, begun.1.toList ++ system.standalone⟩
  | .standaloneFinishes clock id succeeded =>
    -- `finish_activity`, with an identifier that `begin_activity` returned.
    if id ∈ system.standalone then
      some ⟨system.activity.update clock id (if succeeded then .confirmed else .failed),
        system.standalone.erase id⟩
    else none

theorem step_contractCall {service useCase result} (h : useCase.outcome service = result)
    (system : ActivitySystem) : step system (.contractCall service useCase) =
      some { system with activity := useCase.effect service result system.activity } := by
  rw [step, call_perform, h]

def report (draft : ContractDraft) : ActivityEvent → Option PassportVaultActivityStatus
  | .contractCall service useCase =>
    if useCase.draft = some draft then ContractCallUseCase.recorded (useCase.outcome service)
    else none
  | .standaloneBegins .. | .standaloneFinishes .. => none

inductive Effect (p : ActivitySystem) (e : ActivityEvent) (q : ActivitySystem) : Prop
  | unchanged (hq : q = p) (hreport : ∀ draft, report draft e = none)
  | prepared {draft record gone}
      (hbegun : PassportVaultActivityState.Begun (some draft) draft.profileId p.activity q.activity
        record gone)
      (hstandalone : q.standalone = p.standalone) (hreport : ∀ draft, report draft e = none)
  | begun {profileId : String} {record : PassportVaultActivityRecord}
      {gone : List PassportVaultActivityRecord}
      (hbegun : PassportVaultActivityState.Begun none profileId p.activity q.activity record gone)
      (hstandalone : q.standalone = record.id :: p.standalone)
      (hreport : ∀ draft, report draft e = none)
  | recorded {clock : Except PlatformError UInt64} {draft : ContractDraft}
      {status : PassportVaultActivityStatus}
      (hactivity : q.activity = p.activity.updateContract clock draft status)
      (hstandalone : q.standalone = p.standalone)
      (hreport : ∀ draft', report draft' e = if draft' = draft then some status else none)
  | finished {clock : Except PlatformError UInt64} {id : PassportVaultActivityId}
      {status : PassportVaultActivityStatus} (hid : id ∈ p.standalone)
      (hactivity : q.activity = p.activity.update clock id status)
      (hstandalone : q.standalone = p.standalone.erase id)
      (hreport : ∀ draft, report draft e = none)

variable {p q : ActivitySystem} {e : ActivityEvent} {draft : ContractDraft}
  {id : PassportVaultActivityId}

theorem effect_of_draft {service} {useCase : ContractCallUseCase}
    (hdraft : useCase.draft = some draft) (hq : q = { p with
      activity := record service draft (useCase.outcome service) p.activity }) :
    Effect p (.contractCall service useCase) q := by
  have hreport : ∀ draft', report draft' (.contractCall service useCase) =
      if draft' = draft then recorded (useCase.outcome service)
      else none := by
    intro draft'
    by_cases heq : draft' = draft
    · rw [if_pos heq, report, if_pos (by rw [hdraft, heq])]
    · rw [if_neg heq, report, if_neg fun h => heq (some.inj (h.symm.trans hdraft))]
  cases hrecorded : recorded (useCase.outcome service) with
  | none =>
    apply Effect.unchanged
    · rw [hq, record, hrecorded]
      rfl
    · intro draft'
      rw [hreport, hrecorded, ite_self]
  | some status =>
    have hactivity : q.activity = p.activity.updateContract service.activityClock draft status := by
      rw [hq, record, hrecorded]
      rfl
    refine .recorded hactivity (by rw [hq]) fun draft' => ?_
    rw [hreport, hrecorded]

theorem effect_of_step (h : step p e = some q) : Effect p e q := by
  cases e with
  | contractCall service useCase =>
    rw [step_contractCall rfl, some.injEq] at h
    have hnone : useCase.draft = none → ∀ draft, report draft (.contractCall service useCase) =
        none := by
      intro hdraft draft
      rw [report, if_neg (by simp [hdraft])]
    cases useCase with
    | authorize => exact effect_of_draft rfl h.symm
    | submit => exact effect_of_draft rfl h.symm
    | submissionStatus => exact effect_of_draft rfl h.symm
    | cancelSubmission => exact effect_of_draft rfl h.symm
    | reconcileSubmission => exact effect_of_draft rfl h.symm
    | get => exact .unchanged h.symm (hnone rfl)
    | submissionHistory => exact .unchanged h.symm (hnone rfl)
    | prepare command =>
      cases houtcome : (prepare command).outcome service with
      | error =>
        rw [houtcome] at h
        exact .unchanged h.symm (hnone rfl)
      | ok response =>
        rw [houtcome] at h
        cases response with
        | previewed view =>
          subst h
          rcases beginInner_cases service.activityClock
              (some ⟨command.profileId, view.draftId⟩) command.profileId
              .midnightContractCall view.operation view.lockId p.activity with
            ⟨hsame, -⟩ | ⟨record, gone, hbegun, -⟩
          · exact .unchanged (congrArg (ActivitySystem.mk · p.standalone) hsame) (hnone rfl)
          · exact .prepared hbegun rfl (hnone rfl)
        | submitted => exact .unchanged h.symm (hnone rfl)
        | reported => exact .unchanged h.symm (hnone rfl)
        | listed => exact .unchanged h.symm (hnone rfl)
  | standaloneBegins clock profileId operation lockId =>
    rw [step, some.injEq] at h
    subst h
    rcases beginInner_cases clock none profileId .standaloneVault
        operation lockId p.activity with ⟨hsame, hid⟩ | ⟨record, gone, hbegun, hid⟩
    · refine .unchanged ?_ fun _ => rfl
      rw [begin, hsame, hid rfl]
      rfl
    · refine .begun hbegun ?_ fun _ => rfl
      rw [begin, hid]
      rfl
  | standaloneFinishes _ id =>
    by_cases hid : id ∈ p.standalone
    · rw [step, if_pos hid, some.injEq] at h
      subst h
      exact .finished hid rfl rfl fun _ => rfl
    · rw [step, if_neg hid] at h
      cases h

/-! ## The invariant -/

structure Sound (s : ActivitySystem) : Prop where
  coherent : s.activity.Coherent
  issued : ∀ id ∈ s.standalone, id.value ≤ s.activity.nextId
  unmapped : ∀ id ∈ s.standalone, ∀ draft, s.activity.contractDrafts.find? draft ≠ some id

theorem sound_initial : Sound initial where
  coherent := coherent_default
  issued := by simp [initial]
  unmapped := by simp [initial]

section Begun
variable {contractDraft : Option ContractDraft} {profileId : String}
  {record : PassportVaultActivityRecord} {gone : List PassportVaultActivityRecord}

theorem unmapped_of_begun (hp : Sound p)
    (h : PassportVaultActivityState.Begun contractDraft profileId p.activity q.activity record
      gone) (hid : id ∈ p.standalone) : q.activity.contractDrafts.find? draft ≠ some id := by
  intro hd
  obtain ⟨hsource, -⟩ := (h.drafts draft id).mp hd
  rcases hsource with ⟨-, rfl⟩ | hold
  · exact lt_irrefl _ (h.lt_fresh (hp.issued _ hid))
  · exact hp.unmapped id hid draft hold

theorem issued_of_begun (hp : Sound p)
    (h : PassportVaultActivityState.Begun contractDraft profileId p.activity q.activity record
      gone) (hid : id ∈ p.standalone) : id.value ≤ q.activity.nextId :=
  le_trans (hp.issued id hid) h.nextId_le

end Begun

theorem sound_of_effect (hp : Sound p) (h : Effect p e q) : Sound q := by
  cases h with
  | unchanged hq => exact hq ▸ hp
  | prepared hbegun hstandalone =>
    refine ⟨coherent_begun hbegun hp.coherent ?_, ?_, ?_⟩
    · intro draft hdraft
      cases hdraft
      rfl
    · intro id hid
      rw [hstandalone] at hid
      exact issued_of_begun hp hbegun hid
    · intro id hid draft
      rw [hstandalone] at hid
      exact unmapped_of_begun hp hbegun hid
  | @begun _ record _ hbegun hstandalone =>
    refine ⟨coherent_begun hbegun hp.coherent ?_, ?_, ?_⟩
    · intro draft hdraft
      cases hdraft
    · intro id hid
      rw [hstandalone, mem_cons] at hid
      rcases hid with rfl | hid
      · exact hbegun.next ▸ le_refl _
      · exact issued_of_begun hp hbegun hid
    · intro id hid draft hd
      rw [hstandalone, mem_cons] at hid
      rcases hid with rfl | hid
      · -- The new identifier is above those of the drafts.
        obtain ⟨hsource, -⟩ := (hbegun.drafts draft record.id).mp hd
        rcases hsource with ⟨hnone, -⟩ | hold
        · cases hnone
        · exact lt_irrefl _ (hbegun.lt_fresh (hp.coherent.issued_draft hold))
      · exact unmapped_of_begun hp hbegun hid hd
  | recorded hactivity hstandalone =>
    refine ⟨?_, ?_, ?_⟩
    · rw [hactivity]
      exact coherent_updateContract hp.coherent
    · rw [hactivity, hstandalone, nextId_updateContract]
      exact hp.issued
    · rw [hactivity, hstandalone, contractDrafts_updateContract]
      exact hp.unmapped
  | finished hid hactivity hstandalone =>
    have hmem : ∀ id ∈ q.standalone, id ∈ p.standalone := by
      intro id hid
      rw [hstandalone] at hid
      exact mem_of_mem_erase hid
    refine ⟨?_, ?_, ?_⟩
    · rw [hactivity]
      exact coherent_update hp.coherent
    · intro id hid
      rw [hactivity]
      exact hp.issued id (hmem id hid)
    · intro id hid
      rw [hactivity]
      exact hp.unmapped id (hmem id hid)

theorem sound_of_run {s t} {es : List ActivityEvent} (hs : Sound s) (h : run step s es = some t) :
    Sound t :=
  run_invariant hs (fun _ _ _ hp hstep => sound_of_effect hp (effect_of_step hstep)) h

/-! ## The status of a record -/

def Retains (s : ActivitySystem) (id : PassportVaultActivityId) : Prop :=
  ∃ r ∈ s.activity.records, r.id = id

def status? (s : ActivitySystem) (id : PassportVaultActivityId) :
    Option PassportVaultActivityStatus :=
  (s.activity.record? id).map (·.status)

theorem nextId_le_of_effect (h : Effect p e q) : p.activity.nextId ≤ q.activity.nextId := by
  cases h with
  | unchanged hq => exact hq ▸ le_refl _
  | prepared hbegun => exact hbegun.nextId_le
  | begun hbegun => exact hbegun.nextId_le
  | recorded hactivity => rw [hactivity, nextId_updateContract]
  | finished _ hactivity =>
    rw [hactivity]
    exact le_refl _

theorem retains_of_effect (h : Effect p e q) (hid : id.value ≤ p.activity.nextId)
    (hq : Retains q id) : Retains p id := by
  cases h with
  | unchanged heq => exact heq ▸ hq
  | prepared hbegun =>
    obtain ⟨r, hr, rfl⟩ := hq
    exact ⟨r, hbegun.mem_of_issued hr hid, rfl⟩
  | begun hbegun =>
    obtain ⟨r, hr, rfl⟩ := hq
    exact ⟨r, hbegun.mem_of_issued hr hid, rfl⟩
  | recorded hactivity =>
    rw [Retains, hactivity] at hq
    exact exists_mem_updateContract.mp hq
  | finished _ hactivity =>
    rw [Retains, hactivity] at hq
    exact exists_mem_update.mp hq

def written (draft : ContractDraft) (es : List ActivityEvent)
    (status : PassportVaultActivityStatus) : PassportVaultActivityStatus :=
  (es.filterMap (report draft)).foldl (Latch.write PassportVaultActivityStatus.isTerminal) status

theorem written_concat (es : List ActivityEvent) (e : ActivityEvent)
    (status : PassportVaultActivityStatus) :
    written draft (es ++ [e]) status = written draft [e] (written draft es status) := by
  rw [written, filterMap_append, foldl_append]
  rfl

theorem written_of_none (h : report draft e = none) (status : PassportVaultActivityStatus) :
    written draft [e] status = status := by
  simp [written, h]

theorem written_of_some {new} (h : report draft e = some new)
    (status : PassportVaultActivityStatus) :
    written draft [e] status = Latch.write isTerminal status new := by
  simp [written, h]

theorem status_of_begun {contractDraft profileId record gone} (hp : Sound p) (hq : Sound q)
    (h : PassportVaultActivityState.Begun contractDraft profileId p.activity q.activity record
      gone) (hd : p.activity.contractDrafts.find? draft = some id) (hretains : Retains q id) :
    q.activity.contractDrafts.find? draft = some id ∧ q.status? id = p.status? id := by
  obtain ⟨r, hr, rfl⟩ := hretains
  have hold := h.mem_of_issued hr (hp.coherent.issued_draft hd)
  refine ⟨h.mapped_of_mem hp.coherent hr hd, ?_⟩
  rw [status?, status?, hp.coherent.record?_eq_some_iff.mpr ⟨hold, rfl⟩,
    hq.coherent.record?_eq_some_iff.mpr ⟨hr, rfl⟩]

/-- **One event.**  As long as the record of a draft is retained, an event writes to it
what it tells about the draft. -/
theorem status_of_effect (hp : Sound p) (h : Effect p e q)
    (hd : p.activity.contractDrafts.find? draft = some id) (hretains : Retains q id) :
    q.activity.contractDrafts.find? draft = some id ∧
      q.status? id = (p.status? id).map (written draft [e]) := by
  have hq := sound_of_effect hp h
  have hsame : report draft e = none → (p.status? id).map (written draft [e]) = p.status? id := by
    intro hnone
    cases p.status? id with
    | none => rfl
    | some => rw [map_some, written_of_none hnone]
  cases h with
  | unchanged heq hreport =>
    rw [hsame (hreport draft), heq]
    exact ⟨hd, rfl⟩
  | prepared hbegun _ hreport =>
    rw [hsame (hreport draft)]
    exact status_of_begun hp hq hbegun hd hretains
  | begun hbegun _ hreport =>
    rw [hsame (hreport draft)]
    exact status_of_begun hp hq hbegun hd hretains
  | @recorded clock draft' status hactivity _ hreport =>
    have hrecord : q.activity.record? id = if draft = draft' then
        (p.activity.record? id).map (updateRecord clock status)
        else p.activity.record? id := by
      rw [hactivity]
      exact record?_updateContract hp.coherent hd
    refine ⟨?_, ?_⟩
    · rw [hactivity, contractDrafts_updateContract]
      exact hd
    by_cases heq : draft = draft'
    · have hsome : report draft e = some status := by rw [hreport, if_pos heq]
      rw [status?, status?, hrecord, if_pos heq, Option.map_map, Option.map_map]
      congr 1
      funext r
      rw [Function.comp_apply, Function.comp_apply, written_of_some hsome, status_updateRecord]
    · rw [hsame (by rw [hreport, if_neg heq]), status?, status?, hrecord, if_neg heq]
  | @finished _ id' status hid hactivity _ hreport =>
    have hne : id ≠ id' := by
      intro heq
      rw [heq] at hd
      exact hp.unmapped id' hid draft hd
    rw [hsame (hreport draft), status?, status?, hactivity, record?_update, if_neg hne]
    exact ⟨hd, rfl⟩

/-- **A run.**  The status of a record that is still retained is what the reports on its
draft wrote, and the draft is still mapped to it. -/
theorem status_of_run {s t es} {status : PassportVaultActivityStatus} (hs : Sound s)
    (hd : s.activity.contractDrafts.find? draft = some id) (hstatus : s.status? id = some status)
    (h : run step s es = some t) (hretains : Retains t id) :
    t.activity.contractDrafts.find? draft = some id ∧
      t.status? id = some (written draft es status) := by
  have key : ∀ fs q, run step s fs = some q → Sound q ∧ id.value ≤ q.activity.nextId ∧
      (Retains q id → q.activity.contractDrafts.find? draft = some id ∧
        q.status? id = some (written draft fs status)) := by
    apply run_induction
    · exact ⟨hs, hs.coherent.issued_draft hd, fun _ => ⟨hd, hstatus⟩⟩
    · rintro fs p e q - ⟨hp, hid, ih⟩ hstep
      have heffect := effect_of_step hstep
      refine ⟨sound_of_effect hp heffect, ?_, ?_⟩
      · exact le_trans hid (nextId_le_of_effect heffect)
      · intro hq
        obtain ⟨hmapped, hwritten⟩ := ih (retains_of_effect heffect hid hq)
        obtain ⟨hmapped', hwritten'⟩ := status_of_effect hp heffect hmapped hq
        refine ⟨hmapped', ?_⟩
        rw [hwritten', hwritten, map_some, written_concat]
  exact (key es t h).2.2 hretains

theorem pending_of_effect (hp : Sound p) (h : Effect p e q)
    (hnone : p.activity.contractDrafts.find? draft = none)
    (hd : q.activity.contractDrafts.find? draft = some id) : q.status? id = some .pending := by
  have hq := sound_of_effect hp h
  have hsame : q.activity.contractDrafts ≠ p.activity.contractDrafts := by
    intro heq
    rw [heq, hnone] at hd
    cases hd
  cases h with
  | unchanged heq => exact absurd (by rw [heq]) hsame
  | prepared hbegun =>
    rw [status?, hbegun.record?_of_unmapped hq.coherent hnone hd, map_some, hbegun.pending.1]
  | begun hbegun =>
    rw [status?, hbegun.record?_of_unmapped hq.coherent hnone hd, map_some, hbegun.pending.1]
  | recorded hactivity =>
    refine absurd ?_ hsame
    rw [hactivity, contractDrafts_updateContract]
  | finished _ hactivity =>
    refine absurd ?_ hsame
    rw [hactivity]
    rfl

/-! ## Calls that succeeded -/

inductive Succeeds (draft : ContractDraft) : ActivityEvent → Prop
  | submit {service command view} (hdraft : draft = ⟨command.profileId, command.draftId⟩)
      (houtcome : (ContractCallUseCase.submit command).outcome service = .ok (.submitted view)) :
      Succeeds draft (.contractCall service (.submit command))
  | submissionStatus {service query profileId draftId status}
      (hdraft : draft = ⟨query.profileId, query.draftId⟩)
      (hquery : parseQuery query = .ok (profileId, draftId))
      (hanswer : service.calls.submissionStatus profileId draftId = .ok status)
      (hincluded : status.state = .included) (hvalid : validateStatus status draftId = .ok ()) :
      Succeeds draft (.contractCall service (.submissionStatus query))
  | reconcileSubmission {service query profileId draftId status}
      (hdraft : draft = ⟨query.profileId, query.draftId⟩)
      (hquery : parseQuery query = .ok (profileId, draftId))
      (hanswer : service.calls.reconcileSubmission profileId draftId = .ok status)
      (hincluded : status.state = .included) (hvalid : validateStatus status draftId = .ok ()) :
      Succeeds draft (.contractCall service (.reconcileSubmission query))

theorem call_reportSubmission {service : PassportVaultContractCallService} {ask query profileId}
    {draftId : PassportVaultCallDraftId} {status : PassportVaultCallSubmissionStatus}
    (activity : PassportVaultActivityState) (hquery : parseQuery query = .ok (profileId, draftId))
    (hanswer : ask profileId draftId = .ok status)
    (hvalid : validateStatus status draftId = .ok ()) :
    (call activity (service.reportSubmission ask query)).1 = .ok status.view := by
  simp only [reportSubmission, hquery, hanswer, hvalid, ofResult_ok, answered_ok,
    checked_ok, pure_bind]
  rfl

theorem report_of_succeeds (h : Succeeds draft e) : report draft e = some .confirmed := by
  have hreported : ∀ {service useCase status}, useCase.draft = some draft →
      useCase.outcome service = .ok (.reported (PassportVaultCallSubmissionStatus.view status)) →
      status.state = .included →
      report draft (.contractCall service useCase) = some .confirmed := by
    intro service useCase status hdraft houtcome hincluded
    rw [report, if_pos hdraft, houtcome, recorded,
      PassportVaultCallSubmissionStatus.view, hincluded]
    rfl
  cases h with
  | submit hdraft houtcome =>
    rw [report, if_pos (by rw [hdraft]; rfl), houtcome]
    rfl
  | submissionStatus hdraft hquery hanswer hincluded hvalid =>
    refine hreported (by rw [hdraft]; rfl) ?_ hincluded
    rw [outcome, perform, call_map, PassportVaultContractCallService.submissionStatus,
      call_reportSubmission _ hquery hanswer hvalid]
    rfl
  | reconcileSubmission hdraft hquery hanswer hincluded hvalid =>
    refine hreported (by rw [hdraft]; rfl) ?_ hincluded
    rw [outcome, perform, call_map, PassportVaultContractCallService.reconcileSubmission,
      call_reportSubmission _ hquery hanswer hvalid]
    rfl

def firstVerdict (draft : ContractDraft) (es : List ActivityEvent) :
    Option PassportVaultActivityStatus :=
  (es.filterMap (report draft)).find? PassportVaultActivityStatus.isTerminal

/-- A use case tells of the end of its call by an answer of `submit`, a final state that is
reported, or an error of the adapter other than a timeout or an unknown outcome. -/
def Ends : Except PassportVaultCallError ContractCallResponse → Prop
  | .ok (.submitted _) => True
  | .ok (.reported view) => view.state ∈ [.included, .rejected, .expired, .cancelled]
  | .error (.operation error) => error ≠ .timeout ∧ error ≠ .submissionOutcomeUnknown
  | _ => False

theorem ends_iff {result} : Ends result ↔ (recorded result).any isTerminal := by
  cases result with
  | ok response =>
    cases response with
    | submitted => exact iff_of_true trivial rfl
    | reported view =>
      rw [Ends, recorded, any_some]
      cases view.state <;> decide
    | previewed | listed => exact iff_of_false id nofun
  | error error =>
    cases error with
    | operation error =>
      rw [Ends, recorded, any_some]
      cases error <;> decide
    | _ => exact iff_of_false id nofun

/-- Results that do not matter are those of calls for other drafts and those that tell of no
end. -/
theorem firstVerdict_eq_none_iff {es} : firstVerdict draft es = none ↔ ∀ service useCase,
    .contractCall service useCase ∈ es → useCase.draft = some draft →
      ¬ Ends (useCase.outcome service) := by
  rw [firstVerdict, find?_eq_none]
  constructor
  · intro hnone service useCase hmem hdraft hends
    obtain ⟨status, hstatus, hterminal⟩ := (any_eq_true _ _).mp (ends_iff.mp hends)
    refine hnone status (mem_filterMap.mpr ⟨_, hmem, ?_⟩) hterminal
    rw [report, if_pos hdraft, hstatus]
  · intro hnone status hmem hterminal
    obtain ⟨e, he, hreport⟩ := mem_filterMap.mp hmem
    cases e with
    | contractCall service useCase =>
      rw [report] at hreport
      split_ifs at hreport with hdraft
      exact hnone service useCase he hdraft (ends_iff.mpr (by rw [hreport]; exact hterminal))
    | _ => cases hreport

theorem firstVerdict_of_succeeds {since later} (h : Succeeds draft e) :
    firstVerdict draft (since ++ e :: later) = some .confirmed ↔
      ∀ status, firstVerdict draft since = some status → status = .confirmed := by
  have hrest : ((e :: later).filterMap (report draft)).find? isTerminal = some .confirmed := by
    rw [filterMap_cons_some (report_of_succeeds h)]
    exact find?_cons_of_pos rfl
  rw [firstVerdict, filterMap_append, find?_append, hrest]
  change (firstVerdict draft since).or _ = _ ↔ _
  cases firstVerdict draft since with
  | none => simp
  | some => simp

/-- A call is begun by `begins`, which gives its draft the record `id`, and succeeds after other
events `since`.  From then on, for as long as the record is retained, it is shown as confirmed and
final exactly if no event of `since` told of another end of the call first. -/
theorem success_shown_iff {setup since later : List ActivityEvent}
    {begins success : ActivityEvent} {s t u : ActivitySystem} {r : PassportVaultActivityRecord}
    (hsetup : run step initial setup = some s)
    (hnew : s.activity.contractDrafts.find? draft = none) (hbegins : step s begins = some t)
    (hid : t.activity.contractDrafts.find? draft = some id) (hsuccess : Succeeds draft success)
    (hrun : run step t (since ++ success :: later) = some u) (hr : r ∈ u.activity.records)
    (hrid : r.id = id) : (r ∈ (u.activity.list draft.profileId).records ∧ r.status = .confirmed ∧
      r.finality = .final) ↔
      ∀ status, firstVerdict draft since = some status → status = .confirmed := by
  have hs := sound_of_run sound_initial hsetup
  have hbegun := effect_of_step hbegins
  have ht := sound_of_effect hs hbegun
  have hu := sound_of_run ht hrun
  obtain ⟨hmapped, hstatus⟩ :=
    status_of_run ht hid (pending_of_effect hs hbegun hnew hid) hrun ⟨r, hr, hrid⟩
  have hfound : u.activity.record? id = some r :=
    hu.coherent.record?_eq_some_iff.mpr ⟨hr, hrid⟩
  have hconfirmed : r.status = .confirmed ↔
      firstVerdict draft (since ++ success :: later) = some .confirmed := by
    rw [status?, hfound, map_some, some.injEq] at hstatus
    rw [hstatus]
    exact Latch.foldl_write_eq_iff rfl rfl
  rw [← firstVerdict_of_succeeds hsuccess, ← hconfirmed]
  constructor
  · exact fun h => h.2.1
  · intro h
    refine ⟨?_, h, ?_⟩
    · obtain ⟨r', hr', hrid', hprofile⟩ := hu.coherent.retained draft id hmapped
      obtain rfl : r = r' := by
        rw [hu.coherent.record?_eq_some_iff.mpr ⟨hr', hrid'⟩] at hfound
        exact (some.inj hfound).symm
      exact mem_filter.mpr ⟨mem_reverse.mpr hr, by simp [hprofile]⟩
    · rw [hu.coherent.settled r hr, h]
      rfl

end ActivitySystem

open ActivitySystem

namespace Sample

def callHash : String := String.ofList (List.replicate 64 '1')

def callDraftId : PassportVaultCallDraftId :=
  ⟨⟨"draft_1", by decide, by decide, by decide, by decide⟩⟩

def callChallenge : PassportVaultCallAuthorizationChallenge :=
  ⟨⟨"challenge_1", by decide, by decide, by decide, by decide⟩⟩

def callDraft : ContractDraft := ⟨"profile_1", "draft_1"⟩

def callPreview (state : PassportVaultCallDraftState) : PassportVaultCallPreview :=
  ⟨callDraftId, callChallenge, callHash, .depositToLock 7 10, callHash, callHash, 40, 3601000,
    state, none⟩

def callSnapshot : PassportVaultContractStateSnapshot :=
  ⟨[1, 2, 3], .canonicalFinalizedReplay, callHash, callHash, callHash, 40, callHash, 42,
    1700000000⟩

def callSubmission : SubmittedPassportVaultCall :=
  ⟨callPreview .submitted, ⟨callHash, callHash, 41, 9, "simulated"⟩⟩

def callService (state : PassportVaultCallDraftState) : PassportVaultContractCallService where
  state _ := .ok callSnapshot
  calls :=
    { prepare := fun _ => .ok (callPreview .prepared)
      authorize := fun _ _ => .ok (callPreview .authorized)
      submit := fun _ _ => .ok callSubmission
      get := fun _ _ _ => .ok (callPreview state)
      submissionStatus := fun _ _ => .error .unavailable
      cancelSubmission := fun _ _ => .error .unavailable
      submissionHistory := fun _ => .error .unavailable
      reconcileSubmission := fun _ _ => .error .unavailable }
  clock := .ok 1000
  random := .ok .zero
  activityClock := .ok 42
  requiredAuthentication := .canonicalFinalizedReplay

def prepareCommand : PreparePassportVaultCallCommand :=
  ⟨"profile_1", callHash, .depositToLock 7 "10"⟩

def authorizeCommand (challenge : String) : AuthorizePassportVaultCallCommand :=
  ⟨"profile_1", "draft_1", challenge, true, authorizePassportVaultCallIntent⟩

def submitCommand : SubmitPassportVaultCallCommand :=
  ⟨"profile_1", "draft_1", true, submitPassportVaultCallIntent⟩

def callPrepared : ActivityEvent := .contractCall (callService .prepared) (.prepare prepareCommand)

def callAuthorized (challenge : String) : ActivityEvent :=
  .contractCall (callService .prepared) (.authorize (authorizeCommand challenge))

def callSubmitted : ActivityEvent :=
  .contractCall (callService .authorized) (.submit submitCommand)

theorem outcome_callPrepared : (prepare prepareCommand).outcome (callService .prepared) =
      .ok (.previewed (callPreview .prepared).view) := by decide +kernel

theorem outcome_callAuthorized : (authorize (authorizeCommand "challenge_1")).outcome
      (callService .prepared) = .ok (.previewed (callPreview .authorized).view) := by
  decide +kernel

theorem outcome_callSubmitted : (submit submitCommand).outcome (callService .authorized) =
      .ok (.submitted ⟨(callPreview .submitted).view, callHash, callHash, 41, "9",
        "simulated"⟩) := by
  decide +kernel

def callBegun : ActivitySystem :=
  ⟨(PassportVaultActivityState.default.beginContract (.ok 42) "draft_1" "profile_1" .depositToLock
    (some 7)).2, []⟩

def callRecorded (status : PassportVaultActivityStatus) (s : ActivitySystem) : ActivitySystem :=
  ⟨s.activity.updateContract (.ok 42) callDraft status, s.standalone⟩

theorem step_callPrepared : step .initial callPrepared = some callBegun :=
  step_contractCall outcome_callPrepared _

theorem step_callAuthorized (s : ActivitySystem) : s.step (callAuthorized "challenge_1") = some s :=
  step_contractCall outcome_callAuthorized s

theorem step_callAuthorized_guess (s : ActivitySystem) :
    s.step (callAuthorized "guess") = some (callRecorded .failed s) := by
  have houtcome : (authorize (authorizeCommand "guess")).outcome
      (callService .prepared) = .error (.operation .authorizationChallengeMismatch) := by
    decide +kernel
  exact step_contractCall houtcome s

theorem step_callSubmitted (s : ActivitySystem) :
    s.step callSubmitted = some (callRecorded .confirmed s) :=
  step_contractCall outcome_callSubmitted s

theorem succeeds_callSubmitted : ActivitySystem.Succeeds callDraft callSubmitted :=
  .submit rfl outcome_callSubmitted

def callRecord (status : PassportVaultActivityStatus) : PassportVaultActivityRecord :=
  ⟨⟨1⟩, "profile_1", .midnightContractCall, .depositToLock, status, status.finality, some 42,
    some 7⟩

theorem records_callRecorded :
    (callRecorded .confirmed callBegun).activity.records = [callRecord .confirmed] ∧
      (callRecorded .confirmed (callRecorded .failed callBegun)).activity.records =
        [callRecord .failed] := by
  decide +kernel

end Sample

open Sample

namespace ActivitySystem

theorem success_shown_iff_authorized :
    run step initial [] = some initial ∧ step initial callPrepared = some callBegun ∧
    run step callBegun [callAuthorized "challenge_1", callSubmitted] =
      some (callRecorded .confirmed callBegun) ∧ Succeeds callDraft callSubmitted ∧
    callRecord .confirmed ∈
      ((callRecorded .confirmed callBegun).activity.list "profile_1").records := by
  have hrun : run step callBegun ([callAuthorized "challenge_1"] ++ [callSubmitted]) =
        some (callRecorded .confirmed callBegun) := by
    simp [step_callAuthorized, step_callSubmitted]
  have hrecord : callRecord .confirmed ∈ (callRecorded .confirmed callBegun).activity.records := by
    rw [records_callRecorded.1]
    exact mem_singleton.mpr rfl
  have hverdict : firstVerdict callDraft [callAuthorized "challenge_1"] = none := by
    rw [firstVerdict_eq_none_iff]
    rintro service useCase hmem - hends
    cases mem_singleton.mp hmem
    rw [outcome_callAuthorized] at hends
    exact hends
  have h := success_shown_iff (run_nil step initial) rfl step_callPrepared rfl
    succeeds_callSubmitted hrun hrecord rfl
  refine ⟨run_nil step initial, step_callPrepared, hrun, succeeds_callSubmitted, (h.mpr ?_).1⟩
  rw [hverdict]
  exact fun status hstatus => nomatch hstatus

/-- A deposit is authorized with a wrong challenge, which the use case refuses, then with
the right one, and submitted.  It is in the chain, and shown as failed for good. -/
theorem submitted_call_shown_failed : ∃ u, run step initial [callPrepared, callAuthorized "guess",
        callAuthorized "challenge_1", callSubmitted] = some u ∧ Succeeds callDraft callSubmitted ∧
      u.activity.contractDrafts.find? callDraft = some ⟨1⟩ ∧
      ∃ r ∈ (u.activity.list "profile_1").records,
        r.id = ⟨1⟩ ∧ r.status = .failed ∧ r.finality = .final := by
  refine ⟨callRecorded .confirmed (callRecorded .failed callBegun), ?_,
    succeeds_callSubmitted, rfl, callRecord .failed, ?_, rfl, rfl, rfl⟩
  · simp [step_callPrepared, step_callAuthorized_guess, step_callAuthorized, step_callSubmitted]
  · rw [list, records_callRecorded.2]
    decide

end ActivitySystem

end Oxid.PassportVault
