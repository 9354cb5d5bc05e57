import Oxid.Composition.DurableBroadcast

/-!
# The order of the saved records

The worker saves only what is newer than the generation saved last.  A job it skips counts as
persisted, and so does whatever `await_latest` waits for: a newer record was saved.
-/

namespace Oxid.Composition
open Slots Transition Wallet Wallet.DustRegistration Option List UInt64

/-! ## What is observed -/

inductive PersistenceReport
  | saved (generation : UInt64)
  | returned (target : UInt64) (persisted : Bool)
  deriving DecidableEq

def PersistenceReport.generation : PersistenceReport → Option UInt64
  | .saved generation => some generation
  | .returned _ _ => none

def LatestWait.target (s : RecoveryPersistenceState) : LatestWait → UInt64
  | .targeting => s.latestGeneration
  | .registering target | .polling target _ | .failing target _ | .parked target _ => target
  | .finished _ => 0

def LatestWait.report (s : RecoveryPersistenceState) (wait : LatestWait) :
    Option PersistenceReport :=
  match wait.step s with
  | some (.finished (some persisted)) => some (.returned (wait.target s) persisted)
  | _ => none

def DustSettlement.report (s : DustSettlement) : DustSettlementEvent → Option PersistenceReport
  | .save .saved =>
    match s.worker with
    | .saving job => some (.saved job.generation)
    | _ => none
  | .wait i => s.waits[i]?.bind (LatestWait.report s.state)
  | _ => none

def DustSettlement.reports (s : DustSettlement) (es : List DustSettlementEvent) :
    List PersistenceReport :=
  outputs DustSettlement.step (fun s e => (s.report e).toList) s es

def savedGenerations (reports : List PersistenceReport) : List UInt64 :=
  reports.filterMap PersistenceReport.generation

/-! ## The worker -/

/-- A record at least as new has been saved, unless the generation is none at all. -/
def Covered (saved : List UInt64) (generation : UInt64) : Prop :=
  generation = 0 ∨ ∃ g ∈ saved, generation ≤ g

section Worker
variable {saved : List UInt64} {s s' : RecoveryPersistenceState} {w w' : Worker} {g g' : UInt64}

theorem Covered.of_le (h : Covered saved g) (hle : g' ≤ g) : Covered saved g' := by
  rcases h with rfl | ⟨newer, hmem, hnewer⟩
  · exact .inl (UInt64.le_antisymm hle (UInt64.zero_le))
  · exact .inr ⟨newer, hmem, le_trans hle hnewer⟩

theorem Covered.append (h : Covered saved g) (more : List UInt64) : Covered (saved ++ more) g := by
  rcases h with rfl | ⟨newer, hmem, hnewer⟩
  · exact .inl rfl
  · exact .inr ⟨newer, mem_append_left more hmem, hnewer⟩

theorem Covered.max (h : Covered saved g) (h' : Covered saved g') : Covered saved (max g g') := by
  rcases max_choice g g' with heq | heq
  · rwa [heq]
  · rwa [heq]

/-- Where the worker stands with its job, between the comparison and the generation it has saved. -/
def Worker.Ordered (saved : List UInt64) (s : RecoveryPersistenceState) : Worker → Prop
  | .saving job => (∀ g ∈ saved, g ≤ s.persistedGeneration) ∧ s.persistedGeneration < job.generation
  | .recordingGeneration job => (∀ g ∈ saved, g ≤ job.generation) ∧ job.generation ∈ saved
  | .skipping job | .recordingPersisted job =>
    (∀ g ∈ saved, g ≤ s.persistedGeneration) ∧ job.generation ≤ s.persistedGeneration
  | _ => ∀ g ∈ saved, g ≤ s.persistedGeneration

structure Persisted (saved : List UInt64) (s : RecoveryPersistenceState) (w : Worker) : Prop where
  ordered : w.Ordered saved s
  persisted : Covered saved s.persistedGeneration
  latest : Covered saved s.persistedLatestGeneration

theorem covered_recordPersisted {job} (h : Covered saved s.persistedLatestGeneration)
    (hjob : Covered saved job.generation) :
    Covered saved (s.recordPersisted job).persistedLatestGeneration := by
  rw [RecoveryPersistenceState.recordPersisted]
  split_ifs
  · exact h
  · exact h.max hjob

theorem persistedLatest_recordFailed (s : RecoveryPersistenceState) (job : RecoveryPersistenceJob) :
    (s.recordFailed job).persistedLatestGeneration = s.persistedLatestGeneration := by
  rw [RecoveryPersistenceState.recordFailed]
  split <;> rfl

theorem Persisted.step (h : Persisted saved s w) (hstep : w.step s = some (s', w')) :
    Persisted saved s' w' := by
  obtain ⟨hordered, hpersisted, hlatest⟩ := h
  cases w with
  | receiving =>
    simp only [Worker.step] at hstep
    split at hstep <;> cases hstep
    exact ⟨hordered, hpersisted, hlatest⟩
  | checkingHold =>
    cases hstep
    refine ⟨?_, hpersisted, hlatest⟩
    split <;> exact hordered
  | taking =>
    simp only [Worker.step] at hstep
    split at hstep
    · cases hstep
    · split at hstep <;> cases hstep <;> exact ⟨hordered, hpersisted, hlatest⟩
  | comparing =>
    cases hstep
    refine ⟨?_, hpersisted, hlatest⟩
    split
    · exact ⟨hordered, ‹_›⟩
    · exact ⟨hordered, not_le.mp ‹_›⟩
  | skipping =>
    cases hstep
    refine ⟨?_, ?_, covered_recordPersisted hlatest (hpersisted.of_le hordered.2)⟩
    · simpa [Worker.Ordered] using hordered.1
    · simpa using hpersisted
  | saving => cases hstep
  | recordingGeneration =>
    cases hstep
    exact ⟨⟨hordered.1, le_refl _⟩, .inr ⟨_, hordered.2, le_refl _⟩, hlatest⟩
  | recordingPersisted =>
    cases hstep
    refine ⟨?_, ?_, covered_recordPersisted hlatest (hpersisted.of_le hordered.2)⟩
    · split <;> simpa [Worker.Ordered] using hordered.1
    · simpa using hpersisted
  | recordingFailed =>
    cases hstep
    refine ⟨?_, ?_, ?_⟩
    · split <;> simpa [Worker.Ordered] using hordered
    · simpa using hpersisted
    · rwa [persistedLatest_recordFailed]
  | settling job | checkingRelease job =>
    cases hstep
    refine ⟨?_, hpersisted, hlatest⟩
    split <;> exact hordered
  | holding job | announcing job | clearingHold job | notifying =>
    cases hstep
    exact ⟨hordered, hpersisted, hlatest⟩
  | stopped => cases hstep

theorem Persisted.of_eq (h : Persisted saved s w)
    (hpersisted : s'.persistedGeneration = s.persistedGeneration)
    (hlatest : s'.persistedLatestGeneration = s.persistedLatestGeneration) :
    Persisted saved s' w := by
  refine ⟨?_, hpersisted ▸ h.persisted, hlatest ▸ h.latest⟩
  have hordered := h.ordered
  cases w <;> simpa only [Worker.Ordered, hpersisted] using hordered

theorem Persisted.release (h : Persisted saved s w) (release : Release) :
    Persisted saved (release.step s).1 w := by
  cases release with
  | exchanging =>
    rw [Release.step]
    split
    · exact h.of_eq rfl rfl
    · exact h
  | _ => exact h.of_eq rfl rfl

end Worker

/-! ## The whole -/

theorem Persisted.call {saved s w} {c : SubmitCall} {answer : Answer}
    {state : RecoveryPersistenceState} {retained : Option RetainedSettlement} {stage : SubmitStage}
    (h : Persisted saved s.state w) (hstep : c.step s answer = some (state, retained, stage)) :
    Persisted saved state w := by
  unfold SubmitCall.step at hstep
  split at hstep
  · cases hstep
    exact h
  · cases hstep
    exact h
  · obtain ⟨_, -, hstep⟩ := map_eq_some_iff.mp hstep
    cases hstep
    exact h
  · obtain ⟨_, -, hstep⟩ := map_eq_some_iff.mp hstep
    cases hstep
    exact h
  · cases hstep
    exact h.release _
  · cases hstep

namespace DustSettlement
variable {s s' : DustSettlement} {e : DustSettlementEvent} {past : List PersistenceReport}

/-- Whatever returned with `true` had its target saved, if it had one. -/
def Justified (past : List PersistenceReport) : PersistenceReport → Prop
  | .returned target true => Covered (savedGenerations past) target
  | _ => True

structure Chronicle (past : List PersistenceReport) (s : DustSettlement) : Prop where
  increasing : (savedGenerations past).Pairwise (· < ·)
  persisted : Persisted (savedGenerations past) s.state s.worker
  justified : EveryReport Justified past

theorem justified_of_wait {wait : LatestWait} {r : PersistenceReport}
    (h : Covered (savedGenerations past) s.state.persistedLatestGeneration)
    (hr : wait.report s.state = some r) : Justified past r := by
  rw [LatestWait.report] at hr
  split at hr <;> cases hr
  rename_i persisted hstep
  cases persisted with
  | false => trivial
  | true =>
    cases wait with
    | targeting =>
      simp only [LatestWait.step, some.injEq] at hstep
      split_ifs at hstep with hnone
      exact .inl hnone
    | polling =>
      simp only [LatestWait.step, some.injEq] at hstep
      split_ifs at hstep with hle
      exact h.of_le hle
    | failing =>
      simp only [LatestWait.step, some.injEq] at hstep
      split_ifs at hstep
      cases hstep
    | parked =>
      simp only [LatestWait.step] at hstep
      split_ifs at hstep
      cases hstep
    | _ => cases hstep

theorem generation_report (h : e.isSave = false) :
    (s.report e).bind PersistenceReport.generation = none := by
  cases e with
  | save => cases h
  | wait i =>
    simp only [report]
    cases s.waits[i]? with
    | none => rfl
    | some =>
      rw [bind_some, LatestWait.report]
      split <;> rfl
  | _ => rfl

theorem savedGenerations_append (past : List PersistenceReport) (r : Option PersistenceReport) :
    savedGenerations (past ++ r.toList) =
      savedGenerations past ++ (r.bind PersistenceReport.generation).toList := by
  rw [savedGenerations, filterMap_append]
  cases r with
  | none => rfl
  | some r => cases r <;> rfl

theorem justified_report (h : Persisted (savedGenerations past) s.state s.worker)
    {r : PersistenceReport} (hr : s.report e = some r) : Justified past r := by
  unfold report at hr
  split at hr
  · split at hr <;> cases hr
    trivial
  · obtain ⟨wait, -, hreport⟩ := bind_eq_some_iff.mp hr
    exact justified_of_wait h.latest hreport
  · cases hr

theorem Chronicle.step (h : Chronicle past s) (hstep : s.step e = some s') :
    Chronicle (past ++ (s.report e).toList) s' := by
  have hjustified : EveryReport Justified (past ++ (s.report e).toList) :=
    h.justified.append fun r hr => justified_report h.persisted hr
  have hquiet : (s.report e).bind PersistenceReport.generation = none →
      Persisted (savedGenerations past) s'.state s'.worker →
      Chronicle (past ++ (s.report e).toList) s' := by
    intro hnone hkept
    have heq : savedGenerations (past ++ (s.report e).toList) = savedGenerations past := by
      rw [savedGenerations_append, hnone]
      exact append_nil _
    exact ⟨heq ▸ h.increasing, heq ▸ hkept, hjustified⟩
  cases stepped_of_step hstep with
  | aside _ hsave haside =>
    refine hquiet (generation_report hsave) ?_
    rw [haside.worker]
    exact h.persisted.of_eq haside.persisted haside.latest
  | work hwork => exact hquiet rfl (h.persisted.step hwork)
  | submit | cancel => exact hquiet rfl h.persisted
  | call _ hcall => exact hquiet rfl (h.persisted.call hcall)
  | @save job outcome hworker =>
    have hordered := h.persisted.ordered
    rw [hworker] at hordered
    cases outcome with
    | saved =>
      have hreport : s.report (.save .saved) = some (.saved job.generation) := by
        simp only [report, hworker]
      have hsaved : savedGenerations (past ++ (s.report (.save .saved)).toList) =
          savedGenerations past ++ [job.generation] := by
        rw [savedGenerations_append, hreport]
        rfl
      have hbelow : ∀ g ∈ savedGenerations past, g < job.generation :=
        fun g hg => lt_of_le_of_lt (hordered.1 g hg) hordered.2
      refine ⟨hsaved ▸ pairwise_append.mpr ⟨h.increasing, pairwise_singleton _ _, ?_⟩,
        hsaved ▸ ⟨⟨?_, by simp⟩, h.persisted.persisted.append _, h.persisted.latest.append _⟩,
        hjustified⟩
      · intro g hg g' hg'
        exact mem_singleton.mp hg' ▸ hbelow g hg
      · intro g hg
        rcases mem_append.mp hg with hg | hg
        · exact le_of_lt (hbelow g hg)
        · exact mem_singleton.mp hg ▸ le_refl _
    | failed | panicked => exact hquiet rfl ⟨hordered.1, h.persisted.persisted, h.persisted.latest⟩

section Runs
variable {authority : DustSettlementAuthority} {store : Option RecoveryRecord} {durable : Bool}
  {retained : Option RetainedSettlement} {es : List DustSettlementEvent}

theorem chronicle_of_run (hrun : run step (start authority store durable retained) es = some s) :
    Chronicle ((start authority store durable retained).reports es) s := by
  refine run_induction (motive := fun es s => Chronicle (reports _ es) s) ?_ ?_ es s hrun
  · exact ⟨.nil, ⟨nofun, .inl rfl, .inl rfl⟩, everyReport_nil⟩
  · intro es p e q hp ih hstep
    rw [reports, outputs_concat hp]
    exact ih.step hstep

/-- **Recovery records never go backwards**, and when `await_latest` returns `true`, a record at
least as new as its target has been saved, unless nothing but submissions had been enqueued. -/
theorem recovery_records_increase
    (hrun : run step (start authority store durable retained) es = some s) :
    (savedGenerations ((start authority store durable retained).reports es)).Pairwise (· < ·) ∧
      ∀ before target after, (start authority store durable retained).reports es =
        before ++ .returned target true :: after →
        target = 0 ∨ ∃ g ∈ savedGenerations before, target ≤ g := by
  have h := chronicle_of_run hrun
  exact ⟨h.increasing, fun before target after heq => h.justified before _ after heq⟩

end Runs

open Sample

def awaitedRun : List DustSettlementEvent :=
  [.observe (after [.eligibility identity 1 true]), .produce 0, .produce 0,
    .produce 0, .produce 0, .produce 0, .awaitLatest, .wait 0, .work, .work, .work, .work,
    .save .saved, .work, .work, .wait 0, .wait 0]

theorem recovery_records_increase_awaited :
    initial.reports awaitedRun = [.saved 1, .returned 1 true] ∧
      ((1 : UInt64) = 0 ∨ ∃ g ∈ savedGenerations [.saved 1], 1 ≤ g) := by
  have hreports : initial.reports awaitedRun = [.saved 1, .returned 1 true] := by
    decide +kernel
  obtain ⟨s, hrun⟩ := isSome_iff_exists.mp
    (by decide +kernel : (run step initial awaitedRun).isSome)
  exact ⟨hreports, (recovery_records_increase hrun).2 [.saved 1] 1 [] hreports⟩

/-- Where nothing has been enqueued there is nothing to wait for, and nothing is saved. -/
theorem await_latest_returns_unsaved :
    initial.reports [.awaitLatest, .wait 0] = [.returned 0 true] := by
  decide +kernel

end DustSettlement

end Oxid.Composition
