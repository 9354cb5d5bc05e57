import Mathlib.Logic.Function.Basic
import Oxid.Wallet.DustRegistration.Persistence

/-!
# The driver

`WalletDustRegistrationDriver` of `dust_registration_driver.rs` executes the operations the
runtime admits; only `authorize` crosses the protected authorization.  The executor may answer
anything, at any later time, or never.  `trace` keeps what happened, newest first.
-/

namespace Oxid.Wallet.DustRegistration

open Projection Option

/-! ## Completions and failures -/

inductive ExecutorFailure
  | unavailable | offline | timedOut | cancelled | protectionNotInitialized | protectionLocked
  | degraded
  deriving DecidableEq

def isExecutorCompletion : Event → Bool
  | .authorizationRequested .. | .registrationAlreadyCurrent .. | .authorizationSucceeded ..
  | .authorizationRejected .. | .submissionAccepted .. | .finalityObserved ..
  | .registrationReconciled .. | .dustRefreshed .. | .droppedRegistrationAbandoned .. => true
  | _ => false

structure OperationCompletion where
  event : Event
  isCompletion : isExecutorCompletion event

def OperationCompletion.requestsPause (completion : OperationCompletion) : Bool :=
  match completion.event with
  | .registrationReconciled _ _ _ .pending => true
  | .dustRefreshed _ _ _ _ ready => !ready
  | _ => false

def completionMatchesOperation : Operation → Event → Bool
  | .prepare (.prepare expected), .authorizationRequested identity _ _ => identity = expected
  | .prepare (.prepare expected), .registrationAlreadyCurrent identity _ => identity = expected
  | .requestProtectedAuthorization (.requestProtectedAuthorization expected expectedDraft),
      .authorizationSucceeded identity draft => identity = expected && draft = expectedDraft
  | .requestProtectedAuthorization (.requestProtectedAuthorization expected expectedDraft),
      .authorizationRejected identity draft => identity = expected && draft = expectedDraft
  | .submit (.submit expected expectedDraft), .submissionAccepted identity draft _ =>
    identity = expected && draft = expectedDraft
  | .observeTransaction (.observeTransaction expected expectedTransaction),
      .finalityObserved identity transaction _ =>
        identity = expected && transaction = expectedTransaction
  | .observeTransaction (.observeTransaction expected expectedTransaction),
      .registrationReconciled identity transaction _ _ =>
        identity = expected && transaction = expectedTransaction
  | .observeTransaction (.observeTransaction expected expectedTransaction),
      .droppedRegistrationAbandoned identity transaction _ =>
        identity = expected && transaction = expectedTransaction
  | .refreshDust (.refreshDust expected expectedTransaction),
      .dustRefreshed identity transaction _ _ _ =>
        identity = expected && transaction = expectedTransaction
  | _, _ => false

def ExecutorFailure.event (failure : ExecutorFailure) (identity : Identity) (revision : UInt64) :
    Event :=
  match failure with
  | .offline => .offline identity revision
  | .timedOut => .timedOut identity revision
  | .cancelled => .suspended identity revision
  | _ => .degraded identity revision

def failureRevision (p : Projection) : UInt64 :=
  let latest := max p.recoveryRevision ((p.checkpoint.map (·.revision)).getD 0)
  if latest = UInt64.ofNat (2 ^ 64 - 1) then latest else latest + 1

inductive DriverError
  | poisoned
  | busy
  | authorizationNotPending
  | invalidObservation
  | invalidCompletion
  | drainLimit
  | executor (failure : ExecutorFailure)

def Effect.isProtected : Effect → Bool
  | .requestProtectedAuthorization .. => true
  | _ => false

def Operation.isProtected : Operation → Bool
  | .requestProtectedAuthorization _ => true
  | _ => false

@[simp] theorem Operation.isProtected_ofEffect (effect : Effect) :
    (Operation.ofEffect effect).isProtected = effect.isProtected := by
  cases effect <;> rfl

def drainIsQuiescent (effect : Option Effect) : Bool := effect.all (·.isProtected)

def maxDrainedOperations : ℕ := 8

/-! ## Calls as tasks -/

abbrev CallResult := Except DriverError Projection

inductive Task
  | unborn
  | entering (target : Option Effect)
  | draining (target : Option Effect) (remaining : ℕ)
  | admitted (target : Option Effect) (remaining : ℕ) (operation : Operation) (token : Token)
  | executing (target : Option Effect) (remaining : ℕ) (operation : Operation) (token : Token)
  | reading (driving : Bool)
  | leaving (result : Option CallResult)
  | done (result : Option CallResult)

inductive Command
  | advance (observation : Event)
  | authorize (active : Option Effect)
  deriving DecidableEq

inductive Note
  | called (id : ℕ) (command : Command)
  | executed (id : ℕ) (operation : Operation)
  | accepted (event : Event)
  deriving DecidableEq

open Note

structure Driver where
  runtime : Runtime
  (poisoned driving : Bool)
  task : ℕ → Task
  trace : List Note

inductive Action
  | advance (id : ℕ) (observation : Event)
  | authorize (id : ℕ)
  | enter (id : ℕ)
  | iterate (id : ℕ)
  | execute (id : ℕ)
  | finish (id : ℕ) (completion : Except ExecutorFailure OperationCompletion)
  | cancel (id : ℕ)
  | read (id : ℕ)
  | leave (id : ℕ)
  | poison

namespace Driver

def new (runtime : Runtime) : Driver where
  runtime := runtime
  poisoned := false
  driving := false
  task := fun _ => .unborn
  trace := []

variable (d : Driver)

def move (id : ℕ) (task : Task) : Driver :=
  { d with task := Function.update d.task id task }

def note (n : Note) : Driver := { d with trace := n :: d.trace }

def withRuntime (runtime : Runtime) : Driver := { d with runtime := runtime }

def advance (id : ℕ) (observation : Event) : Option Driver :=
  let d := d.note (.called id (.advance observation))
  if isExecutorCompletion observation then
    some (d.move id (.done (some (.error .invalidObservation))))
  else if d.poisoned then some (d.move id (.done (some (.error .poisoned))))
  else
    (d.runtime.observe observation).map fun runtime =>
      (d.withRuntime runtime).move id (.entering none)

def authorize (id : ℕ) : Driver :=
  let active := d.runtime.coordinator.activeEffect
  let d := d.note (.called id (.authorize active))
  if d.poisoned then d.move id (.done (some (.error .poisoned)))
  else
    match active.filter (·.isProtected) with
    | none => d.move id (.done (some (.error .authorizationNotPending)))
    | some target => d.move id (.entering (some target))

def enter (id : ℕ) (target : Option Effect) : Driver :=
  if d.driving then
    if target.isSome then d.move id (.done (some (.error .busy))) else d.move id (.reading false)
  else { d with driving := true }.move id (.draining target maxDrainedOperations)

def admitEffect (id : ℕ) (target : Option Effect) (remaining : ℕ) (effect : Effect) : Driver :=
  match d.runtime.admitCurrent effect with
  | (.admitted operation token, runtime) =>
    (d.withRuntime runtime).move id (.admitted target remaining operation token)
  | (.busy, _) | (.idle, _) => d.move id (.reading true)
  | (.stale, _) => d.move id (.leaving (some (.error .invalidCompletion)))

def iterate (id : ℕ) (target : Option Effect) (remaining : ℕ) : Driver :=
  if d.poisoned then d.move id (.leaving (some (.error .poisoned)))
  else
    let projection := d.runtime.coordinator.projection
    match remaining with
    | 0 =>
      if drainIsQuiescent d.runtime.coordinator.activeEffect then
        d.move id (.leaving (some (.ok projection)))
      else d.move id (.leaving (some (.error .drainLimit)))
    | remaining + 1 =>
      match d.runtime.coordinator.activeEffect, target with
      | none, _ => d.move id (.leaving (some (.ok projection)))
      | some effect, some expected =>
        if effect ≠ expected then d.move id (.leaving (some (.error .authorizationNotPending)))
        else d.admitEffect id target remaining effect
      | some effect, none =>
        if effect.isProtected then d.move id (.leaving (some (.ok projection)))
        else d.admitEffect id target remaining effect

def execute (id : ℕ) (target : Option Effect) (remaining : ℕ) (operation : Operation)
    (token : Token) : Driver :=
  (d.note (.executed id operation)).move id (.executing target remaining operation token)

def finish (id : ℕ) (target : Option Effect) (remaining : ℕ) (operation : Operation) (token : Token)
    (completion : Except ExecutorFailure OperationCompletion) : Option Driver :=
  if d.poisoned then some (d.move id (.leaving (some (.error .poisoned))))
  else
    match completion with
    | .ok completion =>
      if !completionMatchesOperation operation completion.event then
        some ((d.withRuntime (d.runtime.release token).2).move id
          (.leaving (some (.error .invalidCompletion))))
      else
        (d.runtime.complete token completion.event).map fun answer =>
          if answer.1 then
            let d := (d.withRuntime answer.2).note (.accepted completion.event)
            if completion.requestsPause then
              d.move id (.leaving (some (.ok answer.2.coordinator.projection)))
            else d.move id (.draining none remaining)
          else
            let released := answer.2.release token
            let d := d.withRuntime released.2
            if target.isSome || released.1 then
              d.move id (.leaving (some (.error .invalidCompletion)))
            else d.move id (.draining target remaining)
    | .error failure =>
      let released := (d.runtime.release token).2
      let projection := released.coordinator.projection
      match projection.identity with
      | none =>
        some ((d.withRuntime released).move id (.leaving (some (.error (.executor failure)))))
      | some identity =>
        (released.observe (failure.event identity (failureRevision projection))).map fun runtime =>
          (d.withRuntime runtime).move id (.leaving (some (.error (.executor failure))))

def cancel (id : ℕ) (token : Token) : Driver :=
  let runtime := if d.poisoned then d.runtime else (d.runtime.release token).2
  (d.withRuntime runtime).move id (.leaving none)

def read (id : ℕ) (driving : Bool) : Driver :=
  let result : CallResult :=
    if d.poisoned then .error .poisoned else .ok d.runtime.coordinator.projection
  d.move id (if driving then .leaving (some result) else .done (some result))

def step : Action → Option Driver
  | .advance id observation =>
    match d.task id with
    | .unborn => d.advance id observation
    | _ => none
  | .authorize id =>
    match d.task id with
    | .unborn => some (d.authorize id)
    | _ => none
  | .enter id =>
    match d.task id with
    | .entering target => some (d.enter id target)
    | _ => none
  | .iterate id =>
    match d.task id with
    | .draining target remaining => some (d.iterate id target remaining)
    | _ => none
  | .execute id =>
    match d.task id with
    | .admitted target remaining operation token =>
      some (d.execute id target remaining operation token)
    | _ => none
  | .finish id completion =>
    match d.task id with
    | .executing target remaining operation token =>
      d.finish id target remaining operation token completion
    | _ => none
  | .cancel id =>
    match d.task id with
    | .executing _ _ _ token => some (d.cancel id token)
    | _ => none
  | .read id =>
    match d.task id with
    | .reading driving => some (d.read id driving)
    | _ => none
  | .leave id =>
    match d.task id with
    | .leaving result => some ({ d with driving := false }.move id (.done result))
    | _ => none
  | .poison => some { d with poisoned := true }

end Driver

abbrev runActions (d : Driver) (actions : List Action) : Option Driver :=
  Transition.run Driver.step d actions

def Note.command (id : ℕ) : Note → Option Command
  | .called id' command => if id' = id then some command else none
  | _ => none

def Note.authorization (id : ℕ) : Note → Option Operation
  | .executed id' operation => if id' = id ∧ operation.isProtected then some operation else none
  | _ => none

namespace Driver

def commandsOf (d : Driver) (id : ℕ) : List Command := d.trace.filterMap (Note.command id)

def protectedBy (d : Driver) (id : ℕ) : List Operation :=
  d.trace.filterMap (Note.authorization id)

end Driver

/-! ## What an action can do -/

inductive Moves (c : Coordinator) (id : ℕ) : Task → List Note → Task → Prop
  | refused (command result) : Moves c id .unborn [.called id command] (.done result)
  | advanced (observation) : Moves c id .unborn [.called id (.advance observation)] (.entering none)
  | authorizing (target) (active : c.activeEffect = some target) :
      Moves c id .unborn [.called id (.authorize (some target))] (.entering (some target))
  | turnedAway (target result) : Moves c id (.entering target) [] (.done result)
  | shared (target) : Moves c id (.entering target) [] (.reading false)
  | entered (target remaining) : Moves c id (.entering target) [] (.draining target remaining)
  | stopped (target remaining result) : Moves c id (.draining target remaining) [] (.leaving result)
  | held (target remaining) : Moves c id (.draining target remaining) [] (.reading true)
  | admitted (target remaining effect token) (active : c.activeEffect = some effect)
      (exact : ∀ t, target = some t → effect = t)
      (unprotected : target = none → effect.isProtected = false) :
      Moves c id (.draining target (remaining + 1)) []
        (.admitted target remaining (.ofEffect effect) token)
  | executed (target remaining operation token) :
      Moves c id (.admitted target remaining operation token) [.executed id operation]
        (.executing target remaining operation token)
  | failed (target remaining operation token result) :
      Moves c id (.executing target remaining operation token) [] (.leaving result)
  | retried (remaining operation token) :
      Moves c id (.executing none remaining operation token) [] (.draining none remaining)
  | completed (target remaining operation token event) :
      Moves c id (.executing target remaining operation token) [.accepted event]
        (.draining none remaining)
  | paused (target remaining operation token event result) :
      Moves c id (.executing target remaining operation token) [.accepted event] (.leaving result)
  | read (driving task) (ends : ∃ result, task = .leaving result ∨ task = .done result) :
      Moves c id (.reading driving) [] task
  | left (result) : Moves c id (.leaving result) [] (.done result)

inductive Reduces (c : Coordinator) (notes : List Note) : Coordinator → Prop
  | same : Reduces c notes c
  | observed {e next} (outside : isExecutorCompletion e = false)
      (reduced : c.reduce e = some next) : Reduces c notes next
  | completed {e next} (noted : .accepted e ∈ notes) (reduced : c.reduce e = some next) :
      Reduces c notes next

structure Stepped (d : Driver) (id : ℕ) (notes : List Note) (d' : Driver) : Prop where
  moves : ∃ before t, d.task id = before ∧ d'.task = Function.update d.task id t ∧
    Moves d.runtime.coordinator id before notes t
  trace : d'.trace = notes ++ d.trace
  reduces : Reduces d.runtime.coordinator notes d'.runtime.coordinator

section Steps
variable {d d' : Driver} {id : ℕ} {target : Option Effect} {remaining : ℕ} {a : Action}
  {r next : Runtime} {e : Event} {token : Token}

theorem coordinator_observe (h : r.observe e = some next) :
    next.coordinator = r.coordinator ∨ r.coordinator.reduce e = some next.coordinator := by
  rcases observe_cases h with rfl | ⟨-, -, -, hreduce⟩
  · exact .inl rfl
  · exact .inr hreduce

theorem coordinator_complete {flag} (h : r.complete token e = some (flag, next)) :
    flag = false ∧ next = r ∨ flag ∧ r.coordinator.reduce e = some next.coordinator := by
  rcases complete_cases h with hrefused | ⟨rfl, -, -, -, hreduce⟩
  · exact .inl hrefused
  · exact .inr ⟨rfl, hreduce⟩

@[simp] theorem coordinator_release (r : Runtime) (token : Token) :
    (r.release token).2.coordinator = r.coordinator := by
  rcases release_cases r token with h | ⟨-, h⟩ <;> rw [h]

@[simp] theorem coordinator_admitCurrent (r : Runtime) (effect : Effect) :
    (r.admitCurrent effect).2.coordinator = r.coordinator := by
  rcases admitCurrent_cases r effect with ⟨h, -⟩ | ⟨-, -, h⟩ <;> rw [h]

theorem isExecutorCompletion_failure (failure : ExecutorFailure) (i : Identity) (v : UInt64) :
    isExecutorCompletion (failure.event i v) = false := by
  cases failure <;> rfl

theorem stepped_move {before t} (hid : d.task id = before)
    (h : Moves d.runtime.coordinator id before [] t) : Stepped d id [] (d.move id t) :=
  ⟨⟨before, t, hid, rfl, h⟩, rfl, .same⟩

open Driver

theorem stepped_advance {observation} (hid : d.task id = .unborn)
    (h : d.advance id observation = some d') : ∃ notes, Stepped d id notes d' := by
  simp only [advance] at h
  split_ifs at h with hcompletion hpoisoned
  · cases h
    exact ⟨_, ⟨_, _, hid, rfl, .refused _ _⟩, rfl, .same⟩
  · cases h
    exact ⟨_, ⟨_, _, hid, rfl, .refused _ _⟩, rfl, .same⟩
  · obtain ⟨runtime, hobserve, rfl⟩ := map_eq_some_iff.mp h
    refine ⟨_, ⟨_, _, hid, rfl, .advanced observation⟩, rfl, ?_⟩
    rcases coordinator_observe hobserve with hsame | hreduce
    · exact hsame ▸ .same
    · exact .observed (Bool.eq_false_iff.mpr hcompletion) hreduce

theorem stepped_authorize (hid : d.task id = .unborn) :
    ∃ notes, Stepped d id notes (d.authorize id) := by
  simp only [authorize]
  split_ifs with hpoisoned
  · exact ⟨_, ⟨_, _, hid, rfl, .refused _ _⟩, rfl, .same⟩
  · split
    · exact ⟨_, ⟨_, _, hid, rfl, .refused _ _⟩, rfl, .same⟩
    · rename_i target hfilter
      have hactive := (filter_eq_some_iff.mp hfilter).1
      refine ⟨_, ⟨_, _, hid, rfl, .authorizing target hactive⟩, ?_, .same⟩
      simp [move, note, hactive]

theorem stepped_enter (hid : d.task id = .entering target) :
    ∃ notes, Stepped d id notes (d.enter id target) := by
  simp only [enter]
  split_ifs
  · exact ⟨_, stepped_move hid (.turnedAway target _)⟩
  · exact ⟨_, stepped_move hid (.shared target)⟩
  · exact ⟨_, ⟨_, _, hid, rfl, .entered target _⟩, rfl, .same⟩

theorem stepped_admitEffect {effect} (hid : d.task id = .draining target (remaining + 1))
    (hactive : d.runtime.coordinator.activeEffect = some effect)
    (hexact : ∀ t, target = some t → effect = t)
    (hunprotected : target = none → effect.isProtected = false) :
    ∃ notes, Stepped d id notes (d.admitEffect id target remaining effect) := by
  have hcoordinator := coordinator_admitCurrent d.runtime effect
  rcases admitCurrent_cases d.runtime effect with ⟨-, hno⟩ | ⟨-, -, hadmitted⟩
  · simp only [admitEffect]
    split
    · rename_i operation token runtime hadmitted
      exact absurd (by rw [hadmitted]) (hno operation token)
    · exact ⟨_, stepped_move hid (.held target _)⟩
    · exact ⟨_, stepped_move hid (.held target _)⟩
    · exact ⟨_, stepped_move hid (.stopped target _ _)⟩
  · rw [hadmitted] at hcoordinator
    simp only [admitEffect, hadmitted]
    exact ⟨_, ⟨_, _, hid, rfl, .admitted target remaining effect _ hactive hexact hunprotected⟩,
      rfl, .same⟩

theorem stepped_iterate (hid : d.task id = .draining target remaining) :
    ∃ notes, Stepped d id notes (d.iterate id target remaining) := by
  have stopped : ∀ result, ∃ notes, Stepped d id notes (d.move id (.leaving result)) :=
    fun result => ⟨_, stepped_move hid (.stopped target remaining result)⟩
  rw [iterate]
  by_cases hpoisoned : d.poisoned
  · rw [if_pos hpoisoned]
    exact stopped _
  rw [if_neg hpoisoned]
  cases remaining with
  | zero =>
    dsimp only
    split_ifs
    · exact stopped _
    · exact stopped _
  | succ =>
    dsimp only
    split
    · exact stopped _
    · rename_i effect expected hactive
      split_ifs with hother
      · exact stopped _
      · refine stepped_admitEffect hid hactive ?_ (by simp)
        intro t ht
        cases ht
        exact not_not.mp hother
    · rename_i effect hactive
      split_ifs with hprotected
      · exact stopped _
      · exact stepped_admitEffect hid hactive (by simp) fun _ => Bool.eq_false_iff.mpr hprotected

theorem stepped_finish {operation completion}
    (hid : d.task id = .executing target remaining operation token)
    (h : d.finish id target remaining operation token completion = some d') :
    ∃ notes, Stepped d id notes d' := by
  have failed : ∀ runtime result, runtime.coordinator = d.runtime.coordinator →
      ∃ notes, Stepped d id notes ((d.withRuntime runtime).move id (.leaving result)) := by
    intro runtime result hsame
    exact ⟨_, ⟨_, _, hid, rfl, .failed target remaining operation token result⟩, rfl, hsame ▸ .same⟩
  unfold Driver.finish at h
  by_cases hpoisoned : d.poisoned
  · rw [if_pos hpoisoned] at h
    cases h
    exact failed d.runtime _ rfl
  rw [if_neg hpoisoned] at h
  cases completion with
  | error =>
    dsimp only at h
    split at h
    · cases h
      exact failed _ _ (coordinator_release d.runtime token)
    · rename_i identity hidentity
      obtain ⟨runtime, hobserve, rfl⟩ := map_eq_some_iff.mp h
      rcases coordinator_observe hobserve with hsame | hreduce
      · exact failed _ _ (hsame.trans (coordinator_release d.runtime token))
      · rw [coordinator_release] at hreduce
        exact ⟨_, ⟨_, _, hid, rfl, .failed target remaining operation token _⟩, rfl,
          .observed (isExecutorCompletion_failure _ _ _) hreduce⟩
  | ok completion =>
    dsimp only at h
    by_cases hmatches : (!completionMatchesOperation operation completion.event)
    · rw [if_pos hmatches] at h
      cases h
      exact failed _ _ (coordinator_release d.runtime token)
    rw [if_neg hmatches] at h
    obtain ⟨⟨flag, runtime⟩, hcomplete, rfl⟩ := map_eq_some_iff.mp h
    rcases coordinator_complete hcomplete with ⟨rfl, rfl⟩ | ⟨rfl, hreduce⟩
    · simp only [Bool.false_eq_true, if_false]
      split_ifs with hends
      · exact failed _ _ (coordinator_release d.runtime token)
      · -- only a drain without a target goes on after a refused completion
        have hnone : target = none := by
          simp only [Bool.or_eq_true, not_or, Bool.not_eq_true, isSome_eq_false_iff,
            isNone_iff_eq_none] at hends
          exact hends.1
        subst hnone
        exact ⟨_, ⟨_, _, hid, rfl, .retried remaining operation token⟩, rfl,
          coordinator_release d.runtime token ▸ .same⟩
    · simp only [if_true]
      have hnoted : accepted completion.event ∈ [accepted completion.event] := by simp
      split_ifs
      · exact ⟨_, ⟨_, _, hid, rfl, .paused target remaining operation token completion.event _⟩,
          rfl, .completed hnoted hreduce⟩
      · exact ⟨_, ⟨_, _, hid, rfl, .completed target remaining operation token completion.event⟩,
          rfl, .completed hnoted hreduce⟩

theorem step_cases (h : d.step a = some d') :
    d' = { d with poisoned := true } ∨ ∃ id notes, Stepped d id notes d' := by
  cases a with
  | poison =>
    cases h
    exact .inl rfl
  | advance id =>
    simp only [step] at h
    split at h
    · exact .inr ⟨id, stepped_advance ‹_› h⟩
    · cases h
  | authorize id =>
    simp only [step] at h
    split at h
    · cases h
      exact .inr ⟨id, stepped_authorize ‹_›⟩
    · cases h
  | enter id =>
    simp only [step] at h
    split at h
    · cases h
      exact .inr ⟨id, stepped_enter ‹_›⟩
    · cases h
  | iterate id =>
    simp only [step] at h
    split at h
    · cases h
      exact .inr ⟨id, stepped_iterate ‹_›⟩
    · cases h
  | execute id =>
    simp only [step] at h
    split at h
    · rename_i target remaining operation token hid
      cases h
      exact .inr ⟨id, _, ⟨_, _, hid, rfl, .executed target remaining operation token⟩, rfl, .same⟩
    · cases h
  | finish id =>
    simp only [step] at h
    split at h
    · exact .inr ⟨id, stepped_finish ‹_› h⟩
    · cases h
  | cancel id =>
    simp only [step] at h
    split at h
    · rename_i target remaining operation token hid
      cases h
      refine .inr ⟨id, _, ⟨_, _, hid, rfl, .failed target remaining operation token none⟩, rfl, ?_⟩
      simp only [cancel, move, withRuntime]
      split_ifs
      · exact .same
      · exact coordinator_release d.runtime token ▸ .same
    · cases h
  | read id =>
    simp only [step] at h
    split at h
    · rename_i driving hid
      cases h
      refine .inr ⟨id, _, stepped_move hid (.read driving _ ?_)⟩
      cases driving
      · exact ⟨_, .inr rfl⟩
      · exact ⟨_, .inl rfl⟩
    · cases h
  | leave id =>
    simp only [step] at h
    split at h
    · rename_i result hid
      cases h
      exact .inr ⟨id, _, ⟨_, _, hid, rfl, .left result⟩, rfl, .same⟩
    · cases h

end Steps

/-! ## What a call may execute -/

def Crossed (commands : List Command) (operations : List Operation) : Prop :=
  (∃ observation, commands = [.advance observation] ∧ operations = []) ∨
    ∃ active, commands = [.authorize active] ∧
      (operations = [] ∨ ∃ effect, active = some effect ∧ operations = [.ofEffect effect])

def Task.Allows (commands : List Command) (operations : List Operation) : Task → Prop
  | .unborn => commands = [] ∧ operations = []
  | .entering (some t) | .draining (some t) _ => commands = [.authorize (some t)] ∧ operations = []
  | .admitted (some t) _ operation _ =>
    commands = [.authorize (some t)] ∧ operations = [] ∧ operation = .ofEffect t
  | .admitted none _ operation _ => Crossed commands operations ∧ operation.isProtected = false
  | _ => Crossed commands operations

section Calls
variable {c : Coordinator} {id id' : ℕ} {before t : Task} {notes : List Note}
  {commands : List Command} {operations : List Operation}

theorem Moves.notes_other (h : Moves c id before notes t) (hne : id ≠ id') :
    notes.filterMap (command id') = [] ∧ notes.filterMap (authorization id') = [] := by
  cases h <;> simp [command, authorization, hne]

theorem crossed_of_target {effect} (h : commands = [.authorize (some effect)] ∧ operations = []) :
    Crossed commands operations :=
  .inr ⟨_, h.1, .inl h.2⟩

theorem crossed_of_entering {target} (h : (Task.entering target).Allows commands operations) :
    Crossed commands operations := by
  cases target with
  | none => exact h
  | some => exact crossed_of_target h

theorem crossed_of_draining {target remaining}
    (h : (Task.draining target remaining).Allows commands operations) :
    Crossed commands operations := by
  cases target with
  | none => exact h
  | some => exact crossed_of_target h

theorem Moves.allows (h : Moves c id before notes t) (hb : before.Allows commands operations) :
    t.Allows (notes.filterMap (command id) ++ commands)
      (notes.filterMap (authorization id) ++ operations) := by
  cases h with
  | refused command =>
    obtain ⟨rfl, rfl⟩ := hb
    cases command with
    | advance observation => exact .inl ⟨observation, by simp [command], rfl⟩
    | authorize active => exact .inr ⟨active, by simp [command], .inl rfl⟩
  | advanced observation =>
    obtain ⟨rfl, rfl⟩ := hb
    exact .inl ⟨observation, by simp [command], rfl⟩
  | authorizing =>
    obtain ⟨rfl, rfl⟩ := hb
    exact ⟨by simp [command], rfl⟩
  | turnedAway => exact crossed_of_entering hb
  | shared => exact crossed_of_entering hb
  | entered target =>
    cases target with
    | none => exact hb
    | some => exact hb
  | stopped => exact crossed_of_draining hb
  | held => exact crossed_of_draining hb
  | admitted target _ _ _ _ exact_ unprotected =>
    cases target with
    | none => exact ⟨hb, by simpa using unprotected rfl⟩
    | some t => exact ⟨hb.1, hb.2, by rw [exact_ t rfl]⟩
  | executed target _ operation =>
    cases target with
    | none =>
      have hnone : [Note.executed id operation].filterMap (Note.authorization id) = [] := by
        simp [authorization, hb.2]
      rw [hnone]
      exact hb.1
    | some t =>
      obtain ⟨rfl, rfl, rfl⟩ := hb
      refine .inr ⟨some t, by simp [command], ?_⟩
      cases hprotected : t.isProtected with
      | false => exact .inl (by simp [authorization, hprotected])
      | true => exact .inr ⟨t, rfl, by simp [authorization, hprotected]⟩
  | failed | retried | completed | paused => exact hb
  | read _ _ ends =>
    obtain ⟨result, rfl | rfl⟩ := ends
    · exact hb
    · exact hb
  | left => exact hb

end Calls

def Driver.Allowed (d : Driver) : Prop :=
  ∀ id, (d.task id).Allows (d.commandsOf id) (d.protectedBy id)

theorem allowed_step {d d' : Driver} {a : Action} (h : d.Allowed) (hstep : d.step a = some d') :
    d'.Allowed := by
  rcases step_cases hstep with rfl | ⟨id, notes, ⟨before, t, hbefore, htask, hmoves⟩, htrace, -⟩
  · exact h
  · intro id'
    simp only [Driver.commandsOf, Driver.protectedBy, htrace, htask, List.filterMap_append]
    by_cases hid : id' = id
    · subst hid
      rw [Function.update_self]
      exact hmoves.allows (hbefore ▸ h id')
    · obtain ⟨hcommand, hauthorization⟩ := hmoves.notes_other (Ne.symm hid)
      rw [Function.update_of_ne hid, hcommand, hauthorization]
      exact h id'

theorem allowed_runActions {runtime : Runtime} {actions} {d : Driver}
    (hd : runActions (.new runtime) actions = some d) : d.Allowed := by
  refine Transition.run_invariant ?_ (fun _ _ _ h hstep => allowed_step h hstep) hd
  intro id
  exact ⟨rfl, rfl⟩

/-! ## What is submitted was authorized -/

def Cleared (start : Projection) (trace : List Note) (i : Identity)
    (draft : WalletTransactionDraftId) : Prop :=
  .accepted (.authorizationSucceeded i draft) ∈ trace ∨
    start.identity = some i ∧
      ∃ r, start.Holds r ∧ r.draftId = draft ∧ r.authorizationPhase = .submitting

section Clearance
variable {start p : Projection} {trace notes : List Note} {i : Identity}
  {draft : WalletTransactionDraftId} {c c' : Coordinator}

theorem Cleared.append (h : Cleared start trace i draft) (notes : List Note) :
    Cleared start (notes ++ trace) i draft :=
  h.imp_left (List.mem_append_right notes)

theorem registrationEffect_eq_submit {j r} (h : registrationEffect j r = some (.submit i draft)) :
    j = i ∧ r.draftId = draft ∧ r.authorizationPhase = .submitting := by
  cases hphase : r.authorizationPhase with
  | awaitingAuthorization => simp [registrationEffect, hphase] at h
  | submitting =>
    simp only [registrationEffect, hphase, some.injEq, Effect.submit.injEq] at h
    exact ⟨h.1, h.2, rfl⟩
  | submitted =>
    simp only [registrationEffect, hphase, map_eq_some_iff, followEffect] at h
    obtain ⟨t, -, h⟩ := h
    split_ifs at h

theorem nextEffect_eq_submit {permits stopped} (hc : Coherent p)
    (h : nextEffect p permits stopped = some (.submit i draft)) :
    p.identity = some i ∧ ∃ r, p.Holds r ∧ r.draftId = draft ∧
      r.authorizationPhase = .submitting := by
  simp only [nextEffect, bind_eq_some_iff] at h
  obtain ⟨j, hj, h⟩ := h
  have hsup := hc.supported
  have held : ∀ r, p.Holds r → registrationEffect j r = some (.submit i draft) →
      p.identity = some i ∧ ∃ r, p.Holds r ∧ r.draftId = draft ∧
        r.authorizationPhase = .submitting := by
    intro r hr heffect
    obtain ⟨rfl, hd, hphase⟩ := registrationEffect_eq_submit heffect
    exact ⟨hj, r, hr, hd, hphase⟩
  cases hs : p.state <;> rw [hs] at h <;> dsimp only at h
  case actionRequired =>
    split at h
    · cases h
    · split at h
      · rename_i parked hparked
        exact held parked (.inr hparked) h
      · rename_i r hparked hr
        split_ifs at h
        · cases h
        · exact held r (.inl hr) h
      · split_ifs at h
        cases h
  case submitting =>
    obtain ⟨r, hr, heq⟩ := map_eq_some_iff.mp h
    cases heq
    rw [effectiveState_of_not_recoverable (by rw [hs]; rfl), hs] at hsup
    obtain ⟨⟨r', hr', hphase⟩, -⟩ := hsup
    rw [hr, some.injEq] at hr'
    exact ⟨hj, r, .inl hr, rfl, hr' ▸ hphase⟩
  case awaitingAuthorization =>
    obtain ⟨r, hr, heq⟩ := map_eq_some_iff.mp h
    cases heq
  case confirming =>
    obtain ⟨t, ht, heq⟩ := map_eq_some_iff.mp h
    cases heq
  case reconciling =>
    obtain ⟨r, hr, hfollow⟩ := bind_eq_some_iff.mp h
    obtain ⟨t, ht, heq⟩ := map_eq_some_iff.mp hfollow
    simp only [followEffect] at heq
    split_ifs at heq
  all_goals cases h

structure Sound (start : Projection) (trace : List Note) (c : Coordinator) : Prop where
  coherent : Coherent c.projection
  asks : ∃ permits stopped, c.activeEffect = nextEffect c.projection permits stopped
  cleared : ∀ r, c.projection.Holds r → r.authorizationPhase = .submitting →
    ∃ i, c.projection.identity = some i ∧ Cleared start trace i r.draftId

theorem Sound.append (h : Sound start trace c) (notes : List Note) :
    Sound start (notes ++ trace) c := by
  refine ⟨h.coherent, h.asks, fun r hr hphase => ?_⟩
  obtain ⟨i, hi, hcleared⟩ := h.cleared r hr hphase
  exact ⟨i, hi, hcleared.append notes⟩

/-- **A draft passes its authorization by the event that says so.** -/
theorem Sound.reduce {e} (h : Sound start trace c) (hreduce : c.reduce e = some c')
    (hnoted : ∀ i d, e = .authorizationSucceeded i d → .accepted e ∈ trace) :
    Sound start trace c' := by
  simp only [Coordinator.reduce, map_eq_some_iff] at hreduce
  obtain ⟨next, hnext, rfl⟩ := hreduce
  refine ⟨coherent_reduceSettlement h.coherent hnext, ⟨_, _, rfl⟩, fun r hr hphase => ?_⟩
  rw [identity_eq_of_holds h.coherent hnext hr]
  cases origin_of_reduceSettlement h.coherent hnext hr with
  | kept held => exact h.cleared r held hphase
  | prepared => cases hphase
  | @authorized x _ _ i event selected =>
    refine ⟨i, selected, .inl ?_⟩
    have := hnoted i x.draftId event
    rwa [event] at this
  | submitted => cases hphase
  | @finality x held => exact h.cleared x held hphase
  | @reconciled x held => exact h.cleared x held hphase
  | @refreshed x held => exact h.cleared x held hphase
  | @abandoned x active => exact h.cleared x (.inl active) hphase

end Clearance

structure Driver.Clears (start : Projection) (d : Driver) : Prop where
  sound : Sound start d.trace d.runtime.coordinator
  admitted : ∀ id target remaining i draft token,
    d.task id = .admitted target remaining (.ofEffect (.submit i draft)) token →
      Cleared start d.trace i draft
  executed : ∀ after id i draft before,
    d.trace = after ++ .executed id (.ofEffect (.submit i draft)) :: before →
      Cleared start before i draft

section Runs
variable {start : Projection} {d d' : Driver} {a : Action} {notes : List Note}

theorem Operation.ofEffect_injective : Function.Injective Operation.ofEffect := by
  intro x y h
  cases x <;> cases y <;> cases h <;> rfl

theorem Moves.admitted_of_executed {c id id' before t operation} (h : Moves c id before notes t)
    (hmem : .executed id' operation ∈ notes) : notes = [.executed id' operation] ∧
      ∃ target remaining token, before = .admitted target remaining operation token := by
  cases h <;> simp only [List.mem_singleton, List.not_mem_nil, reduceCtorEq, executed.injEq] at hmem
  case executed target remaining op token =>
    obtain ⟨rfl, rfl⟩ := hmem
    exact ⟨rfl, target, remaining, token, rfl⟩

theorem Sound.reduces {trace c c'} (h : Sound start trace c) (hr : Reduces c notes c') :
    Sound start (notes ++ trace) c' := by
  cases hr with
  | same => exact h.append notes
  | @observed e _ outside reduced =>
    refine (h.append notes).reduce reduced fun i draft he => ?_
    rw [he] at outside
    cases outside
  | completed noted reduced =>
    exact (h.append notes).reduce reduced fun _ _ _ => List.mem_append_left _ noted

theorem clears_step (h : d.Clears start) (hstep : d.step a = some d') : d'.Clears start := by
  rcases step_cases hstep with rfl |
    ⟨id, notes, ⟨before, t, hbefore, htask, hmoves⟩, htrace, hreduces⟩
  · exact ⟨h.sound, h.admitted, h.executed⟩
  refine ⟨?_, ?_, ?_⟩
  · rw [htrace]
    exact h.sound.reduces hreduces
  · intro id' target remaining i draft token htask'
    rw [htrace]
    rw [htask] at htask'
    by_cases hid : id' = id
    · -- the operation is the active effect, which asks for a draft past its authorization
      subst hid
      rw [Function.update_self] at htask'
      subst htask'
      obtain ⟨effect, heffect, hactive⟩ : ∃ effect,
          Operation.ofEffect effect = .ofEffect (.submit i draft) ∧
            d.runtime.coordinator.activeEffect = some effect := by
        generalize hop : Operation.ofEffect (.submit i draft) = operation at hmoves
        cases hmoves with
        | admitted _ _ effect _ active => exact ⟨effect, rfl, active⟩
        | read _ _ ends => obtain ⟨result, hend | hend⟩ := ends <;> cases hend
      cases Operation.ofEffect_injective heffect
      obtain ⟨permits, stopped, hasks⟩ := h.sound.asks
      obtain ⟨hi, r, hr, rfl, hphase⟩ :=
        nextEffect_eq_submit h.sound.coherent (hasks.symm.trans hactive)
      obtain ⟨j, hj, hcleared⟩ := h.sound.cleared r hr hphase
      rw [hi, some.injEq] at hj
      exact hj ▸ hcleared.append notes
    · rw [Function.update_of_ne hid] at htask'
      exact (h.admitted id' target remaining i draft token htask').append notes
  · intro after id' i draft before' heq
    rw [htrace, List.append_eq_append_iff] at heq
    rcases heq with ⟨rest, -, heq⟩ | ⟨rest, hnotes, heq⟩
    · exact h.executed rest id' i draft before' heq
    · cases rest with
      | nil => exact h.executed [] id' i draft before' heq.symm
      | cons n rest =>
        rw [List.cons_append, List.cons.injEq] at heq
        obtain ⟨rfl, heq⟩ := heq
        have hmem : executed id' (.ofEffect (.submit i draft)) ∈ notes := by
          rw [hnotes]
          simp
        obtain ⟨hsingle, target, remaining, token, hadmitted⟩ :=
          hmoves.admitted_of_executed hmem
        have hrest : rest = [] := by
          have hlength := congrArg List.length (hnotes.symm.trans hsingle)
          simp only [List.length_append, List.length_cons, List.length_nil] at hlength
          exact List.length_eq_zero_iff.mp (by omega)
        rw [hrest, List.nil_append] at heq
        rw [heq]
        exact h.admitted id target remaining i draft token (hbefore.trans hadmitted)

end Runs

section Starts
variable {commands : List Command} {operations : List Operation} {t : Task}

theorem Task.Allows.eq_nil_or_crossed (h : t.Allows commands operations) :
    commands = [] ∨ Crossed commands operations := by
  cases t with
  | unborn => exact .inl h.1
  | entering => exact .inr (crossed_of_entering h)
  | draining => exact .inr (crossed_of_draining h)
  | admitted target =>
    cases target with
    | none => exact .inr h.1
    | some => exact .inr (crossed_of_target ⟨h.1, h.2.1⟩)
  | executing | reading | leaving | done => exact .inr h

theorem state_of_restore {record : RecoveryRecord} {p} {r : Registration}
    (h : record.restore = .ok p) (hr : p.registration = some r)
    (hphase : r.authorizationPhase = .submitting) : p.state = .submitting := by
  obtain ⟨hv, profile, realm, registration, -, -, hreg, rfl⟩ := restore_ok_iff.mp h
  obtain ⟨hsup, hsettled⟩ := supports_of_restore ⟨profile, realm, record.generation⟩ hv hreg
  have hother : ∀ r' phase, registration = some r' → r'.authorizationPhase = phase →
      phase = .submitting := by
    intro r' phase hr' hphase'
    have heq : some r = some r' := hr.symm.trans hr'
    cases heq
    exact hphase'.symm.trans hphase
  show record.state = .submitting
  cases hs : record.state <;> rw [hs] at hsup hsettled <;>
    simp only [State.isSettled, Bool.false_eq_true] at hsettled
  case notEligible | actionRequired => cases hother r _ hr (hsup.2 r hr)
  case awaitingAuthorization =>
    obtain ⟨⟨r', hr', hphase'⟩, -⟩ := hsup
    cases hother r' _ hr' hphase'
  case confirming | reconciling =>
    obtain ⟨r', hr', hphase', -⟩ := hsup
    cases hother r' _ hr' hphase'
  case ready =>
    rcases hsup with hnone | ⟨r', hr', hphase', -⟩
    · cases hr.symm.trans hnone
    · cases hother r' _ hr' hphase'

theorem sound_default : Sound Projection.default [] Coordinator.default where
  coherent := coherent_default
  asks := ⟨false, false, rfl⟩
  cleared := by rintro r (hr | hr) <;> cases hr

theorem sound_recovered {record : RecoveryRecord} {p : Projection} (h : record.restore = .ok p) :
    Sound p [] (.recovered p) where
  coherent := coherent_of_restore h
  asks := ⟨false, false, rfl⟩
  cleared := by
    intro r hr hphase
    obtain ⟨-, profile, realm, registration, -, -, -, rfl⟩ := restore_ok_iff.mp h
    exact ⟨_, rfl, .inr ⟨rfl, r, hr, rfl, hphase⟩⟩

theorem clears_new {runtime start} (h : Sound start [] runtime.coordinator) :
    (Driver.new runtime).Clears start where
  sound := h
  admitted := by
    intro id target remaining i draft token htask
    cases htask
  executed := by
    intro after id i draft before heq
    simp [Driver.new] at heq

end Starts

/-- **The protected authorization is never crossed implicitly.**  `advance` executes no protected
authorization, and `authorize` at most the one that was active when it was called; and only drafts
whose authorization was accepted, or that were restored as submitting, are submitted. -/
theorem authorization_not_crossed (runtime : Runtime) (actions : List Action) (d : Driver)
    (hd : runActions (.new runtime) actions = some d) :
    (∀ id observation, .called id (.advance observation) ∈ d.trace → d.protectedBy id = []) ∧
    (∀ id active, .called id (.authorize active) ∈ d.trace → d.protectedBy id = [] ∨
        ∃ effect, active = some effect ∧ d.protectedBy id = [.ofEffect effect]) ∧ ∀ runtimeInstance,
      (runtime = .fresh runtimeInstance .default ∨
        ∃ record : RecoveryRecord, record.restoreRuntime runtimeInstance = .ok runtime) →
      ∀ after id i draft before,
        d.trace = after ++ .executed id (.submit (.submit i draft)) :: before →
        .accepted (.authorizationSucceeded i draft) ∈ before ∨
          (∃ record : RecoveryRecord, record.restoreRuntime runtimeInstance = .ok runtime) ∧
            runtime.coordinator.projection.state = .submitting ∧
            runtime.coordinator.projection.identity = some i ∧
            runtime.coordinator.projection.hasDraft draft := by
  have hallowed := allowed_runActions hd
  have hcommand : ∀ {id command}, called id command ∈ d.trace → command ∈ d.commandsOf id := by
    intro id command hmem
    exact List.mem_filterMap.mpr ⟨_, hmem, by simp [Note.command]⟩
  refine ⟨?_, ?_, ?_⟩
  · intro id observation hcalled
    have hmem := hcommand hcalled
    rcases (hallowed id).eq_nil_or_crossed with hnil | ⟨_, -, hnone⟩ | ⟨active, heq, -⟩
    · rw [hnil] at hmem
      cases hmem
    · exact hnone
    · simp [heq] at hmem
  · intro id active hcalled
    have hmem := hcommand hcalled
    rcases (hallowed id).eq_nil_or_crossed with hnil | ⟨_, heq, -⟩ | ⟨active', heq, hcrossed⟩
    · rw [hnil] at hmem
      cases hmem
    · simp [heq] at hmem
    · rw [heq, List.mem_singleton, Command.authorize.injEq] at hmem
      rw [hmem]
      exact hcrossed
  · intro runtimeInstance hstart after id i draft before heq
    rcases hstart with rfl | ⟨record, hrestored⟩
    · have hclears := Transition.run_invariant (clears_new sound_default)
        (fun _ _ _ h hstep => clears_step h hstep) hd
      rcases hclears.executed after id i draft before heq with haccepted | ⟨-, r, hr, -⟩
      · exact .inl haccepted
      · rcases hr with hr | hr <;> cases hr
    · simp only [RecoveryRecord.restoreRuntime] at hrestored
      cases hrestore : record.restore with
      | error => simp [hrestore, Except.map] at hrestored
      | ok p =>
        have hruntime : runtime = .fresh runtimeInstance (.recovered p) := by
          simpa [hrestore, Except.map, eq_comm] using hrestored
        subst hruntime
        have hclears := Transition.run_invariant (clears_new (sound_recovered hrestore))
          (fun _ _ _ h hstep => clears_step h hstep) hd
        rcases hclears.executed after id i draft before heq with
          haccepted | ⟨hi, r, hr, hdraft, hphase⟩
        · exact .inl haccepted
        · refine .inr ⟨⟨record, hrestored⟩, ?_⟩
          have hactive : p.registration = some r := by
            rcases hr with hr | hr
            · exact hr
            · obtain ⟨-, _, _, _, -, -, -, rfl⟩ := restore_ok_iff.mp hrestore
              cases hr
          exact ⟨state_of_restore hrestore hactive hphase, hi,
            hasDraft_iff.mpr ⟨r, hactive, hdraft⟩⟩

namespace Sample

def authorizing : List Action :=
  [.advance 0 (.eligibility identity 1 true), .enter 0, .iterate 0, .execute 0,
    .finish 0 (.ok ⟨.authorizationRequested identity draft 1, rfl⟩), .iterate 0, .leave 0,
    .authorize 1, .enter 1, .iterate 1, .execute 1,
    .finish 1 (.ok ⟨.authorizationSucceeded identity draft, rfl⟩), .iterate 1, .execute 1]

def authorizingTrace : List Note :=
  [.executed 1 (.submit (.submit identity draft)),
    .accepted (.authorizationSucceeded identity draft),
    .executed 1 (.requestProtectedAuthorization (.requestProtectedAuthorization identity draft)),
    .called 1 (.authorize (some (.requestProtectedAuthorization identity draft))),
    .accepted (.authorizationRequested identity draft 1),
    .executed 0 (.prepare (.prepare identity)),
    .called 0 (.advance (.eligibility identity 1 true))]

end Sample

open Sample

/-- The first call stops before the authorization and the second one crosses it. -/
theorem authorization_not_crossed_authorizing :
    ∃ d, runActions (.new (.fresh 1 .default)) authorizing = some d ∧
      d.trace = authorizingTrace ∧ d.protectedBy 0 = [] ∧ (d.protectedBy 1 = [] ∨ ∃ effect,
        some (.requestProtectedAuthorization identity draft) = some effect ∧
          d.protectedBy 1 = [.ofEffect effect]) := by
  have htrace : (runActions (.new (.fresh 1 .default)) authorizing).map (·.trace) =
      some authorizingTrace := by
    decide +kernel
  obtain ⟨d, hd, htrace⟩ := map_eq_some_iff.mp htrace
  obtain ⟨hadvance, hauthorize, -⟩ := authorization_not_crossed _ _ d hd
  refine ⟨d, hd, htrace, hadvance 0 (.eligibility identity 1 true) ?_,
    hauthorize 1 (some (.requestProtectedAuthorization identity draft)) ?_⟩
  · rw [htrace]
    decide
  · rw [htrace]
    decide

end Oxid.Wallet.DustRegistration
