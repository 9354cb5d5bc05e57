import Mathlib.Data.Multiset.AddSub
import Oxid.Foundation
import Oxid.Result
import Oxid.Transition.Run

/-!
# Self-issued authentication

`SelfIssuedAuthenticationService` of `protocol/application/src/lib.rs` keeps a session for each
request, which the holder accepts or refuses.  No call holds the lock of the sessions while it
waits.
-/

namespace Oxid.Protocol
open Foundation Result Transition List Option

structure ProtocolProfileId where
  id : OpaqueId
  deriving DecidableEq

structure SelfIssuedAuthenticationId where
  id : OpaqueId
  deriving DecidableEq

structure SelfIssuedAuthenticationPreview where
  (verifier purpose : String)

inductive SelfIssuedAuthenticationState
  | awaitingConsent | authenticating | succeeded | refused | failed
  deriving DecidableEq

namespace SelfIssuedAuthenticationState

def asStr : SelfIssuedAuthenticationState → String
  | awaitingConsent => "awaiting_consent"
  | authenticating => "authenticating"
  | succeeded => "succeeded"
  | refused => "refused"
  | failed => "failed"

def Final (state : SelfIssuedAuthenticationState) : Prop :=
  state = succeeded ∨ state = refused ∨ state = failed

end SelfIssuedAuthenticationState

inductive AcceptedFlowApprovalError
  | unavailable

inductive SelfIssuedProtocolError
  | unavailable | invalidRequest | unsupportedRequest | invalidVerifier | requestExpired
  | invalidProof | verifierRejected | protectionUnavailable | walletLocked

def SelfIssuedProtocolError.code : SelfIssuedProtocolError → String
  | unavailable => "protocol_unavailable"
  | invalidRequest => "invalid_request"
  | unsupportedRequest => "unsupported_request"
  | invalidVerifier => "invalid_verifier"
  | requestExpired => "request_expired"
  | invalidProof => "invalid_proof"
  | verifierRejected => "verifier_rejected"
  | protectionUnavailable => "protection_unavailable"
  | walletLocked => "wallet_locked"

structure PrepareSelfIssuedAuthenticationCommand where
  (profileId request : String)

structure AcceptSelfIssuedAuthenticationCommand where
  (profileId authenticationId holderDid methodId : String)
  confirmed : Bool
  intent : String

structure RefuseSelfIssuedAuthenticationCommand where
  (profileId authenticationId : String)

structure SelfIssuedAuthenticationView where
  (id verifier purpose state : String)
  failureCode : Option String

structure SelfIssuedSession where
  profileId : ProtocolProfileId
  preview : SelfIssuedAuthenticationPreview
  state : SelfIssuedAuthenticationState
  failureCode : Option String

def SelfIssuedSession.view (session : SelfIssuedSession) (id : SelfIssuedAuthenticationId) :
    SelfIssuedAuthenticationView :=
  ⟨id.id.asStr, session.preview.verifier, session.preview.purpose, session.state.asStr,
    session.failureCode⟩

inductive SelfIssuedAuthenticationError
  | invalidProfileIdentifier (error : OpaqueIdError)
  | invalidAuthenticationIdentifier (error : OpaqueIdError)
  | invalidRequest | invalidHolder | confirmationRequired | invalidConfirmation | notFound
  | invalidState
  | approval (error : AcceptedFlowApprovalError)
  | protocol (error : SelfIssuedProtocolError)

def authenticationProfile (value : String) :
    Except SelfIssuedAuthenticationError ProtocolProfileId :=
  ((OpaqueId.parse value).map .mk).mapError .invalidProfileIdentifier

def authenticationId (value : String) :
    Except SelfIssuedAuthenticationError SelfIssuedAuthenticationId :=
  ((OpaqueId.parse value).map .mk).mapError .invalidAuthenticationIdentifier

def validHolderText (value : String) (max : ℕ) : Bool :=
  !value.toList.all isWhitespace && value.toList.length ≤ max && !value.toList.any isControl

namespace SelfIssued

inductive Call
  | preparing (profileId : ProtocolProfileId)
  | accepted (id : SelfIssuedAuthenticationId)
  | authenticating (id : SelfIssuedAuthenticationId)
  | discarding (id : SelfIssuedAuthenticationId)
  deriving DecidableEq

structure State where
  sessions : SelfIssuedAuthenticationId → Option SelfIssuedSession
  calls : Multiset Call

def State.initial : State := ⟨fun _ => none, 0⟩

inductive Event
  | prepare (command : PrepareSelfIssuedAuthenticationCommand)
  | prepared (profileId : ProtocolProfileId)
      (answer : Except SelfIssuedProtocolError
        (SelfIssuedAuthenticationId × SelfIssuedAuthenticationPreview))
  | accept (command : AcceptSelfIssuedAuthenticationCommand)
      (minted : Except AcceptedFlowApprovalError Unit)
  | invoke (id : SelfIssuedAuthenticationId)
  | authenticated (id : SelfIssuedAuthenticationId) (answer : Except SelfIssuedProtocolError Unit)
  | refuse (command : RefuseSelfIssuedAuthenticationCommand)
  | discarded (id : SelfIssuedAuthenticationId) (answer : Except SelfIssuedProtocolError Unit)

inductive Report
  | accepted (command : AcceptSelfIssuedAuthenticationCommand) (id : SelfIssuedAuthenticationId)
      (owner : ProtocolProfileId)
  | invoked (id : SelfIssuedAuthenticationId)
  | returned (result : Except SelfIssuedAuthenticationError SelfIssuedAuthenticationView)

namespace State
variable (s : State)

@[simp] def write (id : SelfIssuedAuthenticationId) (session : SelfIssuedSession) : State :=
  { s with sessions := Function.update s.sessions id (some session) }

@[simp] def wait (call : Call) : State := { s with calls := call ::ₘ s.calls }

def resume (call : Call) : Option State :=
  if call ∈ s.calls then some { s with calls := s.calls.erase call } else none

def awaiting (profileId : ProtocolProfileId) (id : SelfIssuedAuthenticationId) :
    Except SelfIssuedAuthenticationError SelfIssuedSession :=
  match s.sessions id with
  | none => .error .notFound
  | some session =>
    if session.profileId ≠ profileId then .error .notFound
    else if session.state ≠ .awaitingConsent then .error .invalidState
    else .ok session

def prepare (command : PrepareSelfIssuedAuthenticationCommand) :
    Except SelfIssuedAuthenticationError ProtocolProfileId := do
  let profileId ← authenticationProfile command.profileId
  rejectIf (command.request.isEmpty || 32 * 1024 < command.request.utf8ByteSize) .invalidRequest
  return profileId

def prepared (profileId : ProtocolProfileId) (id : SelfIssuedAuthenticationId)
    (preview : SelfIssuedAuthenticationPreview) :
    State × Except SelfIssuedAuthenticationError SelfIssuedAuthenticationView :=
  let session : SelfIssuedSession := ⟨profileId, preview, .awaitingConsent, none⟩
  (s.write id session,
    if (s.sessions id).isSome then .error .invalidState else .ok (session.view id))

def accept (command : AcceptSelfIssuedAuthenticationCommand)
    (minted : Except AcceptedFlowApprovalError Unit) :
    Except SelfIssuedAuthenticationError (SelfIssuedAuthenticationId × SelfIssuedSession) := do
  rejectIf (!command.confirmed) .confirmationRequired
  rejectIf (command.intent != "ACCEPT_SELF_ISSUED_AUTHENTICATION") .invalidConfirmation
  rejectIf (!validHolderText command.holderDid 8192 || !validHolderText command.methodId 8192)
    .invalidHolder
  let profileId ← authenticationProfile command.profileId
  let id ← authenticationId command.authenticationId
  let session ← s.awaiting profileId id
  minted.mapError .approval
  return (id, session)

def authenticated (id : SelfIssuedAuthenticationId) (answer : Except SelfIssuedProtocolError Unit) :
    State × Except SelfIssuedAuthenticationError SelfIssuedAuthenticationView :=
  match answer, s.sessions id with
  | .error e, none => (s, .error (.protocol e))
  | .error e, some session =>
    (s.write id { session with state := .failed, failureCode := some e.code }, .error (.protocol e))
  | .ok (), none => (s, .error .notFound)
  | .ok (), some session =>
    let session := { session with state := .succeeded, failureCode := none }
    (s.write id session, .ok (session.view id))

def refuse (command : RefuseSelfIssuedAuthenticationCommand) :
    Except SelfIssuedAuthenticationError SelfIssuedAuthenticationId := do
  let profileId ← authenticationProfile command.profileId
  let id ← authenticationId command.authenticationId
  let _ ← s.awaiting profileId id
  return id

def discarded (id : SelfIssuedAuthenticationId) (answer : Except SelfIssuedProtocolError Unit) :
    State × Except SelfIssuedAuthenticationError SelfIssuedAuthenticationView :=
  match answer, s.sessions id with
  | .error e, _ => (s, .error (.protocol e))
  | .ok (), none => (s, .error .notFound)
  | .ok (), some session =>
    let session := { session with state := .refused }
    (s.write id session, .ok (session.view id))

@[simp] def reply
    (answer : State × Except SelfIssuedAuthenticationError SelfIssuedAuthenticationView) :
    State × Option Report :=
  (answer.1, some (.returned answer.2))

def act : Event → Option (State × Option Report)
  | .prepare command =>
    match prepare command with
    | .error e => some (reply (s, .error e))
    | .ok profileId => some (s.wait (.preparing profileId), none)
  | .prepared profileId answer => (s.resume (.preparing profileId)).map fun s =>
    match answer with
    | .error e => reply (s, .error (.protocol e))
    | .ok (id, preview) => reply (s.prepared profileId id preview)
  | .accept command minted =>
    match s.accept command minted with
    | .error e => some (reply (s, .error e))
    | .ok (id, session) => some ((s.write id { session with state := .authenticating }).wait
        (.accepted id), some (.accepted command id session.profileId))
  | .invoke id => (s.resume (.accepted id)).map fun s =>
    (s.wait (.authenticating id), some (.invoked id))
  | .authenticated id answer => (s.resume (.authenticating id)).map fun s =>
    reply (s.authenticated id answer)
  | .refuse command =>
    match s.refuse command with
    | .error e => some (reply (s, .error e))
    | .ok id => some (s.wait (.discarding id), none)
  | .discarded id answer => (s.resume (.discarding id)).map fun s => reply (s.discarded id answer)

end State

open State

@[simp] def Report.acceptedId : Report → Option SelfIssuedAuthenticationId
  | .accepted _ id _ => some id
  | _ => none

@[simp] def Report.invokedId : Report → Option SelfIssuedAuthenticationId
  | .invoked id => some id
  | _ => none

/-- Identifiers are new, and no session is accepted while a refusal of it waits for `discard`. -/
def Ordered (s : State) : Event → Prop
  | .prepared _ (.ok (id, _)) => s.sessions id = none
  | .accept command minted =>
    ∀ id session, s.accept command minted = .ok (id, session) → .discarding id ∉ s.calls
  | _ => True

def Justified (past : List Report) : Report → Prop
  | .accepted command id owner => command.confirmed ∧
      authenticationProfile command.profileId = .ok owner ∧
      authenticationId command.authenticationId = .ok id
  | .invoked id => ∃ command owner, .accepted command id owner ∈ past
  | .returned _ => True

/-- What concerns one identifier: its session, how many calls of each kind are at work on it, and
how often it was accepted and invoked. -/
structure Local where
  state : Option SelfIssuedAuthenticationState
  (discarding waiting authenticating accepted invoked : ℕ)

inductive Edge : Local → Local → Prop
  | same (l) : Edge l l
  | prepared {d a b m n} : Edge ⟨none, d, a, b, m, n⟩ ⟨some .awaitingConsent, d, a, b, m, n⟩
  | accepted {a b m n} :
      Edge ⟨some .awaitingConsent, 0, a, b, m, n⟩ ⟨some .authenticating, 0, a + 1, b, m + 1, n⟩
  | invoked {state d a b m n} : Edge ⟨state, d, a + 1, b, m, n⟩ ⟨state, d, a, b + 1, m, n + 1⟩
  | authenticated {state next d a b m n} (h : next = .succeeded ∨ next = .failed) :
      Edge ⟨some state, d, a, b + 1, m, n⟩ ⟨some next, d, a, b, m, n⟩
  | lost {d a b m n} : Edge ⟨none, d, a, b + 1, m, n⟩ ⟨none, d, a, b, m, n⟩
  | refusing {d a b m n} :
      Edge ⟨some .awaitingConsent, d, a, b, m, n⟩ ⟨some .awaitingConsent, d + 1, a, b, m, n⟩
  | kept {state d a b m n} : Edge ⟨state, d + 1, a, b, m, n⟩ ⟨state, d, a, b, m, n⟩
  | refused {state d a b m n} :
      Edge ⟨some state, d + 1, a, b, m, n⟩ ⟨some .refused, d, a, b, m, n⟩

/-- Refusals are at work only on a session that nobody has accepted. -/
def Local.Sound : Local → Prop
  | ⟨none, d, a, b, _, n⟩ => d = 0 ∧ a = 0 ∧ b = 0 ∧ n = 0
  | ⟨some .authenticating, d, a, b, m, n⟩ => d = 0 ∧ a + n = 1 ∧ b ≤ n ∧ 0 < m
  | ⟨some .succeeded, d, a, b, _, n⟩ | ⟨some .failed, d, a, b, _, n⟩ =>
    d = 0 ∧ a = 0 ∧ b = 0 ∧ n = 1
  | ⟨some .awaitingConsent, _, a, b, _, n⟩ | ⟨some .refused, _, a, b, _, n⟩ => a = 0 ∧ b = 0 ∧ n = 0

theorem Edge.sound {l l'} (h : Edge l l') (hl : l.Sound) : l'.Sound := by
  cases h with
  | same | refusing => exact hl
  | prepared => exact hl.2
  | lost => exact absurd hl.2.2.1 (Nat.succ_ne_zero _)
  | accepted =>
    obtain ⟨rfl, rfl, rfl⟩ := hl
    exact ⟨rfl, rfl, le_rfl, Nat.succ_pos _⟩
  | @invoked state =>
    rcases state with _ | _ | _ | _ | _ | _ <;> simp [Local.Sound] at hl ⊢
    omega
  | @authenticated state _ _ _ _ _ _ h =>
    cases state <;> rcases h with rfl | rfl <;> simp [Local.Sound] at hl ⊢ <;> omega
  | @kept state => rcases state with _ | _ | _ | _ | _ | _ <;> simp_all [Local.Sound]
  | @refused state => cases state <;> simp_all [Local.Sound]

theorem Local.Sound.invoked {l : Local} (h : l.Sound) :
    (0 < l.waiting → 0 < l.accepted) ∧ l.invoked ≤ 1 ∧
      (0 < l.invoked → l.state ≠ some .refused) := by
  obtain ⟨state, d, a, b, m, n⟩ := l
  rcases state with _ | _ | _ | _ | _ | _ <;> simp [Local.Sound] at h ⊢ <;> omega

theorem Edge.final {l l'} (h : Edge l l') (hl : l.Sound) {state} (hstate : l.state = some state)
    (hfinal : state.Final) : l'.state = some state := by
  cases h with
  | same | invoked | kept => exact hstate
  | prepared | lost => cases hstate
  | accepted | refusing =>
    cases hstate
    simp [SelfIssuedAuthenticationState.Final] at hfinal
  | authenticated =>
    cases hstate
    rcases hfinal with rfl | rfl | rfl <;> simp [Local.Sound] at hl
  | refused =>
    -- a refusal at work rules out the two other final states
    cases hstate
    rcases hfinal with rfl | rfl | rfl <;> simp [Local.Sound] at hl ⊢

@[simp] def State.at (s : State) (past : List Report) (id : SelfIssuedAuthenticationId) : Local :=
  ⟨(s.sessions id).map (·.state), s.calls.count (.discarding id), s.calls.count (.accepted id),
    s.calls.count (.authenticating id), (past.filterMap Report.acceptedId).count id,
    (past.filterMap Report.invokedId).count id⟩

section Steps
variable {past : List Report} {s t : State} {e : Event} {id : SelfIssuedAuthenticationId}
  {old session : SelfIssuedSession} {call : Call} {f : Option Report}

open State

theorem resume_eq_some_iff :
    s.resume call = some t ↔ call ∈ s.calls ∧ t = { s with calls := s.calls.erase call } := by
  rw [resume]
  split <;> simp_all [eq_comm]

theorem awaiting_ok {profileId} (h : s.awaiting profileId id = .ok session) :
    s.sessions id = some session ∧ session.profileId = profileId ∧
      session.state = .awaitingConsent := by
  rw [awaiting] at h
  split at h
  · cases h
  · split_ifs at h with hprofile hstate
    cases h
    exact ⟨‹_›, not_not.mp hprofile, not_not.mp hstate⟩

theorem accept_ok (past : List Report) {command minted}
    (h : s.accept command minted = .ok (id, session)) :
    Justified past (.accepted command id session.profileId) ∧ s.sessions id = some session ∧
      session.state = .awaitingConsent := by
  simp only [accept, bind_ok_iff] at h
  obtain ⟨_, hconfirmed, _, -, _, -, profileId, hprofile, id', hid, session', hawaiting, _, -,
    heq⟩ := h
  cases heq
  obtain ⟨hsession, rfl, hstate⟩ := awaiting_ok hawaiting
  exact ⟨⟨by simpa using hconfirmed, hprofile, hid⟩, hsession, hstate⟩

theorem refuse_ok {command} (h : s.refuse command = .ok id) :
    ∃ session, s.sessions id = some session ∧ session.state = .awaitingConsent := by
  simp only [refuse, bind_ok_iff] at h
  obtain ⟨profileId, -, id', -, session, hawaiting, heq⟩ := h
  cases heq
  obtain ⟨hsession, -, hstate⟩ := awaiting_ok hawaiting
  exact ⟨session, hsession, hstate⟩

theorem edge_of_act (ho : Ordered s e) (hact : s.act e = some (t, f)) (past : List Report)
    (id : SelfIssuedAuthenticationId) : Edge (s.at past id) (t.at (past ++ f.toList) id) := by
  cases e with
  | prepare command =>
    rw [act] at hact
    split at hact <;> cases hact <;> simpa [filterMap_cons] using Edge.same _
  | refuse command =>
    rw [act] at hact
    split at hact <;> cases hact
    · simpa [filterMap_cons] using Edge.same _
    · rename_i id' hok
      obtain ⟨session, hsession, hstate⟩ := refuse_ok hok
      by_cases hid : id = id'
      · subst hid
        simpa [hsession, hstate] using Edge.refusing
      · simpa [hid] using Edge.same _
  | prepared _ answer =>
    obtain ⟨t', ht', heq⟩ := map_eq_some_iff.mp hact
    obtain ⟨-, rfl⟩ := resume_eq_some_iff.mp ht'
    rcases answer with error | ⟨id', preview⟩ <;> cases heq
    · simpa [filterMap_cons] using Edge.same _
    · by_cases hid : id = id'
      · subst hid
        have hnone : s.sessions id = none := ho
        simpa [filterMap_cons, prepared, hnone] using Edge.prepared
      · simpa [filterMap_cons, prepared, hid] using Edge.same _
  | accept =>
    rw [act] at hact
    split at hact <;> cases hact
    · simpa [filterMap_cons] using Edge.same _
    · rename_i id' session hok
      obtain ⟨-, hsession, hstate⟩ := accept_ok past hok
      by_cases hid : id = id'
      · subst hid
        have hnone := Multiset.count_eq_zero.mpr (ho id session hok)
        simpa [filterMap_cons, hsession, hstate, hnone] using Edge.accepted
      · simpa [filterMap_cons, hid, Ne.symm hid] using Edge.same _
  | invoke id' =>
    obtain ⟨t', ht', heq⟩ := map_eq_some_iff.mp hact
    obtain ⟨hcall, rfl⟩ := resume_eq_some_iff.mp ht'
    cases heq
    by_cases hid : id = id'
    · subst hid
      obtain ⟨calls, hcalls⟩ := Multiset.exists_cons_of_mem hcall
      simpa [filterMap_cons, hcalls] using Edge.invoked
    · simpa [filterMap_cons, hid, Ne.symm hid] using Edge.same _
  | authenticated id' answer =>
    obtain ⟨t', ht', heq⟩ := map_eq_some_iff.mp hact
    obtain ⟨hcall, rfl⟩ := resume_eq_some_iff.mp ht'
    obtain ⟨calls, hcalls⟩ := Multiset.exists_cons_of_mem hcall
    cases heq
    by_cases hid : id = id'
    · subst hid
      cases hold : s.sessions id with
      | none => cases answer <;> simpa [filterMap_cons, authenticated, hcalls, hold] using Edge.lost
      | some =>
        cases answer <;> simpa [filterMap_cons, authenticated, hcalls, hold] using
            Edge.authenticated (by simp)
    · cases hold : s.sessions id' <;> cases answer <;>
        simpa [filterMap_cons, authenticated, hold, hid, Ne.symm hid] using Edge.same _
  | discarded id' answer =>
    obtain ⟨t', ht', heq⟩ := map_eq_some_iff.mp hact
    obtain ⟨hcall, rfl⟩ := resume_eq_some_iff.mp ht'
    obtain ⟨calls, hcalls⟩ := Multiset.exists_cons_of_mem hcall
    cases heq
    by_cases hid : id = id'
    · subst hid
      cases hold : s.sessions id with
      | none => cases answer <;> simpa [filterMap_cons, discarded, hcalls, hold] using Edge.kept
      | some old =>
        cases answer with
        | error => simpa [filterMap_cons, discarded, hcalls, hold] using Edge.kept
        | ok => simpa [filterMap_cons, discarded, hcalls, hold] using Edge.refused
    · cases hold : s.sessions id' <;> cases answer <;>
        simpa [filterMap_cons, discarded, hold, hid, Ne.symm hid] using Edge.same _

theorem justified_of_act (h : ∀ id, (s.at past id).Sound) (hact : s.act e = some (t, f))
    {r : Report} (hr : f = some r) : Justified past r := by
  cases e with
  | prepare command | refuse command =>
    rw [act] at hact
    split at hact <;> cases hact <;> cases hr
    trivial
  | accept =>
    rw [act] at hact
    split at hact <;> cases hact <;> cases hr
    · trivial
    · exact (accept_ok _ ‹_›).1
  | prepared _ answer | authenticated _ answer | discarded _ answer =>
    obtain ⟨t', -, heq⟩ := map_eq_some_iff.mp hact
    cases answer <;> cases heq <;> cases hr <;> trivial
  | invoke id =>
    obtain ⟨t', ht', heq⟩ := map_eq_some_iff.mp hact
    obtain ⟨hcall, rfl⟩ := resume_eq_some_iff.mp ht'
    cases heq
    cases hr
    have haccepted := (h id).invoked.1 (Multiset.count_pos.mpr hcall)
    obtain ⟨r, hr, hid⟩ := mem_filterMap.mp (count_pos_iff.mp haccepted)
    cases r with
    | accepted command _ owner =>
      cases hid
      exact ⟨command, owner, hr⟩
    | invoked | returned => cases hid

def Lasts (s t : State) : Prop :=
  ∀ id session, s.sessions id = some session → session.state.Final →
    ∃ session', t.sessions id = some session' ∧ session'.state = session.state

theorem lasts_of_act (h : ∀ id, (s.at past id).Sound) (ho : Ordered s e)
    (hact : s.act e = some (t, f)) : Lasts s t := by
  intro id session hsession hfinal
  exact map_eq_some_iff.mp ((edge_of_act ho hact past id).final (h id)
    (map_eq_some_iff.mpr ⟨session, hsession, rfl⟩) hfinal)

end Steps

def Event.Prepares : Event → Prop
  | .prepare _ | .prepared .. => True
  | _ => False

/-- **Self-issued authentication settles once**, as long as identifiers are new and no session is
accepted in the middle of its refusal: `authenticate` is invoked at most once for a session, after
its owner accepted it, and never for one that is refused. -/
theorem settles_once {es fs : List Event} {s t : State}
    (hordered : EveryStep (stepOf act) Ordered .initial (es ++ fs))
    (hs : run (stepOf act) .initial es = some s) (ht : run (stepOf act) s fs = some t) :
    ((history act .initial es).filterMap Report.invokedId).Nodup ∧
      EveryReport Justified (history act .initial es) ∧
      (∀ id ∈ (history act .initial es).filterMap Report.invokedId, ∀ session,
        s.sessions id = some session → session.state ≠ .refused) ∧ Lasts s t ∧
      ∀ e u error, e.Prepares → Ordered s e →
        s.act e = some (u, some (.returned (.error error))) → u.sessions = s.sessions := by
  obtain ⟨hsound, hjustified⟩ := history_invariant_of_everyStep
    (P := fun past s => (∀ id, (s.at past id).Sound) ∧ EveryReport Justified past)
    hordered.of_append hs ⟨fun id => ⟨rfl, rfl, rfl, rfl⟩, everyReport_nil⟩
    (fun past p e q f h ho hact => ⟨fun id => (edge_of_act ho hact past id).sound (h.1 id),
      h.2.append fun r hr => justified_of_act h.1 hact hr⟩)
  refine ⟨nodup_iff_count_le_one.mpr fun id => (hsound id).invoked.2.1, hjustified, ?_, ?_, ?_⟩
  · intro id hid session hsession hrefused
    exact (hsound id).invoked.2.2 (count_pos_iff.mpr hid) (by simp [hsession, hrefused])
  · refine (run_invariant_of_everyStep (C := Ordered)
      (fun u => (∃ past, ∀ id, (u.at past id).Sound) ∧ Lasts s u)
      ⟨⟨_, hsound⟩, fun id session hsession _ => ⟨session, hsession, rfl⟩⟩ ?_
      (hordered.of_append_run hs) ht).2
    rintro p e q ⟨⟨past, hp⟩, hlasts⟩ ho hstep
    obtain ⟨⟨q, f⟩, hact, rfl⟩ := map_eq_some_iff.mp hstep
    refine ⟨⟨_, fun id => (edge_of_act ho hact past id).sound (hp id)⟩, ?_⟩
    intro id session hsession hfinal
    obtain ⟨session', hsession', hstate⟩ := hlasts id session hsession hfinal
    obtain ⟨last, hlast, heq⟩ := lasts_of_act hp ho hact id session' hsession' (hstate ▸ hfinal)
    exact ⟨last, hlast, heq.trans hstate⟩
  · intro e u error hprepares ho hact
    cases e with
    | prepare =>
      rw [act] at hact
      split at hact <;> cases hact
      rfl
    | prepared _ answer =>
      obtain ⟨t', ht', heq⟩ := map_eq_some_iff.mp hact
      obtain ⟨-, rfl⟩ := resume_eq_some_iff.mp ht'
      rcases answer with e | ⟨id, preview⟩
      · cases heq
        rfl
      · have hnone : s.sessions id = none := ho
        simp [prepared, hnone] at heq
    | _ => exact hprepares.elim

instance decidableOrdered (s : State) : ∀ e, Decidable (Ordered s e)
  | .prepared _ (.ok (_, _)) => inferInstanceAs (Decidable (_ = _))
  | .accept command minted =>
    match h : s.accept command minted with
    | .ok (id, session) => decidable_of_iff (.discarding id ∉ s.calls) (by simp [Ordered, h])
    | .error _ => isTrue (by simp [Ordered, h])
  | .prepared _ (.error _) | .discarded .. | .prepare _ | .invoke _ | .authenticated ..
  | .refuse _ => isTrue trivial

def sampleId : SelfIssuedAuthenticationId :=
  ⟨"authentication", by decide, by decide, by decide, by decide⟩

def otherId : SelfIssuedAuthenticationId := ⟨"other", by decide, by decide, by decide, by decide⟩

def sampleProfile : ProtocolProfileId := ⟨"self", by decide, by decide, by decide, by decide⟩

def preparing (id : SelfIssuedAuthenticationId) : List Event :=
  [.prepare ⟨"self", "request"⟩, .prepared sampleProfile (.ok (id, ⟨"verifier", "purpose"⟩))]

def accepting (id : SelfIssuedAuthenticationId) : Event :=
  .accept ⟨"self", id.id.asStr, "did", "key", true, "ACCEPT_SELF_ISSUED_AUTHENTICATION"⟩ (.ok ())

/-- The second session is accepted while the first one is being refused. -/
def sampleRun : List Event :=
  preparing sampleId ++ preparing otherId ++ [.refuse ⟨"self", "authentication"⟩,
    accepting otherId, .invoke otherId, .discarded sampleId (.ok ()),
    .authenticated otherId (.ok ())]

theorem sample_settles_once : ∃ s t, run (stepOf act) .initial sampleRun = some s ∧
      run (stepOf act) s [accepting sampleId, .refuse ⟨"self", "other"⟩] = some t ∧
      ((s.sessions sampleId).map (·.state) = some .refused ∧
        (s.sessions otherId).map (·.state) = some .succeeded) ∧
      ((history act .initial sampleRun).filterMap Report.invokedId).Nodup ∧ Lasts s t := by
  obtain ⟨s, hs, hstates⟩ := (Option.any_eq_true ..).mp
    (by decide +kernel : (run (stepOf act) .initial sampleRun).any fun s =>
      (s.sessions sampleId).map (·.state) = some .refused ∧
        (s.sessions otherId).map (·.state) = some .succeeded)
  have hrun : (run (stepOf act) .initial
      (sampleRun ++ [accepting sampleId, .refuse ⟨"self", "other"⟩])).isSome := by
    decide +kernel
  obtain ⟨t, ht⟩ := isSome_iff_exists.mp hrun
  rw [run_append, hs] at ht
  have hsettled := settles_once (by decide +kernel) hs ht
  exact ⟨s, t, hs, ht, of_decide_eq_true hstates, hsettled.1, hsettled.2.2.2.1⟩

/-- A refusal that an acceptance overtakes refuses a session that is authenticated, and one that is
prepared again is authenticated twice. -/
theorem settled_twice : (∃ s, run (stepOf act) .initial (preparing sampleId ++
        [.refuse ⟨"self", "authentication"⟩, accepting sampleId, .invoke sampleId,
          .discarded sampleId (.ok ())]) = some s ∧
        (s.sessions sampleId).map (·.state) = some .refused) ∧
      (history act .initial (preparing sampleId ++ [accepting sampleId, .invoke sampleId] ++
        preparing sampleId ++ [accepting sampleId, .invoke sampleId])).filterMap
          Report.invokedId = [sampleId, sampleId] :=
  ⟨⟨_, rfl, rfl⟩, by decide +kernel⟩

end SelfIssued
end Oxid.Protocol
