import Oxid.Foundation
import Oxid.Result
import Oxid.Slots
import Oxid.Transition.Run

/-!
# Credentials that are imported, verified again and deleted

An import and a reverification of `CredentialService` wait for the verifier before they write,
and any other call may write in between.
-/

namespace Oxid.Credential

open Foundation Result Slots Transition Option List

/-! ## Records -/

def maxSignedCredentialBytes : ℕ := 1048576

inductive VerificationOutcome
  | valid | invalid | error
  deriving DecidableEq

structure CredentialInspection (M : Type) where
  id : OpaqueId
  metadata : M
  verification : VerificationOutcome

structure CredentialRecord (M : Type) where
  (profileId id : OpaqueId)
  signedBytes : List UInt8
  (detachedProof privateMaterial : Option (List UInt8))
  metadata : M
  verification : VerificationOutcome

inductive CredentialDomainError
  | emptySignedCredential | signedCredentialTooLarge | credentialIdentifierChanged

inductive CredentialVerificationError
  | unavailable | unsupportedFormat | invalidCredential

inductive CredentialDisclosurePortError
  | unavailable | unsupportedCredential | missingPrivateMaterial | invalidPrivateMaterial
  | claimNotFound | claimNotRevealable

inductive CredentialRepositoryError
  | notFound | capacityExceeded | integrity | unavailable

inductive CredentialOperationError
  | invalidProfileIdentifier (error : OpaqueIdError)
  | invalidCredentialIdentifier (error : OpaqueIdError)
  | domain (error : CredentialDomainError)
  | verification (error : CredentialVerificationError)
  | disclosure (error : CredentialDisclosurePortError)
  | persistence (error : CredentialRepositoryError)
  | confirmationRequired
  | invalidConfirmation
  | verificationNotValid

abbrev Checked := Except CredentialOperationError

variable {M : Type}

namespace CredentialRecord

def newWithProofAndPrivateMaterial (profileId id : OpaqueId) (signedBytes : List UInt8)
    (detachedProof privateMaterial : Option (List UInt8)) (metadata : M)
    (verification : VerificationOutcome) : Except CredentialDomainError (CredentialRecord M) :=
  if signedBytes = [] then .error .emptySignedCredential
  else if maxSignedCredentialBytes < signedBytes.length then .error .signedCredentialTooLarge
  else
    .ok ⟨profileId, id, signedBytes, detachedProof, privateMaterial, metadata, verification⟩

variable (record : CredentialRecord M)

def replaceInspection (inspection : CredentialInspection M) :
    Except CredentialDomainError (CredentialRecord M) :=
  if inspection.id ≠ record.id then .error .credentialIdentifierChanged
  else
    .ok { record with metadata := inspection.metadata, verification := inspection.verification }

def key : OpaqueId × OpaqueId := (record.profileId, record.id)

def kept : (OpaqueId × OpaqueId) × List UInt8 × Option (List UInt8) × Option (List UInt8) :=
  (record.key, record.signedBytes, record.detachedProof, record.privateMaterial)

end CredentialRecord

/-! ## Calls -/

def profile (value : String) : Checked OpaqueId :=
  (OpaqueId.parse value).mapError .invalidProfileIdentifier

def credentialId (value : String) : Checked OpaqueId :=
  (OpaqueId.parse value).mapError .invalidCredentialIdentifier

structure Import where
  profileId : OpaqueId
  bytes : List UInt8
  (detachedProof privateMaterial : Option (List UInt8))
  requireValid : Bool

def inspectDisclosure (privateMaterial : Option (List UInt8))
    (fault : Option CredentialDisclosurePortError) : Checked Unit :=
  match privateMaterial, fault with
  | some _, some error => .error (.disclosure error)
  | _, _ => .ok ()

def Import.record (call : Import)
    (answer : Except CredentialVerificationError (CredentialInspection M))
    (fault : Option CredentialDisclosurePortError) : Checked (CredentialRecord M) := do
  let inspection ← answer.mapError .verification
  rejectIf (call.requireValid && inspection.verification ≠ .valid) .verificationNotValid
  inspectDisclosure call.privateMaterial fault
  (CredentialRecord.newWithProofAndPrivateMaterial call.profileId inspection.id call.bytes
    call.detachedProof call.privateMaterial inspection.metadata
    inspection.verification).mapError .domain

def reverify (record : CredentialRecord M)
    (answer : Except CredentialVerificationError (CredentialInspection M))
    (fault : Option CredentialDisclosurePortError) : Checked (CredentialRecord M) := do
  let inspection ← answer.mapError .verification
  inspectDisclosure record.privateMaterial fault
  (record.replaceInspection inspection).mapError .domain

structure DeleteCredentialCommand where
  (profileId credentialId : String)
  confirmed : Bool
  intent : String

def DeleteCredentialCommand.key (command : DeleteCredentialCommand) :
    Checked (OpaqueId × OpaqueId) := do
  rejectIf (!command.confirmed) .confirmationRequired
  rejectIf (command.intent ≠ "DELETE_CREDENTIAL") .invalidConfirmation
  let profileId ← profile command.profileId
  let id ← Credential.credentialId command.credentialId
  return (profileId, id)

/-! ## Runs -/

structure Repository (M : Type) where
  get : OpaqueId × OpaqueId → Option (CredentialRecord M)
  keyed : ∀ key record, get key = some record → record.key = key

namespace Repository
variable (repository : Repository M)

def upsert (record : CredentialRecord M) : Repository M where
  get key := if key = record.key then some record else repository.get key
  keyed key found h := by
    split_ifs at h with hkey
    · cases h
      exact hkey.symm
    · exact repository.keyed key found h

def remove (key : OpaqueId × OpaqueId) : Repository M where
  get key' := if key' = key then none else repository.get key'
  keyed key' found h := by
    split_ifs at h
    exact repository.keyed key' found h

end Repository

/-- A call that waits for the verifier; a reverification has read its record. -/
inductive Call (M : Type)
  | importing (call : Import)
  | reverifying (record : CredentialRecord M)

/-- Calls are numbered as they begin; `none` is one that has returned. -/
structure State (M : Type) where
  repository : Repository M
  calls : List (Option (Call M))

/-- `fault` is what the repository answers where it does not do what it is asked. -/
inductive Event (M : Type)
  | importBegun (call : Import)
  | imported (number : ℕ) (answer : Except CredentialVerificationError (CredentialInspection M))
      (disclosure : Option CredentialDisclosurePortError)
      (fault : Option CredentialRepositoryError)
  | reverifyBegun (profileId id : String) (fault : Option CredentialRepositoryError)
  | reverified (number : ℕ)
      (answer : Except CredentialVerificationError (CredentialInspection M))
      (disclosure : Option CredentialDisclosurePortError)
      (fault : Option CredentialRepositoryError)
  | delete (command : DeleteCredentialCommand) (fault : Option CredentialRepositoryError)

/-- What a reverification has read, and what the calls return.  `previous` is what the record of
a reverification has replaced. -/
inductive Report (M : Type)
  | read (number : ℕ) (key : OpaqueId × OpaqueId)
  | imported (number : ℕ) (record : CredentialRecord M)
  | reverified (number : ℕ) (previous : Option (CredentialRecord M)) (record : CredentialRecord M)
  | deleted (key : OpaqueId × OpaqueId)
  | failed (error : CredentialOperationError)

namespace State
variable (s : State M)

def initial (repository : Repository M) : State M := ⟨repository, []⟩

def read (profileId id : String) (fault : Option CredentialRepositoryError) :
    Checked (CredentialRecord M) := do
  let profileId ← profile profileId
  let id ← credentialId id
  match fault, s.repository.get (profileId, id) with
  | some error, _ => .error (.persistence error)
  | none, none => .error (.persistence .notFound)
  | none, some record => .ok record

/-- The call writes its record, if it has one, and returns. -/
def store (number : ℕ) (result : Checked (CredentialRecord M))
    (fault : Option CredentialRepositoryError) (report : CredentialRecord M → Report M) :
    State M × Option (Report M) :=
  let calls := s.calls.set number none
  match result, fault with
  | .error error, _ => (⟨s.repository, calls⟩, some (.failed error))
  | .ok _, some error => (⟨s.repository, calls⟩, some (.failed (.persistence error)))
  | .ok record, none => (⟨s.repository.upsert record, calls⟩, some (report record))

def delete (command : DeleteCredentialCommand) (fault : Option CredentialRepositoryError) :
    State M × Option (Report M) :=
  match command.key with
  | .error error => (s, some (.failed error))
  | .ok key =>
    match fault, s.repository.get key with
    | some error, _ => (s, some (.failed (.persistence error)))
    | none, none => (s, some (.failed (.persistence .notFound)))
    | none, some _ => ({ s with repository := s.repository.remove key }, some (.deleted key))

def act : Event M → Option (State M × Option (Report M))
  | .importBegun call => some ({ s with calls := s.calls ++ [some (.importing call)] }, none)
  | .imported number answer disclosure fault =>
    match s.calls[number]? with
    | some (some (.importing call)) =>
      some (s.store number (call.record answer disclosure) fault (.imported number))
    | _ => none
  | .reverifyBegun profileId id fault =>
    match s.read profileId id fault with
    | .error error => some (s, some (.failed error))
    | .ok record =>
      some ({ s with calls := s.calls ++ [some (.reverifying record)] },
        some (.read s.calls.length record.key))
  | .reverified number answer disclosure fault =>
    match s.calls[number]? with
    | some (some (.reverifying old)) =>
      some (s.store number (reverify old answer disclosure) fault fun record =>
        .reverified number (s.repository.get record.key) record)
    | _ => none
  | .delete command fault => some (s.delete command fault)

end State

open State

/-- The call may still write the credential.  What an import stores is not known before the
verifier answers. -/
def Call.mayWrite (key : OpaqueId × OpaqueId) : Call M → Bool
  | .importing call => call.profileId = key.1
  | .reverifying old => old.key = key

/-- No call in flight may write the credential. -/
def State.free (s : State M) (key : OpaqueId × OpaqueId) : Bool :=
  s.calls.all fun call => call.all fun c => !c.mayWrite key

/-- An import whose number is not below `first` has stored the credential. -/
def Stored (first : ℕ) (key : OpaqueId × OpaqueId) (past : List (Report M)) : Prop :=
  ∃ number record, .imported number record ∈ past ∧ record.key = key ∧ first ≤ number

def Report.Replaces (key : OpaqueId × OpaqueId) : Report M → Prop
  | .deleted key' => key' = key
  | .imported _ record => record.key = key
  | _ => False

/-- Since the reverification has read its record, it was neither deleted nor imported. -/
def Undisturbed (past : List (Report M)) : Report M → Prop
  | .reverified number _ record =>
    ¬ Since (.read number record.key) (Report.Replaces record.key) past
  | _ => True

/-- A reverification keeps all but the metadata and the verification. -/
def Keeps : Report M → Prop
  | .reverified _ previous record => ∃ old, previous = some old ∧ record.kept = old.kept
  | _ => True

section Effects
variable {s t : State M} {e : Event M} {f : Option (Report M)} {number : ℕ}
  {old record : CredentialRecord M} {fault : Option CredentialRepositoryError}
  {answer : Except CredentialVerificationError (CredentialInspection M)}
  {key : OpaqueId × OpaqueId} {past : List (Report M)}

theorem kept_of_reverify {disclosure} (h : reverify old answer disclosure = .ok record) :
    record.kept = old.kept := by
  simp only [reverify, bind_ok_iff, mapError_ok_iff] at h
  obtain ⟨inspection, -, -, -, hrecord⟩ := h
  rw [CredentialRecord.replaceInspection] at hrecord
  split_ifs at hrecord
  cases hrecord
  rfl

theorem profile_of_record {call : Import} {disclosure : Option CredentialDisclosurePortError}
    (h : call.record answer disclosure = .ok record) : record.key.1 = call.profileId := by
  simp only [Import.record, bind_ok_iff, mapError_ok_iff] at h
  obtain ⟨inspection, -, -, -, -, -, hrecord⟩ := h
  rw [CredentialRecord.newWithProofAndPrivateMaterial] at hrecord
  split_ifs at hrecord
  cases hrecord
  rfl

theorem get_of_read {profileId id} (h : s.read profileId id fault = .ok record) :
    s.repository.get record.key = some record := by
  simp only [State.read, bind_ok_iff] at h
  obtain ⟨_, -, _, -, hget⟩ := h
  split at hget <;> cases hget
  rename_i hget
  rwa [s.repository.keyed _ _ hget]

/-- What one event can do. -/
inductive Effect (s : State M) : State M → Option (Report M) → Prop
  | refused (error : CredentialOperationError) : Effect s s (some (.failed error))
  | failed (number : ℕ) (error : CredentialOperationError) :
      Effect s ⟨s.repository, s.calls.set number none⟩ (some (.failed error))
  | began (call : Import) : Effect s ⟨s.repository, s.calls ++ [some (.importing call)]⟩ none
  | read (old : CredentialRecord M) (h : s.repository.get old.key = some old) :
      Effect s ⟨s.repository, s.calls ++ [some (.reverifying old)]⟩
        (some (.read s.calls.length old.key))
  | imported (number : ℕ) (call : Import) (record : CredentialRecord M)
      (h : s.calls[number]? = some (some (.importing call)))
      (hprofile : record.key.1 = call.profileId) :
      Effect s ⟨s.repository.upsert record, s.calls.set number none⟩
        (some (.imported number record))
  | reverified (number : ℕ) (old record : CredentialRecord M)
      (h : s.calls[number]? = some (some (.reverifying old))) (hkept : record.kept = old.kept) :
      Effect s ⟨s.repository.upsert record, s.calls.set number none⟩
        (some (.reverified number (s.repository.get record.key) record))
  | deleted (key : OpaqueId × OpaqueId) :
      Effect s ⟨s.repository.remove key, s.calls⟩ (some (.deleted key))

theorem effect_of_store {result report} (h : s.store number result fault report = (t, f))
    (hok : ∀ record, result = .ok record →
      Effect s ⟨s.repository.upsert record, s.calls.set number none⟩ (some (report record))) :
    Effect s t f := by
  simp only [store] at h
  split at h <;> cases h
  · exact .failed _ _
  · exact .failed _ _
  · exact hok _ rfl

theorem effect_of_delete {command} (h : s.delete command fault = (t, f)) : Effect s t f := by
  simp only [delete] at h
  split at h
  · cases h
    exact .refused _
  · split at h <;> cases h
    · exact .refused _
    · exact .refused _
    · exact .deleted _

theorem effect_of_act (h : s.act e = some (t, f)) : Effect s t f := by
  cases e with
  | importBegun call =>
    cases h
    exact .began call
  | imported =>
    simp only [act] at h
    split at h
    · rename_i call hcall
      exact effect_of_store (some.inj h) fun record hrecord =>
        .imported _ call record hcall (profile_of_record hrecord)
    · cases h
  | reverifyBegun =>
    simp only [act] at h
    split at h <;> cases h
    · exact .refused _
    · exact .read _ (get_of_read ‹_›)
  | reverified =>
    simp only [act] at h
    split at h
    · rename_i old hcall
      exact effect_of_store (some.inj h) fun record hrecord =>
        .reverified _ old record hcall (kept_of_reverify hrecord)
    · cases h
  | delete => exact effect_of_delete (some.inj h)

theorem call_of_set {i : ℕ} {c : Call M} (h : (s.calls.set number none)[i]? = some (some c)) :
    s.calls[i]? = some (some c) := by
  rcases getElem?_set_cases s.calls number none i with heq | ⟨-, heq⟩
  · exact heq ▸ h
  · rw [heq] at h
    cases h

/-! ## Deletion is final -/

theorem Stored.append {first} (h : Stored first key past) {more : List (Report M)} :
    Stored first key (past ++ more) := by
  obtain ⟨number, record, hmem, hrest⟩ := h
  exact ⟨number, record, mem_append_left more hmem, hrest⟩

/-- The credential was deleted when `first` calls had begun.  Who may write it has begun later,
or has read what an import that began later has stored. -/
structure Gone (first : ℕ) (key : OpaqueId × OpaqueId) (past : List (Report M)) (s : State M) :
    Prop where
  begun : first ≤ s.calls.length
  absent : s.repository.get key ≠ none → Stored first key past
  importing : ∀ (i : ℕ) call, s.calls[i]? = some (some (.importing call)) →
    call.profileId = key.1 → first ≤ i
  reverifying : ∀ (i : ℕ) old, s.calls[i]? = some (some (.reverifying old)) → old.key = key →
    Stored first key past

theorem Gone.append {first more} (h : Gone first key past s) : Gone first key (past ++ more) s where
  __ := h
  absent hget := (h.absent hget).append
  reverifying i old hi hkey := (h.reverifying i old hi hkey).append

theorem Gone.leave {first} (h : Gone first key past s) :
    Gone first key past ⟨s.repository, s.calls.set number none⟩ where
  begun := by simpa using h.begun
  absent := h.absent
  importing i call hi := h.importing i call (call_of_set hi)
  reverifying i old hi := h.reverifying i old (call_of_set hi)

theorem Gone.upsert {first} (h : Gone first key past s)
    (hstored : record.key = key → Stored first key past) :
    Gone first key past ⟨s.repository.upsert record, s.calls⟩ where
  __ := h
  absent hget := by
    by_cases hkey : key = record.key
    · exact hstored hkey.symm
    · exact h.absent (by simpa [Repository.upsert, hkey] using hget)

theorem Gone.step {first} (h : Gone first key past s) (heffect : Effect s t f) :
    Gone first key (past ++ f.toList) t := by
  cases heffect with
  | refused => exact h.append
  | failed => exact h.leave.append
  | began =>
    rw [toList_none, append_nil]
    refine ⟨by simpa using Nat.le_succ_of_le h.begun, h.absent, ?_, ?_⟩
    · intro i call hi hprofile
      rcases getElem?_concat_iff.mp hi with hi | ⟨rfl, -⟩
      · exact h.importing i call hi hprofile
      · exact h.begun
    · intro i old hi
      rcases getElem?_concat_iff.mp hi with hi | ⟨-, heq⟩
      · exact h.reverifying i old hi
      · cases heq
  | read record hget =>
    refine (Gone.append (s := ⟨_, _⟩) ⟨by simpa using Nat.le_succ_of_le h.begun, h.absent, ?_, ?_⟩)
    · intro i call hi
      rcases getElem?_concat_iff.mp hi with hi | ⟨-, heq⟩
      · exact h.importing i call hi
      · cases heq
    · intro i old hi hkey
      rcases getElem?_concat_iff.mp hi with hi | ⟨-, heq⟩
      · exact h.reverifying i old hi hkey
      · cases heq
        refine h.absent ?_
        rw [← hkey, hget]
        nofun
  | imported number call record hcall hprofile =>
    refine h.leave.append.upsert fun hkey => ⟨number, record, by simp, hkey, ?_⟩
    exact h.importing number call hcall (hprofile.symm.trans (congrArg Prod.fst hkey))
  | reverified number old record hcall hkept =>
    refine h.leave.append.upsert fun hkey => (h.reverifying number old hcall ?_).append
    exact (congrArg Prod.fst hkept).symm.trans hkey
  | deleted key' =>
    refine Gone.append { h with absent := fun hget => h.absent fun hnone => hget ?_ }
    simp [Repository.remove, hnone]

theorem gone_of_delete (hfree : s.free key) (h : s.act e = some (t, some (.deleted key))) :
    Gone s.calls.length key [] t := by
  have hquiet : ∀ (i : ℕ) c, s.calls[i]? = some (some c) → c.mayWrite key = false := by
    intro i c hi
    have hall := all_eq_true.mp hfree _ (mem_of_getElem? hi)
    simpa using hall
  cases effect_of_act h
  refine ⟨le_rfl, fun hget => absurd (if_pos rfl) hget, ?_, ?_⟩
  · intro i call hi hprofile
    simpa [Call.mayWrite, hprofile] using hquiet i _ hi
  · intro i old hi hkey
    simpa [Call.mayWrite, hkey] using hquiet i _ hi

/-! ## Reverifications keep what they read -/

/-- Unless the record a reverification has read was deleted or imported since, what is stored
differs from it in metadata and verification only. -/
def Current (past : List (Report M)) (s : State M) : Prop :=
  ∀ (i : ℕ) old, s.calls[i]? = some (some (.reverifying old)) → .read i old.key ∈ past ∧
    (¬ Since (.read i old.key) (Report.Replaces old.key) past →
      ∃ record, s.repository.get old.key = some record ∧ record.kept = old.kept)

theorem Current.leave (h : Current past s) : Current past ⟨s.repository, s.calls.set number none⟩ :=
  fun i old hi => h i old (call_of_set hi)

theorem Current.append {more} (h : Current past s) : Current (past ++ more) s := by
  intro i old hi
  obtain ⟨hread, hcurrent⟩ := h i old hi
  exact ⟨mem_append_left _ hread, fun hsince => hcurrent fun hold => hsince hold.append⟩

/-- A write that is reported as one, or keeps what is there. -/
theorem Current.write {repository r} (h : Current past s)
    (hwrite : ∀ key, r.Replaces key ∨ ∀ stored, s.repository.get key = some stored →
      ∃ record, repository.get key = some record ∧ record.kept = stored.kept) :
    Current (past ++ [r]) ⟨repository, s.calls⟩ := by
  intro i old hi
  obtain ⟨hread, hcurrent⟩ := h i old hi
  refine ⟨mem_append_left _ hread, fun hsince => ?_⟩
  rcases hwrite old.key with hreplaces | hkeeps
  · exact absurd (since_concat hread hreplaces) hsince
  · obtain ⟨stored, hstored, hkept⟩ := hcurrent fun hold => hsince hold.append
    obtain ⟨record, hrecord, heq⟩ := hkeeps stored hstored
    exact ⟨record, hrecord, heq.trans hkept⟩

theorem Current.step (h : Current past s) (heffect : Effect s t f)
    (hf : ∀ r, f = some r → Undisturbed past r) :
    Current (past ++ f.toList) t ∧ ∀ r, f = some r → Keeps r := by
  cases heffect with
  | refused => exact ⟨h.append, fun r hr => by cases hr; trivial⟩
  | failed => exact ⟨h.leave.append, fun r hr => by cases hr; trivial⟩
  | began =>
    rw [toList_none, append_nil]
    refine ⟨fun i old hi => ?_, nofun⟩
    rcases getElem?_concat_iff.mp hi with hi | ⟨-, heq⟩
    · exact h i old hi
    · cases heq
  | read record hget =>
    refine ⟨fun i old hi => ?_, fun r hr => by cases hr; trivial⟩
    rcases getElem?_concat_iff.mp hi with hi | ⟨rfl, heq⟩
    · exact h.append i old hi
    · cases heq
      exact ⟨by simp, fun _ => ⟨record, hget, rfl⟩⟩
  | imported number call record =>
    refine ⟨h.leave.write fun key => ?_, fun r hr => by cases hr; trivial⟩
    by_cases hkey : key = record.key
    · exact .inl hkey.symm
    · exact .inr fun stored hstored => ⟨stored, (if_neg hkey).trans hstored, rfl⟩
  | reverified number old record hcall hkept =>
    have hkey : record.key = old.key := congrArg Prod.fst hkept
    obtain ⟨stored, hstored, heq⟩ := (h number old hcall).2 (hkey ▸ hf _ rfl)
    refine ⟨h.leave.write fun key => .inr fun found hfound => ?_, fun r hr => ?_⟩
    · by_cases hold : key = record.key
      · cases (hold.trans hkey ▸ hfound).symm.trans hstored
        exact ⟨record, if_pos hold, hkept.trans heq.symm⟩
      · exact ⟨found, (if_neg hold).trans hfound, rfl⟩
    · cases hr
      exact ⟨stored, hkey ▸ hstored, hkept.trans heq.symm⟩
  | deleted key' =>
    refine ⟨h.write fun key => ?_, fun r hr => by cases hr; trivial⟩
    by_cases hkey : key = key'
    · exact .inl hkey.symm
    · exact .inr fun stored hstored => ⟨stored, (if_neg hkey).trans hstored, rfl⟩

end Effects

/-- **Deletion is final, and reverification loses no update.**  After a delete that returned while
no call in flight could write the credential, it is absent until an import that began after the
delete has stored it; and if none of the records that were reverified was deleted or imported since
it was read, then each was changed in metadata and verification only. -/
theorem deletion_final_and_updates_kept {repository : Repository M} {es : List (Event M)}
    {p : State M} (hp : run (stepOf act) (.initial repository) es = some p) :
    (∀ e q key fs t, p.act e = some (q, some (.deleted key)) → p.free key →
      run (stepOf act) q fs = some t → t.repository.get key ≠ none →
      Stored p.calls.length key (history act q fs)) ∧
    (EveryReport Undisturbed (history act (.initial repository) es) →
      ∀ r ∈ history act (.initial repository) es, Keeps r) := by
  constructor
  · intro e q key fs t hdelete hfree hrun
    have hgone := history_invariant (P := Gone p.calls.length key) hrun
      (gone_of_delete hfree hdelete) fun _ _ _ _ _ hpast hact => hpast.step (effect_of_act hact)
    exact hgone.absent
  · intro hundisturbed
    refine (history_invariant (P := fun past s => EveryReport Undisturbed past →
      Current past s ∧ ∀ r ∈ past, Keeps r) hp (fun _ => ⟨nofun, nofun⟩) ?_ hundisturbed).2
    intro past s e t f ih hact hpast
    obtain ⟨hcurrent, hkeeps⟩ := ih hpast.of_append
    have hlast : ∀ r, f = some r → Undisturbed past r := by
      rintro r rfl
      exact hpast past r [] rfl
    obtain ⟨hnext, hnew⟩ := hcurrent.step (effect_of_act hact) hlast
    refine ⟨hnext, forall_mem_append.mpr ⟨hkeeps, fun r hr => hnew r ?_⟩⟩
    exact mem_toList.mp hr

namespace Sample

def id : OpaqueId := ⟨"passport", by decide, by decide, by decide, by decide⟩

def repository : Repository Unit := ⟨fun _ => none, fun _ _ h => nomatch h⟩

def begins (byte : UInt8) : Event Unit := .importBegun ⟨id, [byte], none, none, true⟩

def stores (number : ℕ) : Event Unit :=
  .imported number (.ok ⟨id, (), .valid⟩) none none

def reads : Event Unit := .reverifyBegun "passport" "passport" none

def reverifies (number : ℕ) : Event Unit :=
  .reverified number (.ok ⟨id, (), .valid⟩) none none

def deletes : Event Unit := .delete ⟨"passport", "passport", true, "DELETE_CREDENTIAL"⟩ none

def record (byte : UInt8) : CredentialRecord Unit := ⟨id, id, [byte], none, none, (), .valid⟩

end Sample

open Sample

theorem sample_undisturbed : EveryReport Undisturbed [.imported 0 (record 1), .read 1 (id, id),
    .reverified 1 (some (record 1)) (record 1)] := by
  have hread : EveryReport Undisturbed [.imported 0 (record 1), .read 1 (id, id)] :=
    (everyReport_nil.append (f := some _) fun _ h => by cases h; trivial).append (f := some _)
      fun _ h => by cases h; trivial
  refine hread.append (f := some _) ?_
  rintro _ ⟨⟩ hsince
  change Since _ _ ([Report.imported 0 (record 1)] ++ (some (Report.read 1 (id, id))).toList)
    at hsince
  rcases hsince.of_append with hbefore | ⟨_, ⟨⟩, hfalse⟩
  · cases mem_singleton.mp hbefore.mem
  · exact hfalse

theorem sample_deletion_final : ∃ p q t, run (stepOf act) (.initial repository)
        [begins 1, stores 0, reads, reverifies 1] = some p ∧
      p.act deletes = some (q, some (.deleted (id, id))) ∧
      run (stepOf act) q [reads, begins 2, stores 2, reads, reverifies 3] = some t ∧
      t.repository.get (id, id) ≠ none ∧
      Stored 2 (id, id) (history act q [reads, begins 2, stores 2, reads, reverifies 3]) ∧
      ∀ r ∈ history act (.initial repository) [begins 1, stores 0, reads, reverifies 1],
        Keeps r := by
  obtain ⟨p, hp⟩ : ∃ p, run (stepOf act) (.initial repository)
      [begins 1, stores 0, reads, reverifies 1] = some p := ⟨_, rfl⟩
  obtain ⟨hfinal, hkept⟩ := deletion_final_and_updates_kept hp
  cases hp
  exact ⟨_, _, _, rfl, rfl, rfl, nofun, hfinal deletes _ _ _ _ rfl rfl rfl nofun,
    hkept sample_undisturbed⟩

/-- A reverification and an import bring back what was deleted in the meantime, and a reverification
undoes an import. -/
theorem deleted_credential_reappears :
    (∃ p q t, run (stepOf act) (.initial repository) [begins 1, stores 0, reads] = some p ∧
      p.act deletes = some (q, some (.deleted (id, id))) ∧
      run (stepOf act) q [reverifies 1] = some t ∧ t.repository.get (id, id) ≠ none ∧
      ¬ Stored 2 (id, id) (history act q [reverifies 1])) ∧
    (∃ p q t, run (stepOf act) (.initial repository) [begins 1, begins 1, stores 0] = some p ∧
      p.act deletes = some (q, some (.deleted (id, id))) ∧
      run (stepOf act) q [stores 1] = some t ∧ t.repository.get (id, id) ≠ none ∧
      ¬ Stored 2 (id, id) (history act q [stores 1])) ∧
    .reverified 1 (some (record 2)) (record 1) ∈ history act (.initial repository)
      [begins 1, stores 0, reads, begins 2, stores 2, reverifies 1] := by
  refine ⟨⟨_, _, _, rfl, rfl, rfl, nofun, ?_⟩, ⟨_, _, _, rfl, rfl, rfl, nofun, ?_⟩, ?_⟩
  · rintro ⟨number, found, hmem, -⟩
    cases mem_singleton.mp hmem
  · rintro ⟨number, found, hmem, -, hlater⟩
    cases mem_singleton.mp hmem
    exact absurd hlater (by decide)
  · exact .tail _ (.tail _ (.tail _ (.head _)))

end Oxid.Credential
