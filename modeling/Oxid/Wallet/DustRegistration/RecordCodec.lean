import Oxid.Wire
import Oxid.Wallet.DustRegistration.Recovery

/-!
# The recovery record on disk

A validated record is a magic number, big-endian fields and strings behind their length.  Each
reader returns a value exactly on what would be written for it.
-/

namespace Oxid.Wallet.DustRegistration

open Result Wire List

def maxRecoveryBytes : ℕ := 4096

def magic : List UInt8 := [0x44, 0x52, 0x52, 0x31]

def AuthorizationPhase.code : AuthorizationPhase → UInt8
  | .awaitingAuthorization => 0
  | .submitting => 1
  | .submitted => 2

def phaseFromCode : UInt8 → Except RecoveryError AuthorizationPhase
  | 0 => .ok .awaitingAuthorization
  | 1 => .ok .submitting
  | 2 => .ok .submitted
  | _ => .error .malformedEncoding

def State.code : State → UInt8
  | .unavailable => 0
  | .notEligible => 1
  | .actionRequired => 2
  | .awaitingAuthorization => 3
  | .submitting => 4
  | .confirming => 5
  | .reconciling => 6
  | .ready => 7
  | .cancelled => 8
  | .offline => 9
  | .timedOut => 10
  | .degraded => 11
  | .suspended => 12

def stateFromCode : UInt8 → Except RecoveryError State
  | 0 => .ok .unavailable
  | 1 => .ok .notEligible
  | 2 => .ok .actionRequired
  | 3 => .ok .awaitingAuthorization
  | 4 => .ok .submitting
  | 5 => .ok .confirming
  | 6 => .ok .reconciling
  | 7 => .ok .ready
  | 8 => .ok .cancelled
  | 9 => .ok .offline
  | 10 => .ok .timedOut
  | 11 => .ok .degraded
  | 12 => .ok .suspended
  | _ => .error .malformedEncoding

def putBool (b : Bool) : List UInt8 := [if b then 1 else 0]

def putU16 (n : UInt16) : List UInt8 := toBytesBE 2 n.toNat

def putU64 (n : UInt64) : List UInt8 := toBytesBE 8 n.toNat

def putString (s : String) : Except RecoveryError (List UInt8) :=
  if (utf8Bytes s).length < 2 ^ 16 then
    .ok (putU16 (UInt16.ofNat (utf8Bytes s).length) ++ utf8Bytes s)
  else .error .malformedEncoding

def putTagged {α : Type} (put : α → Except RecoveryError (List UInt8)) :
    Option α → Except RecoveryError (List UInt8)
  | none => .ok [0]
  | some a => do return 1 :: (← put a)

def RecoveryRegistration.write (value : RecoveryRegistration) :
    Except RecoveryError (List UInt8) := do
  let draft ← putString value.draftId
  let transaction ← putTagged putString value.transactionId
  return draft ++ value.authorizationPhase.code :: transaction ++
    [value.observationRevision, value.finalityRevision, value.reconciliationRevision,
      value.dustRevision, value.dustObservationRevision,
      value.abandonmentRevision].flatMap putU64 ++
    putBool value.dustReady ++ putBool value.included

open RecoveryRegistration

def RecoveryRecord.write (record : RecoveryRecord) : Except RecoveryError (List UInt8) := do
  let profile ← putString record.profileId
  let realm ← putString record.realmId
  let registration ← putTagged (·.write) record.registration
  return magic ++ putU16 record.version ++ [record.state.code] ++
    putBool record.eligible ++
    [record.generation, record.eligibilityRevision, record.preparationRevision,
      record.recoveryRevision].flatMap putU64 ++
    profile ++ realm ++ registration

def RecoveryRecord.encode (record : RecoveryRecord) : Except RecoveryError (List UInt8) := do
  record.validate
  let output ← record.write
  rejectIf (maxRecoveryBytes < output.length) .malformedEncoding
  return output

abbrev Reader := Wire.Reader RecoveryError

namespace Reader

def bytes (n : ℕ) : Reader (List UInt8) := takeBytes .malformedEncoding n

def u8 : Reader UInt8 := do
  let raw ← bytes 1
  return raw.headD 0

def bool : Reader Bool := do
  match ← u8 with
  | 0 => return false
  | 1 => return true
  | _ => throw .malformedEncoding

def u16 : Reader UInt16 := do
  let raw ← bytes 2
  return UInt16.ofNat (ofBytesBE raw)

def u64 : Reader UInt64 := do
  let raw ← bytes 8
  return UInt64.ofNat (ofBytesBE raw)

def string : Reader String := do
  let length ← u16
  let raw ← bytes length.toNat
  match ofUtf8Bytes raw with
  | some s => return s
  | none => throw .malformedEncoding

def tagged {α : Type} (value : Reader α) : Reader (Option α) := do
  match ← u8 with
  | 0 => return none
  | 1 => return some (← value)
  | _ => throw .malformedEncoding

def registration : Reader RecoveryRegistration := do
  let draftId ← string
  let authorizationPhase ← liftM (phaseFromCode (← u8))
  let transactionId ← tagged string
  let observationRevision ← u64
  let finalityRevision ← u64
  let reconciliationRevision ← u64
  let dustRevision ← u64
  let dustObservationRevision ← u64
  let abandonmentRevision ← u64
  let dustReady ← bool
  let included ← bool
  return {
    draftId, authorizationPhase, transactionId, observationRevision, finalityRevision,
    reconciliationRevision, dustRevision, dustObservationRevision, dustReady, included,
    abandonmentRevision }

def record : Reader RecoveryRecord := do
  let raw ← bytes 4
  liftM (rejectIf (raw ≠ magic) RecoveryError.malformedEncoding)
  let version ← u16
  let state ← liftM (stateFromCode (← u8))
  let eligible ← bool
  let generation ← u64
  let eligibilityRevision ← u64
  let preparationRevision ← u64
  let recoveryRevision ← u64
  let profileId ← string
  let realmId ← string
  let registration ← tagged registration
  return {
    version, profileId, realmId, generation, eligibilityRevision, eligible,
    preparationRevision, recoveryRevision, state, registration }

end Reader

def RecoveryRecord.decode (input : List UInt8) : Except RecoveryError RecoveryRecord := do
  rejectIf (maxRecoveryBytes < input.length) .malformedEncoding
  let (record, rest) ← Reader.record.run input
  rejectIf (!rest.isEmpty) .malformedEncoding
  record.validate
  return record

theorem phaseFromCode_ok_iff {c phase} : phaseFromCode c = .ok phase ↔ c = phase.code := by
  constructor
  · intro h
    simp only [phaseFromCode] at h
    split at h <;> cases h <;> rfl
  · rintro rfl
    cases phase <;> rfl

theorem stateFromCode_ok_iff {c state} : stateFromCode c = .ok state ↔ c = state.code := by
  constructor
  · intro h
    simp only [stateFromCode] at h
    split at h <;> cases h <;> rfl
  · rintro rfl
    cases state <;> rfl

theorem putString_ok_iff {s bs} : putString s = .ok bs ↔ (utf8Bytes s).length < 2 ^ 16 ∧
      putU16 (UInt16.ofNat (utf8Bytes s).length) ++ utf8Bytes s = bs := by
  rw [putString]
  split_ifs with h
  · rw [Except.ok.injEq]
    exact ⟨fun hb => ⟨h, hb⟩, And.right⟩
  · exact iff_of_false (by simp) fun hb => h hb.1

section Fields
variable {input rest : List UInt8}

open Reader

theorem reads_u8 {b} : Reads u8 input b rest ↔ input = b :: rest := by
  simp only [u8, bytes, reads_bind, reads_takeBytes, reads_pure]
  constructor
  · rintro ⟨bs, mid, ⟨hlen, rfl⟩, rfl, rfl⟩
    obtain ⟨c, rfl⟩ := length_eq_one_iff.mp hlen
    rfl
  · rintro rfl
    exact ⟨[b], rest, ⟨rfl, rfl⟩, rfl, rfl⟩

theorem reads_bool {b} : Reads Reader.bool input b rest ↔ input = putBool b ++ rest := by
  simp only [Reader.bool, reads_bind, reads_u8]
  constructor
  · rintro ⟨c, mid, rfl, h⟩
    split at h
    · obtain ⟨rfl, rfl⟩ := reads_pure.mp h
      rfl
    · obtain ⟨rfl, rfl⟩ := reads_pure.mp h
      rfl
    · exact absurd h reads_throw
  · rintro rfl
    cases b
    · exact ⟨0, rest, rfl, reads_pure.mpr ⟨rfl, rfl⟩⟩
    · exact ⟨1, rest, rfl, reads_pure.mpr ⟨rfl, rfl⟩⟩

theorem reads_u16 {n} : Reads u16 input n rest ↔ input = putU16 n ++ rest := by
  apply reads_digits
  · exact fun _ => UInt16.ofNat_toNat
  · intro m hm
    rw [UInt16.toNat_ofNat']
    exact Nat.mod_eq_of_lt hm
  · exact UInt16.toNat_lt

theorem reads_u64 {n} : Reads u64 input n rest ↔ input = putU64 n ++ rest := by
  apply reads_digits
  · exact fun _ => UInt64.ofNat_toNat
  · intro m hm
    rw [UInt64.toNat_ofNat']
    exact Nat.mod_eq_of_lt hm
  · exact UInt64.toNat_lt

theorem inverts_string : Inverts string putString := by
  intro input s rest
  simp only [string, bytes, reads_bind, reads_u16, reads_takeBytes, putString_ok_iff]
  constructor
  · rintro ⟨n, mid, rfl, bs, mid', ⟨hlen, rfl⟩, h⟩
    cases hs : ofUtf8Bytes bs with
    | none =>
      rw [hs] at h
      exact absurd h reads_throw
    | some =>
      rw [hs] at h
      obtain ⟨rfl, rfl⟩ := reads_pure.mp h
      obtain rfl := ofUtf8Bytes_eq_some_iff.mp hs
      refine ⟨_, ⟨by rw [hlen]; exact n.toNat_lt, rfl⟩, ?_⟩
      rw [hlen, UInt16.ofNat_toNat, append_assoc]
  · rintro ⟨bs, ⟨hlen, rfl⟩, rfl⟩
    have hn : (UInt16.ofNat (utf8Bytes s).length).toNat = (utf8Bytes s).length := by
      rw [UInt16.toNat_ofNat']
      omega
    refine ⟨_, _, append_assoc _ _ _, utf8Bytes s, rest, ⟨hn.symm, rfl⟩, ?_⟩
    rw [ofUtf8Bytes_eq_some_iff.mpr rfl]
    exact reads_pure.mpr ⟨rfl, rfl⟩

theorem inverts_tagged {α : Type} {p : Reader α} {put : α → Except RecoveryError (List UInt8)}
    (h : Inverts p put) : Inverts (tagged p) (putTagged put) := by
  intro input o rest
  simp only [tagged, reads_bind, reads_u8]
  constructor
  · rintro ⟨c, mid, rfl, hp⟩
    split at hp
    · obtain ⟨rfl, rfl⟩ := reads_pure.mp hp
      exact ⟨[0], rfl, rfl⟩
    · obtain ⟨a, mid', ha, hp⟩ := reads_bind.mp hp
      obtain ⟨rfl, rfl⟩ := reads_pure.mp hp
      obtain ⟨bs, hbs, rfl⟩ := (h _ _ _).mp ha
      refine ⟨1 :: bs, ?_, rfl⟩
      rw [putTagged, hbs]
      rfl
    · exact absurd hp reads_throw
  · rintro ⟨bs, hbs, rfl⟩
    cases o with
    | none =>
      cases hbs
      exact ⟨0, rest, rfl, reads_pure.mpr ⟨rfl, rfl⟩⟩
    | some a =>
      simp only [putTagged, bind_ok_iff] at hbs
      obtain ⟨bs', ha, hbs⟩ := hbs
      cases hbs
      refine ⟨1, bs' ++ rest, rfl, reads_bind.mpr ⟨a, rest, (h _ _ _).mpr ⟨bs', ha, rfl⟩, ?_⟩⟩
      exact reads_pure.mpr ⟨rfl, rfl⟩

theorem inverts_registration : Inverts registration (·.write) := by
  intro input value rest
  constructor
  · intro h
    obtain ⟨draftId, _, hdraft, h⟩ := reads_bind.mp h
    obtain ⟨code, _, hcode, h⟩ := reads_bind.mp h
    obtain ⟨phase, _, hphase, h⟩ := reads_bind.mp h
    obtain ⟨transactionId, _, htransaction, h⟩ := reads_bind.mp h
    obtain ⟨observation, _, hobservation, h⟩ := reads_bind.mp h
    obtain ⟨finality, _, hfinality, h⟩ := reads_bind.mp h
    obtain ⟨reconciliation, _, hreconciliation, h⟩ := reads_bind.mp h
    obtain ⟨dust, _, hdust, h⟩ := reads_bind.mp h
    obtain ⟨dustObservation, _, hdustObservation, h⟩ := reads_bind.mp h
    obtain ⟨abandonment, _, habandonment, h⟩ := reads_bind.mp h
    obtain ⟨dustReady, _, hdustReady, h⟩ := reads_bind.mp h
    obtain ⟨included, _, hincluded, h⟩ := reads_bind.mp h
    obtain ⟨hvalue, hrest⟩ := reads_pure.mp h
    rw [reads_u64] at hobservation hfinality hreconciliation hdust hdustObservation habandonment
    rw [reads_bool] at hdustReady hincluded
    rw [reads_u8] at hcode
    rw [reads_lift, phaseFromCode_ok_iff] at hphase
    obtain ⟨draft, hput, hdraft⟩ := (inverts_string _ _ _).mp hdraft
    obtain ⟨transaction, hput', htransaction⟩ :=
      (inverts_tagged inverts_string _ _ _).mp htransaction
    refine ⟨_, by simp only [← hvalue, write, hput, hput']; rfl, ?_⟩
    rw [hdraft, hcode, hphase.1, hphase.2, htransaction, hobservation, hfinality, hreconciliation,
      hdust, hdustObservation, habandonment, hdustReady, hincluded, hrest]
    simp
  · rintro ⟨bs, hbs, rfl⟩
    simp only [registration, reads_bind, inverts_string _ _ _, reads_u8, reads_lift,
      phaseFromCode_ok_iff, inverts_tagged inverts_string _ _ _, reads_u64, reads_bool, reads_pure]
    simp only [write, bind_ok_iff] at hbs
    obtain ⟨draft, hd, transaction, ht, hbs⟩ := hbs
    cases hbs
    simp only [flatMap_cons, flatMap_nil, append_nil, append_assoc, cons_append]
    exact ⟨_, _, ⟨draft, hd, rfl⟩, _, _, rfl, _, _, ⟨rfl, rfl⟩, _, _, ⟨transaction, ht, rfl⟩, _, _,
      rfl, _, _, rfl, _, _, rfl, _, _, rfl, _, _, rfl, _, _, rfl, _, _, rfl, _, _, rfl, rfl, rfl⟩

theorem inverts_record : Inverts Reader.record (·.write) := by
  intro input record rest
  constructor
  · intro h
    obtain ⟨raw, _, hraw, h⟩ := reads_bind.mp h
    obtain ⟨_, _, hmagic, h⟩ := reads_bind.mp h
    obtain ⟨version, _, hversion, h⟩ := reads_bind.mp h
    obtain ⟨code, _, hcode, h⟩ := reads_bind.mp h
    obtain ⟨state, _, hstate, h⟩ := reads_bind.mp h
    obtain ⟨eligible, _, heligible, h⟩ := reads_bind.mp h
    obtain ⟨generation, _, hgeneration, h⟩ := reads_bind.mp h
    obtain ⟨eligibility, _, heligibility, h⟩ := reads_bind.mp h
    obtain ⟨preparation, _, hpreparation, h⟩ := reads_bind.mp h
    obtain ⟨recovery, _, hrecovery, h⟩ := reads_bind.mp h
    obtain ⟨profileId, _, hprofile, h⟩ := reads_bind.mp h
    obtain ⟨realmId, _, hrealm, h⟩ := reads_bind.mp h
    obtain ⟨registration, _, hregistration, h⟩ := reads_bind.mp h
    obtain ⟨hrecord, hrest⟩ := reads_pure.mp h
    rw [Reader.bytes, reads_takeBytes] at hraw
    rw [reads_lift, rejectIf_ok_iff, decide_eq_false_iff_not, not_not] at hmagic
    rw [reads_u16] at hversion
    rw [reads_u8] at hcode
    rw [reads_lift, stateFromCode_ok_iff] at hstate
    rw [reads_bool] at heligible
    rw [reads_u64] at hgeneration heligibility hpreparation hrecovery
    obtain ⟨profile, hput, hprofile⟩ := (inverts_string _ _ _).mp hprofile
    obtain ⟨realm, hput', hrealm⟩ := (inverts_string _ _ _).mp hrealm
    obtain ⟨fields, hwrite, hregistration⟩ :=
      (inverts_tagged inverts_registration _ _ _).mp hregistration
    refine ⟨_, by simp only [← hrecord, RecoveryRecord.write, hput, hput', hwrite]; rfl, ?_⟩
    rw [hraw.2, hmagic.1, hmagic.2, hversion, hcode, hstate.1, hstate.2, heligible, hgeneration,
      heligibility, hpreparation, hrecovery, hprofile, hrealm, hregistration, hrest]
    simp
  · rintro ⟨bs, hbs, rfl⟩
    simp only [Reader.record, Reader.bytes, reads_bind, reads_takeBytes, reads_lift,
      rejectIf_ok_iff, decide_eq_false_iff_not, not_not, reads_u16, reads_u8,
      stateFromCode_ok_iff, reads_bool, reads_u64, inverts_string _ _ _,
      inverts_tagged inverts_registration _ _ _, reads_pure]
    simp only [RecoveryRecord.write, bind_ok_iff] at hbs
    obtain ⟨profile, hp, realm, hr, registration, hg, hbs⟩ := hbs
    cases hbs
    simp only [flatMap_cons, flatMap_nil, append_nil, append_assoc, cons_append, nil_append]
    exact ⟨magic, _, ⟨rfl, rfl⟩, (), _, ⟨rfl, rfl⟩, _, _, rfl, _, _, rfl, _, _, ⟨rfl, rfl⟩,
      _, _, rfl, _, _, rfl, _, _, rfl, _, _, rfl, _, _, rfl, _, _, ⟨profile, hp, rfl⟩,
      _, _, ⟨realm, hr, rfl⟩, _, _, ⟨registration, hg, rfl⟩, rfl, rfl⟩

end Fields

section Sizes

theorem exists_putString (i : Foundation.OpaqueId) :
    ∃ bs, putString i.asStr = .ok bs ∧ bs.length ≤ 514 := by
  have hlen : (utf8Bytes i.value).length ≤ 512 := by
    have hbytes := length_utf8Bytes_le i.value
    have hshort := i.short
    omega
  refine ⟨_, putString_ok_iff.mpr ⟨?_, rfl⟩, ?_⟩
  · rw [Foundation.OpaqueId.asStr]
    omega
  · rw [length_append, putU16, length_toBytesBE, Foundation.OpaqueId.asStr]
    omega

theorem exists_putTagged {α : Type} {put n} {o : Option α}
    (h : ∀ a, o = some a → ∃ bs, put a = .ok bs ∧ bs.length ≤ n) :
    ∃ bs, putTagged put o = .ok bs ∧ bs.length ≤ n + 1 := by
  cases o with
  | none => exact ⟨[0], rfl, by simp⟩
  | some a =>
    obtain ⟨bs, hbs, hlen⟩ := h a rfl
    refine ⟨1 :: bs, ?_, by simpa using hlen⟩
    rw [putTagged, hbs]
    rfl

theorem exists_write_registration {value : RecoveryRegistration} (h : value.validate = .ok ()) :
    ∃ bs, value.write = .ok bs ∧ bs.length ≤ 1080 := by
  simp only [validate, bind_ok_iff, mapError_ok_iff, mapM_ok_iff,
    WalletTransactionDraftId.parse_ok_iff, ChainTransactionId.parse_ok_iff] at h
  obtain ⟨d, hd, t, ht, -⟩ := h
  obtain ⟨draft, hdraft, hdlen⟩ := exists_putString d.id
  obtain ⟨transaction, htransaction, htlen⟩ :
      ∃ bs, putTagged putString value.transactionId = .ok bs ∧ bs.length ≤ 515 := by
    refine exists_putTagged fun id hid => ?_
    rcases ht with ⟨hnone, -⟩ | ⟨id', t', hsome, ht', -⟩
    · rw [hid] at hnone
      cases hnone
    · rw [hid, Option.some.injEq] at hsome
      rw [hsome, ← ht']
      exact exists_putString t'.id
  rw [hd] at hdraft
  refine ⟨_, by simp only [write, hdraft, htransaction]; rfl, ?_⟩
  simp [putU64, putBool]
  omega

theorem exists_write {record : RecoveryRecord} (h : record.validate = .ok ()) :
    ∃ bs, record.write = .ok bs ∧ bs.length ≤ maxRecoveryBytes := by
  simp only [RecoveryRecord.validate, bind_ok_iff, mapError_ok_iff, mapM_ok_iff,
    WalletProfileId.parse_ok_iff, ChainNetworkId.parse_ok_iff] at h
  obtain ⟨-, -, p, hp, r, hr, checked, hchecked, -⟩ := h
  obtain ⟨profile, hprofile, hplen⟩ := exists_putString p.id
  obtain ⟨realm, hrealm, hrlen⟩ := exists_putString r.id
  obtain ⟨registration, hregistration, hglen⟩ :
      ∃ bs, putTagged (·.write) record.registration = .ok bs ∧ bs.length ≤ 1081 := by
    refine exists_putTagged fun value hvalue => ?_
    rcases hchecked with ⟨hnone, -⟩ | ⟨value', u, hsome, hok, -⟩
    · rw [hvalue] at hnone
      cases hnone
    · rw [hvalue, Option.some.injEq] at hsome
      exact exists_write_registration (hsome ▸ hok)
  rw [hp] at hprofile
  rw [hr] at hrealm
  refine ⟨_, by simp only [RecoveryRecord.write, hprofile, hrealm, hregistration]; rfl, ?_⟩
  simp [putU64, putU16, putBool, magic, maxRecoveryBytes]
  omega

end Sizes

section Bijection
variable {record : RecoveryRecord} {bs : List UInt8}

theorem encode_ok_iff : record.encode = .ok bs ↔
    record.validate = .ok () ∧ record.write = .ok bs ∧ bs.length ≤ maxRecoveryBytes := by
  simp only [RecoveryRecord.encode, bind_ok_iff, rejectIf_ok_iff, exists_const,
    decide_eq_false_iff_not, not_lt]
  constructor
  · rintro ⟨⟨⟩, hv, output, hw, hlen, heq⟩
    cases heq
    exact ⟨hv, hw, hlen⟩
  · rintro ⟨hv, hw, hlen⟩
    exact ⟨(), hv, bs, hw, hlen, rfl⟩

/-- **Decoding inverts encoding.** -/
theorem decode_ok_iff : RecoveryRecord.decode bs = .ok record ↔ record.encode = .ok bs := by
  have hread : ∀ rest, Reads Reader.record bs record rest ↔
      ∃ written, record.write = .ok written ∧ bs = written ++ rest :=
    inverts_record bs record
  rw [encode_ok_iff]
  simp only [RecoveryRecord.decode, bind_ok_iff, rejectIf_ok_iff, exists_const,
    decide_eq_false_iff_not, not_lt, Bool.not_eq_false', List.isEmpty_iff]
  constructor
  · rintro ⟨hlen, ⟨record', rest⟩, hr, rfl, ⟨⟩, hv, heq⟩
    cases heq
    obtain ⟨written, hw, hbs⟩ := (hread []).mp hr
    rw [List.append_nil] at hbs
    exact ⟨hv, hbs ▸ hw, hlen⟩
  · rintro ⟨hv, hw, hlen⟩
    have hr := (hread []).mpr ⟨bs, hw, (List.append_nil bs).symm⟩
    exact ⟨hlen, (record, []), hr, rfl, (), hv, rfl⟩

theorem decode_append {record' extra} (h : RecoveryRecord.decode bs = .ok record)
    (h' : RecoveryRecord.decode (bs ++ extra) = .ok record') : extra = [] := by
  obtain ⟨-, hw, -⟩ := encode_ok_iff.mp (decode_ok_iff.mp h)
  obtain ⟨-, hw', -⟩ := encode_ok_iff.mp (decode_ok_iff.mp h')
  have hr := (inverts_record (bs ++ extra) record extra).mpr ⟨bs, hw, rfl⟩
  have hr' := (inverts_record (bs ++ extra) record' []).mpr ⟨_, hw', (append_nil _).symm⟩
  rw [Reads, hr'] at hr
  cases hr
  rfl

end Bijection

/-- **The format is a bijection** between the valid records and the accepted files.  An encoding is
at most 4096 bytes; an accepted file is the encoding of what it is decoded to, and neither continues
nor begins another one. -/
theorem codec_bijective : (∀ record : RecoveryRecord, record.validate = .ok () →
      ∃ bs, record.encode = .ok bs ∧ bs.length ≤ maxRecoveryBytes ∧
        RecoveryRecord.decode bs = .ok record) ∧
    (∀ bs record, RecoveryRecord.decode bs = .ok record → record.encode = .ok bs) ∧
    (∀ (record record' : RecoveryRecord) bs,
      record.encode = .ok bs → record'.encode = .ok bs → record = record') ∧
    (∀ bs extra record, RecoveryRecord.decode bs = .ok record → extra ≠ [] →
      ∃ e, RecoveryRecord.decode (bs ++ extra) = .error e) ∧
    ∀ bs extra record, RecoveryRecord.decode (bs ++ extra) = .ok record → extra ≠ [] →
      ∃ e, RecoveryRecord.decode bs = .error e := by
  refine ⟨?_, fun bs record h => decode_ok_iff.mp h, ?_, ?_, ?_⟩
  · intro record hv
    obtain ⟨bs, hw, hlen⟩ := exists_write hv
    have hencode := encode_ok_iff.mpr ⟨hv, hw, hlen⟩
    exact ⟨bs, hencode, hlen, decode_ok_iff.mpr hencode⟩
  · intro record record' bs h h'
    have hd := decode_ok_iff.mpr h
    rw [decode_ok_iff.mpr h'] at hd
    exact (Except.ok.inj hd).symm
  · intro bs extra record h hextra
    cases h' : RecoveryRecord.decode (bs ++ extra) with
    | error e => exact ⟨e, rfl⟩
    | ok => exact absurd (decode_append h h') hextra
  · intro bs extra record h hextra
    cases h' : RecoveryRecord.decode bs with
    | error e => exact ⟨e, rfl⟩
    | ok => exact absurd (decode_append h' h) hextra

open Sample

def confirmingRecord : RecoveryRecord where
  version := recoveryVersion
  profileId := "profile_test"
  realmId := "undeployed"
  generation := 1
  eligibilityRevision := 1
  eligible := true
  preparationRevision := 1
  recoveryRevision := 0
  state := .confirming
  registration := some {
    draftId := "dustreg_test"
    authorizationPhase := .submitted
    transactionId := some "tx_test"
    observationRevision := 0
    finalityRevision := 0
    reconciliationRevision := 0
    dustRevision := 0
    dustObservationRevision := 0
    dustReady := false
    included := false
    abandonmentRevision := 0 }

theorem codec_bijective_confirming : ∃ bs, confirmingRecord.encode = .ok bs ∧
      RecoveryRecord.decode bs = .ok confirmingRecord ∧
      ∃ e, RecoveryRecord.decode (bs ++ [0]) = .error e := by
  obtain ⟨hencode, -, -, htrailing, -⟩ := codec_bijective
  obtain ⟨bs, hbs, -, hdecode⟩ := hencode confirmingRecord (by decide +kernel)
  exact ⟨bs, hbs, hdecode, htrailing bs [0] _ hdecode (by decide)⟩

end Oxid.Wallet.DustRegistration
