import Oxid.Backup.Custody

/-!
# Complete backups

A header and a ciphertext, whose plaintext is a frame with fixed offsets, the profile and four
sections.  Writer and reader check limits in different places.  Key derivation, cipher, random
bytes and `serde_json` are parameters.
-/

namespace Oxid.Backup
open Result Wallet Wire Nat

/-! ## Archives -/

def maxProfileSnapshotBytes : ℕ := 1024 * 1024

def maxDidSnapshotBytes : ℕ := 2 * 1024 * 1024

def maxCredentialSnapshotBytes : ℕ := 67174400

def maxPortableWalletBackupBytes : ℕ := 80 * 1024 * 1024

structure CompleteWalletArchive where
  profileId : WalletProfileId
  (profileSnapshot didSnapshot credentialSnapshot : List UInt8)
  custody : PortableCustodyVault
  owner : custody.profileId = profileId
  profileFits : SectionFits maxProfileSnapshotBytes profileSnapshot
  didFits : SectionFits maxDidSnapshotBytes didSnapshot
  credentialFits : SectionFits maxCredentialSnapshotBytes credentialSnapshot
  deriving DecidableEq

instance decidableSectionFits (maximum : ℕ) (bytes : List UInt8) :
    Decidable (SectionFits maximum bytes) :=
  inferInstanceAs (Decidable (_ ∧ _))

def CompleteWalletArchive.new (profileId : WalletProfileId)
    (profileSnapshot didSnapshot credentialSnapshot : List UInt8) (custody : PortableCustodyVault) :
    Except PortableBackupPortError CompleteWalletArchive :=
  if h₁ : custody.profileId ≠ profileId then .error .wrongProfile
  else if h₂ : ¬ SectionFits maxProfileSnapshotBytes profileSnapshot then .error .invalidPackage
  else if h₃ : ¬ SectionFits maxDidSnapshotBytes didSnapshot then .error .invalidPackage
  else if h₄ : ¬ SectionFits maxCredentialSnapshotBytes credentialSnapshot then
    .error .invalidPackage
  else
    .ok ⟨profileId, profileSnapshot, didSnapshot, credentialSnapshot, custody,
      Decidable.not_not.mp h₁, Decidable.not_not.mp h₂, Decidable.not_not.mp h₃,
      Decidable.not_not.mp h₄⟩

theorem CompleteWalletArchive.new_ok_iff
    {profileId profileSnapshot didSnapshot credentialSnapshot custody archive} :
    CompleteWalletArchive.new profileId profileSnapshot didSnapshot credentialSnapshot custody =
        .ok archive ↔ archive.profileId = profileId ∧ archive.profileSnapshot = profileSnapshot ∧
        archive.didSnapshot = didSnapshot ∧ archive.credentialSnapshot = credentialSnapshot ∧
        archive.custody = custody := by
  constructor
  · intro h
    rw [new] at h
    split_ifs at h
    cases h
    exact ⟨rfl, rfl, rfl, rfl, rfl⟩
  · intro h
    obtain ⟨rfl, rfl, rfl, rfl, rfl⟩ := h
    rw [new, dif_neg (not_not.mpr archive.owner), dif_neg (not_not.mpr archive.profileFits),
      dif_neg (not_not.mpr archive.didFits), dif_neg (not_not.mpr archive.credentialFits)]

/-! ## The plaintext -/

def completeFrameMagic : List UInt8 := [0x4F, 0x58, 0x49, 0x44, 0x41, 0x4C, 0x4C, 0x31]

def completeFrameVersion : ℕ := 1

def completeFrameFixedBytes : ℕ := 28

def maxArchiveProfileIdBytes : ℕ := 128

def headerBytes : ℕ := 68

def tagBytes : ℕ := 16

def frameHeader (profileId profile did credential custody : List UInt8) : List UInt8 :=
  completeFrameMagic ++ toBytesBE 2 completeFrameVersion ++ toBytesBE 2 profileId.length ++
    toBytesBE 4 profile.length ++ toBytesBE 4 did.length ++ toBytesBE 4 credential.length ++
    toBytesBE 4 custody.length

def frame (profileId profile did credential custody : List UInt8) : List UInt8 :=
  frameHeader profileId profile did credential custody ++ profileId ++ profile ++ did ++
    credential ++ custody

def sectionLength (bytes : List UInt8) : Except PortableBackupPortError ℕ :=
  if bytes.length < 2 ^ 32 then .ok bytes.length else .error .invalidOperation

def encodeCompleteArchive (json : VaultJson) (archive : CompleteWalletArchive) :
    Except PortableBackupPortError (List UInt8) := do
  let custody ← encodeCustody json archive.custody
  let profileId := utf8Bytes archive.profileId.id.asStr
  rejectIf (profileId.isEmpty || maxArchiveProfileIdBytes < profileId.length) .invalidOperation
  rejectIf (2 ^ 16 ≤ profileId.length) .invalidOperation
  let _ ← sectionLength archive.profileSnapshot
  let _ ← sectionLength archive.didSnapshot
  let _ ← sectionLength archive.credentialSnapshot
  let _ ← sectionLength custody
  let capacity := completeFrameFixedBytes + profileId.length + archive.profileSnapshot.length +
    archive.didSnapshot.length + archive.credentialSnapshot.length + custody.length
  rejectIf (maxPortableWalletBackupBytes < capacity + headerBytes + tagBytes) .invalidOperation
  return frame profileId archive.profileSnapshot archive.didSnapshot archive.credentialSnapshot
    custody

def takeSection (bytes : List UInt8) (cursor length : ℕ) :
    Except PortableBackupPortError (List UInt8 × ℕ) :=
  if cursor + length ≤ bytes.length then
    .ok (slice bytes cursor (cursor + length), cursor + length)
  else .error .invalidPackage

def decodeCompleteArchive (json : VaultJson) (plaintext : List UInt8) :
    Except PortableBackupPortError CompleteWalletArchive := do
  rejectIf (plaintext.length < completeFrameFixedBytes ||
    slice plaintext 0 8 ≠ completeFrameMagic) .invalidPackage
  rejectIf (numberAt plaintext 8 10 ≠ completeFrameVersion) .invalidPackage
  let profileIdLength := numberAt plaintext 10 12
  rejectIf (profileIdLength = 0 || maxArchiveProfileIdBytes < profileIdLength) .invalidPackage
  let profileLength := numberAt plaintext 12 16
  let didLength := numberAt plaintext 16 20
  let credentialLength := numberAt plaintext 20 24
  let custodyLength := numberAt plaintext 24 28
  rejectIf (profileLength = 0 || maxProfileSnapshotBytes < profileLength) .invalidPackage
  rejectIf (didLength = 0 || maxDidSnapshotBytes < didLength) .invalidPackage
  rejectIf (credentialLength = 0 || maxCredentialSnapshotBytes < credentialLength)
    .invalidPackage
  rejectIf (custodyLength = 0 || maxCustodySnapshotBytes < custodyLength) .invalidPackage
  rejectIf (completeFrameFixedBytes + profileIdLength + profileLength + didLength +
    credentialLength + custodyLength ≠ plaintext.length) .invalidPackage
  let (profileIdBytes, cursor) ← takeSection plaintext completeFrameFixedBytes profileIdLength
  let profileId ← okOr (ofUtf8Bytes profileIdBytes) .invalidPackage
  let profileId ← (WalletProfileId.parse profileId).mapError fun _ => .invalidPackage
  let (profileSnapshot, cursor) ← takeSection plaintext cursor profileLength
  let (didSnapshot, cursor) ← takeSection plaintext cursor didLength
  let (credentialSnapshot, cursor) ← takeSection plaintext cursor credentialLength
  let (custody, cursor) ← takeSection plaintext cursor custodyLength
  let custody ← decodeCustody json custody
  rejectIf (cursor ≠ plaintext.length) .invalidPackage
  (CompleteWalletArchive.new profileId profileSnapshot didSnapshot credentialSnapshot
    custody).mapError fun error =>
      match error with
      | .wrongProfile => .invalidPackage
      | other => other

structure FrameParts (plaintext profileId profile did credential custody : List UInt8) : Prop where
  magic : slice plaintext 0 8 = completeFrameMagic
  version : numberAt plaintext 8 10 = completeFrameVersion
  profileIdLength : numberAt plaintext 10 12 = profileId.length
  profileLength : numberAt plaintext 12 16 = profile.length
  didLength : numberAt plaintext 16 20 = did.length
  credentialLength : numberAt plaintext 20 24 = credential.length
  custodyLength : numberAt plaintext 24 28 = custody.length
  total : completeFrameFixedBytes + profileId.length + profile.length + did.length +
    credential.length + custody.length = plaintext.length
  profileIdAt : slice plaintext completeFrameFixedBytes
    (completeFrameFixedBytes + profileId.length) = profileId
  profileAt : slice plaintext (completeFrameFixedBytes + profileId.length)
    (completeFrameFixedBytes + profileId.length + profile.length) = profile
  didAt : slice plaintext (completeFrameFixedBytes + profileId.length + profile.length)
    (completeFrameFixedBytes + profileId.length + profile.length + did.length) = did
  credentialAt : slice plaintext
    (completeFrameFixedBytes + profileId.length + profile.length + did.length)
    (completeFrameFixedBytes + profileId.length + profile.length + did.length +
      credential.length) = credential
  custodyAt : slice plaintext
    (completeFrameFixedBytes + profileId.length + profile.length + did.length +
      credential.length)
    (completeFrameFixedBytes + profileId.length + profile.length + did.length +
      credential.length + custody.length) = custody

section Frame
variable {plaintext profileId profile did credential custody : List UInt8}

theorem frame_eq : frame profileId profile did credential custody =
    completeFrameMagic ++ (toBytesBE 2 completeFrameVersion ++ (toBytesBE 2 profileId.length ++
      (toBytesBE 4 profile.length ++ (toBytesBE 4 did.length ++ (toBytesBE 4 credential.length ++
        (toBytesBE 4 custody.length ++ (profileId ++ (profile ++ (did ++ (credential ++
          custody)))))))))) := by
  simp only [frame, frameHeader, List.append_assoc]

@[simp] theorem length_frameHeader :
    (frameHeader profileId profile did credential custody).length = completeFrameFixedBytes := by
  simp [frameHeader, completeFrameMagic, completeFrameFixedBytes]

theorem frameParts_frame (hprofileId : profileId.length < 256 ^ 2)
    (hprofile : profile.length < 256 ^ 4) (hdid : did.length < 256 ^ 4)
    (hcredential : credential.length < 256 ^ 4) (hcustody : custody.length < 256 ^ 4) :
    FrameParts (frame profileId profile did credential custody)
      profileId profile did credential custody := by
  have h := List.drop_zero (l := frame profileId profile did credential custody)
  conv_rhs at h => rw [frame_eq]
  obtain ⟨magic, h⟩ := slice_of_drop h (rfl : 0 + completeFrameMagic.length = 8)
  obtain ⟨version, h⟩ := numberAt_of_drop h (rfl : 8 + 2 = 10) (by decide)
  obtain ⟨profileIdLength, h⟩ := numberAt_of_drop h (rfl : 10 + 2 = 12) hprofileId
  obtain ⟨profileLength, h⟩ := numberAt_of_drop h (rfl : 12 + 4 = 16) hprofile
  obtain ⟨didLength, h⟩ := numberAt_of_drop h (rfl : 16 + 4 = 20) hdid
  obtain ⟨credentialLength, h⟩ := numberAt_of_drop h (rfl : 20 + 4 = 24) hcredential
  obtain ⟨custodyLength, h⟩ := numberAt_of_drop h (rfl : 24 + 4 = completeFrameFixedBytes) hcustody
  obtain ⟨profileIdAt, h⟩ := slice_of_drop h rfl
  obtain ⟨profileAt, h⟩ := slice_of_drop h rfl
  obtain ⟨didAt, h⟩ := slice_of_drop h rfl
  obtain ⟨credentialAt, h⟩ := slice_of_drop h rfl
  -- Nothing follows the last section.
  obtain ⟨custodyAt, -⟩ := slice_of_drop (h.trans (List.append_nil _).symm) rfl
  refine ⟨magic, version, profileIdLength, profileLength, didLength, credentialLength,
    custodyLength, ?_, profileIdAt, profileAt, didAt, credentialAt, custodyAt⟩
  simp only [frame, List.length_append, length_frameHeader]

theorem FrameParts.eq_frame
    (parts : FrameParts plaintext profileId profile did credential custody) :
    plaintext = frame profileId profile did credential custody := by
  have total := parts.total
  have hfixed : completeFrameFixedBytes = 28 := rfl
  -- From each offset on, the field that stands there and the rest.
  have hmagic := drop_of_slice parts.magic (zero_le 8)
  have hversion := drop_of_numberAt parts.version (rfl : 8 + 2 = 10) (by omega)
  have hprofileIdLength := drop_of_numberAt parts.profileIdLength (rfl : 10 + 2 = 12) (by omega)
  have hprofileLength := drop_of_numberAt parts.profileLength (rfl : 12 + 4 = 16) (by omega)
  have hdidLength := drop_of_numberAt parts.didLength (rfl : 16 + 4 = 20) (by omega)
  have hcredentialLength := drop_of_numberAt parts.credentialLength (rfl : 20 + 4 = 24) (by omega)
  have hcustodyLength := drop_of_numberAt parts.custodyLength (rfl : 24 + 4 = 28) (by omega)
  have hprofileId := drop_of_slice parts.profileIdAt (le_add_right _ _)
  have hprofile := drop_of_slice parts.profileAt (le_add_right _ _)
  have hdid := drop_of_slice parts.didAt (le_add_right _ _)
  have hcredential := drop_of_slice parts.credentialAt (le_add_right _ _)
  have hcustody := drop_of_slice parts.custodyAt (le_add_right _ _)
  rw [total, List.drop_length, List.append_nil] at hcustody
  rw [hcustody] at hcredential
  rw [frame_eq, ← hcredential, ← hdid, ← hprofile, ← hprofileId, hfixed,
    ← hcustodyLength, ← hcredentialLength, ← hdidLength, ← hprofileLength, ← hprofileIdLength,
    ← hversion, ← hmagic, List.drop_zero]

end Frame

variable {bytes : List UInt8}

theorem takeSection_ok_iff {bytes' cursor length cursor'} :
    takeSection bytes cursor length = .ok (bytes', cursor') ↔
      cursor + length ≤ bytes.length ∧ slice bytes cursor (cursor + length) = bytes' ∧
        cursor + length = cursor' := by
  rw [takeSection]
  split_ifs with h
  · simp [h]
  · simp [h]

theorem sectionFits_iff {maximum} :
    SectionFits maximum bytes ↔ ¬ bytes.length = 0 ∧ bytes.length ≤ maximum := by
  rw [SectionFits, List.length_eq_zero_iff]

theorem decodeCustody_fits {json vault} (h : decodeCustody json bytes = .ok vault) :
    SectionFits maxCustodySnapshotBytes bytes := by
  simp only [decodeCustody, bind_ok_iff, validateSection_ok_iff] at h
  obtain ⟨-, hfits, -⟩ := h
  exact hfits

variable {plaintext : List UInt8}

theorem decodeCompleteArchive_ok_iff {json archive} :
    decodeCompleteArchive json plaintext = .ok archive ↔
      SectionFits maxArchiveProfileIdBytes (utf8Bytes archive.profileId.id.asStr) ∧
        ∃ custody, decodeCustody json custody = .ok archive.custody ∧
          plaintext = frame (utf8Bytes archive.profileId.id.asStr) archive.profileSnapshot
            archive.didSnapshot archive.credentialSnapshot custody := by
  simp only [decodeCompleteArchive, bind_ok_iff, rejectIf_ok_iff, exists_const, Prod.exists,
    takeSection_ok_iff, okOr_ok_iff, ofUtf8Bytes_eq_some_iff, mapError_ok_iff,
    WalletProfileId.parse_ok_iff, CompleteWalletArchive.new_ok_iff, Bool.or_eq_false_iff,
    decide_eq_false_iff_not, not_not, not_lt]
  constructor
  · intro h
    obtain ⟨⟨-, magic⟩, version, hprofileId, -, -, -, -, total, _, _,
      ⟨hprofileIdEnd, profileIdAt, rfl⟩, _, rfl, _, rfl, _, _, ⟨hprofileEnd, profileAt, rfl⟩,
      _, _, ⟨hdidEnd, didAt, rfl⟩, _, _, ⟨hcredentialEnd, credentialAt, rfl⟩, custody, _,
      ⟨hcustodyEnd, custodyAt, rfl⟩, _, hcustody, -, rfl, rfl, rfl, rfl, rfl⟩ := h
    -- A section is as long as its length field says.
    have profileIdLength := congrArg List.length profileIdAt
    have profileLength := congrArg List.length profileAt
    have didLength := congrArg List.length didAt
    have credentialLength := congrArg List.length credentialAt
    have custodyLength := congrArg List.length custodyAt
    rw [length_slice hprofileIdEnd, Nat.add_sub_cancel_left] at profileIdLength
    rw [length_slice hprofileEnd, Nat.add_sub_cancel_left] at profileLength
    rw [length_slice hdidEnd, Nat.add_sub_cancel_left] at didLength
    rw [length_slice hcredentialEnd, Nat.add_sub_cancel_left] at credentialLength
    rw [length_slice hcustodyEnd, Nat.add_sub_cancel_left] at custodyLength
    simp only [profileIdLength, profileLength, didLength, credentialLength, custodyLength]
      at hprofileId total profileIdAt profileAt didAt credentialAt custodyAt
    have parts : FrameParts plaintext (utf8Bytes archive.profileId.id.asStr)
        archive.profileSnapshot archive.didSnapshot archive.credentialSnapshot custody :=
      ⟨magic, version, profileIdLength, profileLength, didLength, credentialLength,
        custodyLength, total, profileIdAt, profileAt, didAt, credentialAt, custodyAt⟩
    exact ⟨sectionFits_iff.mpr hprofileId, custody, hcustody, parts.eq_frame⟩
  · intro h
    obtain ⟨hprofileId, custody, hcustody, hplaintext⟩ := h
    rw [sectionFits_iff] at hprofileId
    have hprofile := sectionFits_iff.mp archive.profileFits
    have hdid := sectionFits_iff.mp archive.didFits
    have hcredential := sectionFits_iff.mp archive.credentialFits
    have hvault := sectionFits_iff.mp (decodeCustody_fits hcustody)
    have parts := frameParts_frame (lt_of_le_of_lt hprofileId.2 (by decide))
      (lt_of_le_of_lt hprofile.2 (by decide)) (lt_of_le_of_lt hdid.2 (by decide))
      (lt_of_le_of_lt hcredential.2 (by decide)) (lt_of_le_of_lt hvault.2 (by decide))
    rw [← hplaintext] at parts
    have total := parts.total
    simp only [parts.profileIdLength, parts.profileLength, parts.didLength,
      parts.credentialLength, parts.custodyLength]
    exact ⟨⟨by omega, parts.magic⟩, parts.version, hprofileId, hprofile, hdid, hcredential, hvault,
      total, _, _, ⟨by omega, parts.profileIdAt, rfl⟩, _, rfl, _, rfl,
      _, _, ⟨by omega, parts.profileAt, rfl⟩, _, _, ⟨by omega, parts.didAt, rfl⟩,
      _, _, ⟨by omega, parts.credentialAt, rfl⟩, _, _, ⟨by omega, parts.custodyAt, rfl⟩,
      _, hcustody, total, rfl, rfl, rfl, rfl, rfl⟩

theorem encodeCompleteArchive_ok {json archive}
    (h : encodeCompleteArchive json archive = .ok plaintext) :
    SectionFits maxArchiveProfileIdBytes (utf8Bytes archive.profileId.id.asStr) ∧
      ∃ custody, encodeCustody json archive.custody = .ok custody ∧
        plaintext = frame (utf8Bytes archive.profileId.id.asStr) archive.profileSnapshot
          archive.didSnapshot archive.credentialSnapshot custody := by
  simp only [encodeCompleteArchive, bind_ok_iff, rejectIf_ok_iff, exists_const,
    Bool.or_eq_false_iff, decide_eq_false_iff_not, not_lt, List.isEmpty_eq_false_iff] at h
  obtain ⟨custody, hcustody, hprofileId, -, -, -, -, -, -, -, -, -, -, hplaintext⟩ := h
  cases hplaintext
  exact ⟨hprofileId, custody, hcustody, rfl⟩

theorem frame_custody_injective {profileId profile did credential custody custody'}
    (h : frame profileId profile did credential custody =
      frame profileId profile did credential custody') : custody = custody' := by
  have hlength := congrArg List.length h
  simp only [frame, List.length_append, length_frameHeader] at hlength
  exact (List.append_inj' h (by omega)).2

theorem decodeCompleteArchive_encodeCompleteArchive {json} (hjson : json.RoundTrips)
    {archive plaintext} (h : encodeCompleteArchive json archive = .ok plaintext) :
    decodeCompleteArchive json plaintext = .ok archive ↔
      ∀ key ∈ archive.custody.keys, key.Fits := by
  obtain ⟨hprofileId, custody, hcustody, rfl⟩ := encodeCompleteArchive_ok h
  rw [decodeCompleteArchive_ok_iff]
  constructor
  · intro h
    obtain ⟨-, custody', hdecoded, hframe⟩ := h
    rw [← frame_custody_injective hframe] at hdecoded
    exact ((decodeCustody_encodeCustody hjson hcustody).mp hdecoded).1
  · intro hfits
    exact ⟨hprofileId, custody, (decodeCustody_encodeCustody hjson hcustody).mpr ⟨hfits, rfl⟩, rfl⟩

/-! ## The header -/

def magic : List UInt8 := [0x4F, 0x58, 0x49, 0x44, 0x42, 0x41, 0x4B, 0x31]

structure Argon2Policy where
  (memoryKib iterations lanes : ℕ)

def completeWalletFormatVersion : ℕ := 5

def latestSupportedFormatVersion : ℕ := 6

def legacyArgon2Policy : Argon2Policy := ⟨19 * 1024, 2, 1⟩

def completeWalletV3Argon2Policy : Argon2Policy := ⟨64 * 1024, 3, 1⟩

def argon2PolicyForFormat : ℕ → Option Argon2Policy
  | 1 | 2 | 4 => some legacyArgon2Policy
  | 3 => some completeWalletV3Argon2Policy
  | 5 => some completeWalletV3Argon2Policy
  | 6 => some completeWalletV3Argon2Policy
  | _ => none

def kdfArgon2id : ℕ := 1

def aeadXchacha20Poly1305 : ℕ := 1

def maxDeclaredArgon2MemoryKib : ℕ := 1024 * 1024

def maxDeclaredArgon2Iterations : ℕ := 10

def maxDeclaredArgon2Lanes : ℕ := 16

def encodeHeader (formatVersion : ℕ) (policy : Argon2Policy) (salt : Vector UInt8 16)
    (nonce : Vector UInt8 24) (ciphertextLength : ℕ) : List UInt8 :=
  magic ++ (toBytesBE 2 formatVersion ++ (toBytesBE 1 kdfArgon2id ++
    (toBytesBE 1 aeadXchacha20Poly1305 ++ (toBytesBE 4 policy.memoryKib ++
      (toBytesBE 4 policy.iterations ++ (toBytesBE 4 policy.lanes ++ (salt.toList ++
        (nonce.toList ++ toBytesBE 4 ciphertextLength))))))))

structure DecodedHeader where
  formatVersion : ℕ
  argon2Policy : Argon2Policy
  salt : Vector UInt8 16
  nonce : Vector UInt8 24

def supportedPolicy (formatVersion : ℕ) : Except PortableBackupPortError Argon2Policy :=
  match argon2PolicyForFormat formatVersion with
  | some policy => .ok policy
  | none =>
    if latestSupportedFormatVersion < formatVersion then .error .unsupportedVersion
    else .error .invalidPackage

def decodeHeader (bytes : List UInt8) : Except PortableBackupPortError DecodedHeader := do
  rejectIf (bytes.length < headerBytes || slice bytes 0 8 ≠ magic) .invalidPackage
  let formatVersion := numberAt bytes 8 10
  let memory := numberAt bytes 12 16
  let iterations := numberAt bytes 16 20
  let lanes := numberAt bytes 20 24
  let ciphertextLength := numberAt bytes 64 68
  rejectIf (numberAt bytes 10 11 ≠ kdfArgon2id || numberAt bytes 11 12 ≠ aeadXchacha20Poly1305 ||
    !decide (1 ≤ memory ∧ memory ≤ maxDeclaredArgon2MemoryKib) ||
    !decide (1 ≤ iterations ∧ iterations ≤ maxDeclaredArgon2Iterations) ||
    !decide (1 ≤ lanes ∧ lanes ≤ maxDeclaredArgon2Lanes) ||
    ciphertextLength < tagBytes || bytes.length ≠ headerBytes + ciphertextLength) .invalidPackage
  let policy ← supportedPolicy formatVersion
  rejectIf (memory ≠ policy.memoryKib || iterations ≠ policy.iterations ||
    lanes ≠ policy.lanes) .invalidPackage
  let salt ← okOr (toVector? 16 (slice bytes 24 40)) .invalidPackage
  let nonce ← okOr (toVector? 24 (slice bytes 40 64)) .invalidPackage
  return ⟨formatVersion, policy, salt, nonce⟩

theorem argon2PolicyForFormat_bounds {version policy}
    (h : argon2PolicyForFormat version = some policy) : version < 256 ^ 2 ∧
      (1 ≤ policy.memoryKib ∧ policy.memoryKib ≤ maxDeclaredArgon2MemoryKib) ∧
      (1 ≤ policy.iterations ∧ policy.iterations ≤ maxDeclaredArgon2Iterations) ∧
      (1 ≤ policy.lanes ∧ policy.lanes ≤ maxDeclaredArgon2Lanes) := by
  unfold argon2PolicyForFormat at h
  split at h
  all_goals cases h
  all_goals decide

@[simp] theorem length_encodeHeader (version : ℕ) (policy : Argon2Policy) (salt : Vector UInt8 16)
    (nonce : Vector UInt8 24) (n : ℕ) :
    (encodeHeader version policy salt nonce n).length = headerBytes := by
  simp [encodeHeader, magic, headerBytes]

theorem decodeHeader_encodeHeader {version policy}
    (hpolicy : argon2PolicyForFormat version = some policy) (salt : Vector UInt8 16)
    (nonce : Vector UInt8 24) {ciphertext} (htag : tagBytes ≤ ciphertext.length)
    (hciphertext : ciphertext.length < 256 ^ 4) :
    decodeHeader (encodeHeader version policy salt nonce ciphertext.length ++ ciphertext) =
      .ok ⟨version, policy, salt, nonce⟩ := by
  obtain ⟨hversion, hmemory, hiterations, hlanes⟩ := argon2PolicyForFormat_bounds hpolicy
  have hlength : (encodeHeader version policy salt nonce ciphertext.length ++ ciphertext).length =
      headerBytes + ciphertext.length := by
    rw [List.length_append, length_encodeHeader]
  generalize hbytes : encodeHeader version policy salt nonce ciphertext.length ++ ciphertext =
    bytes at hlength
  have h := List.drop_zero (l := bytes)
  conv_rhs at h => rw [← hbytes, encodeHeader]
  simp only [List.append_assoc] at h
  obtain ⟨hmagic, h⟩ : slice bytes 0 8 = magic ∧ bytes.drop 8 = _ := slice_of_drop h rfl
  obtain ⟨hversionAt, h⟩ := numberAt_of_drop h (rfl : 8 + 2 = 10) hversion
  obtain ⟨hkdf, h⟩ := numberAt_of_drop h (rfl : 10 + 1 = 11) (by decide)
  obtain ⟨haead, h⟩ := numberAt_of_drop h (rfl : 11 + 1 = 12) (by decide)
  obtain ⟨hmemoryAt, h⟩ := numberAt_of_drop h (rfl : 12 + 4 = 16)
    (lt_of_le_of_lt hmemory.2 (by decide))
  obtain ⟨hiterationsAt, h⟩ := numberAt_of_drop h (rfl : 16 + 4 = 20)
    (lt_of_le_of_lt hiterations.2 (by decide))
  obtain ⟨hlanesAt, h⟩ := numberAt_of_drop h (rfl : 20 + 4 = 24)
    (lt_of_le_of_lt hlanes.2 (by decide))
  obtain ⟨hsalt, h⟩ := slice_of_drop h (by simp : 24 + salt.toList.length = 40)
  obtain ⟨hnonce, h⟩ := slice_of_drop h (by simp : 40 + nonce.toList.length = 64)
  obtain ⟨hciphertextAt, -⟩ := numberAt_of_drop h (rfl : 64 + 4 = 68) hciphertext
  have hsupported : supportedPolicy version = .ok policy := by rw [supportedPolicy, hpolicy]
  simp only [decodeHeader, bind_ok_iff, rejectIf_ok_iff, exists_const, Bool.or_eq_false_iff,
    decide_eq_false_iff_not, Bool.not_eq_false', decide_eq_true_iff, not_not, not_lt,
    okOr_ok_iff, toVector?_eq_some_iff, hlength, hmagic, hversionAt, hkdf, haead, hmemoryAt,
    hiterationsAt, hlanesAt, hciphertextAt, hsalt, hnonce, hsupported]
  exact ⟨⟨le_add_right _ _, trivial⟩,
    ⟨⟨⟨⟨⟨⟨trivial, trivial⟩, hmemory⟩, hiterations⟩, hlanes⟩, htag⟩, trivial⟩,
    policy, rfl, ⟨⟨rfl, rfl⟩, rfl⟩, salt, rfl, nonce, rfl, rfl⟩

/-! ## Packages -/

structure WalletRecoverySecret where
  bytes : List UInt8

structure PortableWalletBackup where
  bytes : List UInt8
  nonempty : bytes ≠ []
  bounded : bytes.length ≤ maxPortableWalletBackupBytes

inductive PortableWalletBackupError
  | empty
  | tooLarge

def PortableWalletBackup.parse (bytes : List UInt8) :
    Except PortableWalletBackupError PortableWalletBackup :=
  if h₁ : bytes = [] then .error .empty
  else if h₂ : maxPortableWalletBackupBytes < bytes.length then .error .tooLarge
  else .ok ⟨bytes, h₁, Nat.not_lt.mp h₂⟩

theorem PortableWalletBackup.bytes_of_parse {backup} (h : parse bytes = .ok backup) :
    backup.bytes = bytes := by
  rw [parse] at h
  split_ifs at h
  cases h
  rfl

structure PackageCrypto where
  deriveKey : List UInt8 → Vector UInt8 16 → Argon2Policy → Option (Vector UInt8 32)
  encrypt : Vector UInt8 32 → Vector UInt8 24 → (message associated : List UInt8) →
    Option (List UInt8)
  decrypt : Vector UInt8 32 → Vector UInt8 24 → (message associated : List UInt8) →
    Option (List UInt8)

/-- Under the same key, nonce and associated data what was encrypted is decrypted, and the
ciphertext is the message and a tag. -/
structure PackageCrypto.Sound (crypto : PackageCrypto) : Prop where
  inverts : ∀ key nonce message associated ciphertext,
    crypto.encrypt key nonce message associated = some ciphertext →
      crypto.decrypt key nonce ciphertext associated = some message
  tagged : ∀ key nonce message associated ciphertext,
    crypto.encrypt key nonce message associated = some ciphertext →
      ciphertext.length = message.length + tagBytes

structure RandomBytes where
  salt : Option (Vector UInt8 16)
  nonce : Option (Vector UInt8 24)

def sealPayload (crypto : PackageCrypto) (formatVersion : ℕ) (plaintext : List UInt8)
    (secret : WalletRecoverySecret) (random : RandomBytes) :
    Except PortableBackupPortError PortableWalletBackup := do
  let policy ← okOr (argon2PolicyForFormat formatVersion) .invalidOperation
  let salt ← okOr random.salt .unavailable
  let nonce ← okOr random.nonce .unavailable
  let ciphertextLength := plaintext.length + tagBytes
  rejectIf (2 ^ 32 ≤ ciphertextLength) .invalidOperation
  let header := encodeHeader formatVersion policy salt nonce ciphertextLength
  rejectIf (maxPortableWalletBackupBytes < headerBytes + ciphertextLength) .invalidOperation
  let key ← okOr (crypto.deriveKey secret.bytes salt policy) .invalidOperation
  let ciphertext ← okOr (crypto.encrypt key nonce plaintext header) .invalidOperation
  (PortableWalletBackup.parse (header ++ ciphertext)).mapError fun _ => .invalidOperation

def openPayload (crypto : PackageCrypto) (backup : PortableWalletBackup)
    (secret : WalletRecoverySecret) (acceptedFormatVersions : List ℕ) :
    Except PortableBackupPortError (List UInt8) := do
  let header ← decodeHeader backup.bytes
  rejectIf (header.formatVersion ∉ acceptedFormatVersions) .invalidPackage
  let key ← okOr (crypto.deriveKey secret.bytes header.salt header.argon2Policy) .invalidOperation
  okOr (crypto.decrypt key header.nonce (backup.bytes.drop headerBytes)
    (backup.bytes.take headerBytes)) .authenticationFailed

def sealCompleteWalletArchive (json : VaultJson) (crypto : PackageCrypto)
    (archive : CompleteWalletArchive) (secret : WalletRecoverySecret) (random : RandomBytes) :
    Except PortableBackupPortError PortableWalletBackup := do
  let plaintext ← encodeCompleteArchive json archive
  sealPayload crypto completeWalletFormatVersion plaintext secret random

def openCompleteWalletArchive (json : VaultJson) (crypto : PackageCrypto)
    (backup : PortableWalletBackup) (secret : WalletRecoverySecret)
    (expectedProfileId : Option WalletProfileId) :
    Except PortableBackupPortError CompleteWalletArchive := do
  let plaintext ← openPayload crypto backup secret [2, 3, completeWalletFormatVersion]
  let archive ← decodeCompleteArchive json plaintext
  rejectIf (expectedProfileId.any (archive.profileId ≠ ·)) .wrongProfile
  return archive

theorem openPayload_sealPayload {crypto} (hcrypto : crypto.Sound)
    {formatVersion plaintext secret random backup}
    (h : sealPayload crypto formatVersion plaintext secret random = .ok backup) {accepted}
    (haccepted : formatVersion ∈ accepted) :
    openPayload crypto backup secret accepted = .ok plaintext := by
  simp only [sealPayload, bind_ok_iff, okOr_ok_iff, rejectIf_ok_iff, exists_const,
    decide_eq_false_iff_not, not_le, mapError_ok_iff] at h
  obtain ⟨policy, hpolicy, salt, -, nonce, -, hlength, -, key, hkey, ciphertext, hciphertext,
    hbackup⟩ := h
  have htagged := hcrypto.tagged _ _ _ _ _ hciphertext
  have hbytes := PortableWalletBackup.bytes_of_parse hbackup
  have hheader : decodeHeader backup.bytes = .ok ⟨formatVersion, policy, salt, nonce⟩ := by
    rw [hbytes, ← htagged]
    exact decodeHeader_encodeHeader hpolicy salt nonce (by omega) (by omega)
  have hdrop : backup.bytes.drop headerBytes = ciphertext := by
    rw [hbytes, List.drop_left' (length_encodeHeader ..)]
  have htake : backup.bytes.take headerBytes =
      encodeHeader formatVersion policy salt nonce (plaintext.length + tagBytes) := by
    rw [hbytes, List.take_left' (length_encodeHeader ..)]
  have hdecrypted := hcrypto.inverts _ _ _ _ _ hciphertext
  simp only [openPayload, bind_ok_iff, rejectIf_ok_iff, exists_const, okOr_ok_iff,
    decide_eq_false_iff_not, not_not, hdrop, htake]
  exact ⟨_, hheader, haccepted, key, hkey, hdecrypted⟩

theorem openCompleteWalletArchive_ok_iff {json crypto backup secret expected archive}
    (h : openPayload crypto backup secret [2, 3, completeWalletFormatVersion] = .ok plaintext) :
    openCompleteWalletArchive json crypto backup secret expected = .ok archive ↔
      decodeCompleteArchive json plaintext = .ok archive ∧
        ∀ profileId ∈ expected, archive.profileId = profileId := by
  simp only [openCompleteWalletArchive, h, ok_bind, bind_ok_iff, rejectIf_ok_iff, exists_const,
    Option.any_eq_false, decide_eq_false_iff_not, not_not]
  constructor
  · intro hopen
    obtain ⟨archive', hdecoded, hexpected, hpure⟩ := hopen
    cases hpure
    exact ⟨hdecoded, hexpected⟩
  · intro hopen
    exact ⟨archive, hopen.1, hopen.2, rfl⟩

namespace Sample

def profileId : WalletProfileId :=
  ⟨⟨"profile_of_backups", by decide, by decide, by decide, by decide⟩⟩

def key (publicKey : List UInt8) : PortableCustodyKey where
  descriptor :=
    { reference := ⟨⟨"key_of_backups", by decide, by decide, by decide, by decide⟩⟩
      label := ⟨"Backup", by decide, by decide, by decide, by decide⟩
      algorithm := .ed25519
      purpose := .authentication
      publicKey := ⟨.ed25519Compressed, publicKey⟩
      createdAt := 0 }
  material := .generated (Vector.replicate 32 7)

def vault (publicKey : List UInt8) : PortableCustodyVault where
  profileId := profileId
  exportedAtMillis := 0
  rootSeed := .rawDevelopment (Vector.replicate 32 9)
  keys := [key publicKey]
  few := by simp [maxKeys]
  references := List.nodup_singleton _
  labels := List.nodup_singleton _
  paths := List.nodup_nil

def archive (publicKey : List UInt8) : CompleteWalletArchive where
  profileId := profileId
  profileSnapshot := [1]
  didSnapshot := [2]
  credentialSnapshot := [3]
  custody := vault publicKey
  owner := rfl
  profileFits := by decide
  didFits := by decide
  credentialFits := by decide

def json (publicKey : List UInt8) : VaultJson where
  toVec wire := if wire = .fromVault (vault publicKey) then some [4] else none
  fromSlice bytes := if bytes = [4] then some (.fromVault (vault publicKey)) else none

theorem json_roundTrips (publicKey : List UInt8) : (json publicKey).RoundTrips := by
  intro wire bytes h
  simp only [json] at h ⊢
  split_ifs at h with hwire
  cases h
  rw [if_pos rfl, hwire]

def crypto : PackageCrypto where
  deriveKey _ _ _ := some (Vector.replicate 32 0)
  encrypt _ _ message _ := some (message ++ List.replicate tagBytes 0)
  decrypt _ _ ciphertext _ := some (ciphertext.take (ciphertext.length - tagBytes))

theorem crypto_sound : crypto.Sound := by
  constructor
  · intro key nonce message associated ciphertext h
    cases h
    simp [crypto]
  · intro key nonce message associated ciphertext h
    cases h
    simp

def secret : WalletRecoverySecret := ⟨List.replicate 12 97⟩

def random : RandomBytes := ⟨some (Vector.replicate 16 5), some (Vector.replicate 24 6)⟩

end Sample

open Sample

/-- A sealed archive is opened with its secret, and for no or its own profile, exactly if every
public key has between 1 and 128 bytes; an accepted plaintext is its header, the profile and the
four sections. -/
theorem sealed_archive_opens_iff (json : VaultJson) (hjson : json.RoundTrips)
    (crypto : PackageCrypto) (hcrypto : crypto.Sound) : (∀ archive secret random backup,
      sealCompleteWalletArchive json crypto archive secret random = .ok backup →
        ((∀ expected, expected = none ∨ expected = some archive.profileId →
            openCompleteWalletArchive json crypto backup secret expected = .ok archive) ↔
          ∀ key ∈ archive.custody.keys, key.Fits)) ∧
      ∀ plaintext archive, decodeCompleteArchive json plaintext = .ok archive →
        ∃ header custody, header.length = completeFrameFixedBytes ∧
          decodeCustody json custody = .ok archive.custody ∧
          plaintext = header ++ utf8Bytes archive.profileId.id.asStr ++ archive.profileSnapshot ++
            archive.didSnapshot ++ archive.credentialSnapshot ++ custody := by
  refine ⟨?_, ?_⟩
  · intro archive secret random backup hseal
    rw [sealCompleteWalletArchive, bind_ok_iff] at hseal
    obtain ⟨plaintext, hplaintext, hseal⟩ := hseal
    have hopen := openPayload_sealPayload hcrypto hseal
      (by simp : _ ∈ [2, 3, completeWalletFormatVersion])
    simp only [openCompleteWalletArchive_ok_iff hopen,
      decodeCompleteArchive_encodeCompleteArchive hjson hplaintext]
    constructor
    · intro h
      exact (h none (.inl rfl)).1
    · intro hfits expected hexpected
      refine ⟨hfits, ?_⟩
      intro profileId hmem
      obtain rfl | rfl := hexpected
      · cases hmem
      · exact Option.some.inj hmem
  · intro plaintext archive h
    obtain ⟨-, custody, hcustody, hframe⟩ := decodeCompleteArchive_ok_iff.mp h
    exact ⟨_, custody, length_frameHeader, hcustody, hframe⟩

/-- The small archive with a public key of 32 bytes is opened. -/
theorem sample_archive_opens : (∀ key ∈ (archive (List.replicate 32 8)).custody.keys, key.Fits) ∧
      ∃ backup, sealCompleteWalletArchive (json (List.replicate 32 8)) crypto
          (archive (List.replicate 32 8)) secret random = .ok backup ∧
        openCompleteWalletArchive (json (List.replicate 32 8)) crypto backup
          secret none = .ok (archive (List.replicate 32 8)) := by
  have hfits : ∀ key ∈ (archive (List.replicate 32 8)).custody.keys, key.Fits := by
    intro key hkey
    cases List.mem_singleton.mp hkey
    exact ⟨by decide, by decide⟩
  obtain ⟨backup, hseal⟩ := exists_ok_of_isOk (x := sealCompleteWalletArchive
    (json (List.replicate 32 8)) crypto (archive (List.replicate 32 8))
    secret random) (by decide +kernel)
  have h := (sealed_archive_opens_iff _ (json_roundTrips _) _ crypto_sound).1
    _ _ _ _ hseal
  exact ⟨hfits, backup, hseal, h.mpr hfits none (.inl rfl)⟩

/-- With an empty public key it is sealed, and cannot be opened. -/
theorem sealed_archive_without_public_key_is_lost : (json []).RoundTrips ∧ crypto.Sound ∧
      ∃ backup, sealCompleteWalletArchive (json []) crypto (archive []) secret random = .ok backup ∧
        openCompleteWalletArchive (json []) crypto backup secret none = .error .invalidPackage := by
  obtain ⟨backup, hseal⟩ := exists_ok_of_isOk (x := sealCompleteWalletArchive (json [])
    crypto (archive []) secret random) (by decide +kernel)
  have hopen : (sealCompleteWalletArchive (json []) crypto (archive [])
      secret random >>= fun backup =>
        openCompleteWalletArchive (json []) crypto backup secret none) =
      .error .invalidPackage := by
    decide +kernel
  rw [hseal, ok_bind] at hopen
  exact ⟨json_roundTrips [], crypto_sound, backup, hseal, hopen⟩

end Oxid.Backup
