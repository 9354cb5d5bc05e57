import Oxid.Wallet.Keys
import Oxid.Wire

/-!
# The custody section of a backup

A vault is written as plain strings, numbers and bytes; to be read, every value goes through
the constructor of its type again.  Only the reader looks at the public keys.
-/

namespace Oxid.Backup
open Result Wallet Wire Option

inductive PortableBackupPortError
  | unavailable
  | notInitialized
  | alreadyInitialized
  | locked
  | authorizationDenied
  | invalidPackage
  | unsupportedVersion
  | authenticationFailed
  | wrongProfile
  | conflict
  | invalidOperation
  deriving DecidableEq

/-! ## Vaults -/

inductive PortableKeyMaterial
  | generated (secret : Vector UInt8 32)
  | derived (path : WalletHdPath)
  deriving DecidableEq

structure PortableCustodyKey where
  descriptor : WalletKeyDescriptor
  material : PortableKeyMaterial
  deriving DecidableEq

def PortableCustodyKey.path : PortableCustodyKey → Option WalletHdPath
  | ⟨_, .derived path⟩ => some path
  | ⟨_, .generated _⟩ => none

def maxKeys : ℕ := 256

/-- References, labels and paths are unique, as `new_with_root` checks. -/
structure PortableCustodyVault where
  profileId : WalletProfileId
  exportedAtMillis : UInt64
  rootSeed : WalletRootSeed
  keys : List PortableCustodyKey
  few : keys.length ≤ maxKeys
  references : (keys.map (·.descriptor.reference)).Nodup
  labels : (keys.map (·.descriptor.label)).Nodup
  paths : (keys.filterMap (·.path)).Nodup
  deriving DecidableEq

def checkKeys (references : List WalletKeyReference) (labels : List WalletKeyLabel)
    (paths : List WalletHdPath) : List PortableCustodyKey → Except PortableBackupPortError Unit
  | [] => .ok ()
  | key :: keys => do
      rejectIf (key.descriptor.reference ∈ references || key.descriptor.label ∈ labels) .conflict
      rejectIf (key.path.any (· ∈ paths)) .conflict
      checkKeys (key.descriptor.reference :: references) (key.descriptor.label :: labels)
        (key.path.toList ++ paths) keys

/-- What the sets of `checkKeys` come to over a whole list. -/
def Fresh {α : Type} (seen new : List α) : Prop := new.Nodup ∧ new.Disjoint seen

theorem fresh_nil {α : Type} (seen : List α) : Fresh seen [] := ⟨List.nodup_nil, by simp⟩

theorem fresh_cons {α : Type} {seen new} {a : α} :
    Fresh seen (a :: new) ↔ a ∉ seen ∧ Fresh (a :: seen) new := by
  simp only [Fresh, List.nodup_cons, List.disjoint_cons_left, List.disjoint_cons_right]
  tauto

theorem checkKeys_ok_iff {references labels paths} {keys : List PortableCustodyKey} :
    checkKeys references labels paths keys = .ok () ↔
      Fresh references (keys.map (·.descriptor.reference)) ∧
        Fresh labels (keys.map (·.descriptor.label)) ∧ Fresh paths (keys.filterMap (·.path)) := by
  induction keys generalizing references labels paths with
  | nil => simp [checkKeys, fresh_nil]
  | cons key _ ih =>
    rw [checkKeys]
    simp only [bind_ok_iff, rejectIf_ok_iff, exists_const, ih, List.map_cons, fresh_cons,
      Bool.or_eq_false_iff, decide_eq_false_iff_not]
    cases hpath : key.path with
    | none =>
      simp only [any_none, toList_none, List.nil_append, List.filterMap_cons_none hpath]
      tauto
    | some =>
      simp only [any_some, toList_some, List.singleton_append,
        List.filterMap_cons_some hpath, fresh_cons, decide_eq_false_iff_not]
      tauto

def PortableCustodyVault.newWithRoot (profileId : WalletProfileId) (exportedAtMillis : UInt64)
    (rootSeed : WalletRootSeed) (keys : List PortableCustodyKey) :
    Except PortableBackupPortError PortableCustodyVault :=
  if hfew : maxKeys < keys.length then .error .invalidPackage
  else
    match hkeys : checkKeys [] [] [] keys with
    | .error error => .error error
    | .ok () =>
      .ok ⟨profileId, exportedAtMillis, rootSeed, keys, Nat.not_lt.mp hfew,
        (checkKeys_ok_iff.mp hkeys).1.1, (checkKeys_ok_iff.mp hkeys).2.1.1,
        (checkKeys_ok_iff.mp hkeys).2.2.1⟩

theorem PortableCustodyVault.newWithRoot_parts (vault : PortableCustodyVault) :
    newWithRoot vault.profileId vault.exportedAtMillis vault.rootSeed vault.keys = .ok vault := by
  have hkeys : checkKeys [] [] [] vault.keys = .ok () := by
    rw [checkKeys_ok_iff]
    exact ⟨⟨vault.references, by simp⟩, ⟨vault.labels, by simp⟩, ⟨vault.paths, by simp⟩⟩
  rw [newWithRoot, dif_neg (Nat.not_lt.mpr vault.few)]
  split
  · rename_i error herror
    cases hkeys.symm.trans herror
  · rfl

/-! ## The plain copy -/

inductive WireAlgorithm
  | ed25519
  | p256
  | secp256k1Schnorr
  | jubjub
  deriving DecidableEq

def WireAlgorithm.ofAlgorithm : WalletKeyAlgorithm → WireAlgorithm
  | .ed25519 => .ed25519
  | .p256 => .p256
  | .secp256k1Schnorr => .secp256k1Schnorr
  | .jubjub => .jubjub

def WireAlgorithm.toAlgorithm : WireAlgorithm → WalletKeyAlgorithm
  | .ed25519 => .ed25519
  | .p256 => .p256
  | .secp256k1Schnorr => .secp256k1Schnorr
  | .jubjub => .jubjub

@[simp] theorem WireAlgorithm.toAlgorithm_ofAlgorithm (a : WalletKeyAlgorithm) :
    (ofAlgorithm a).toAlgorithm = a := by
  cases a <;> rfl

inductive WirePurpose
  | transaction
  | authentication
  | assertion
  | keyAgreement
  | recovery
  deriving DecidableEq

def WirePurpose.ofPurpose : WalletKeyPurpose → WirePurpose
  | .transaction => .transaction
  | .authentication => .authentication
  | .assertion => .assertion
  | .keyAgreement => .keyAgreement
  | .recovery => .recovery

def WirePurpose.toPurpose : WirePurpose → WalletKeyPurpose
  | .transaction => .transaction
  | .authentication => .authentication
  | .assertion => .assertion
  | .keyAgreement => .keyAgreement
  | .recovery => .recovery

@[simp] theorem WirePurpose.toPurpose_ofPurpose (p : WalletKeyPurpose) :
    (ofPurpose p).toPurpose = p := by
  cases p <;> rfl

inductive WirePublicKeyEncoding
  | ed25519Compressed
  | sec1Compressed
  | secp256k1XOnly
  | jubjubCompressed
  deriving DecidableEq

def WirePublicKeyEncoding.ofEncoding : PublicKeyEncoding → WirePublicKeyEncoding
  | .ed25519Compressed => .ed25519Compressed
  | .sec1Compressed => .sec1Compressed
  | .secp256k1XOnly => .secp256k1XOnly
  | .jubjubCompressed => .jubjubCompressed

def WirePublicKeyEncoding.toEncoding : WirePublicKeyEncoding → PublicKeyEncoding
  | .ed25519Compressed => .ed25519Compressed
  | .sec1Compressed => .sec1Compressed
  | .secp256k1XOnly => .secp256k1XOnly
  | .jubjubCompressed => .jubjubCompressed

@[simp] theorem WirePublicKeyEncoding.toEncoding_ofEncoding (e : PublicKeyEncoding) :
    (ofEncoding e).toEncoding = e := by
  cases e <;> rfl

structure WirePathComponent where
  index : UInt32
  hardened : Bool
  deriving DecidableEq

inductive WireMaterial
  | generated (secret : Vector UInt8 32)
  | derived (path : List WirePathComponent)
  deriving DecidableEq

structure WireKey where
  (reference label : String)
  algorithm : WireAlgorithm
  purpose : WirePurpose
  publicKeyEncoding : WirePublicKeyEncoding
  publicKeyBytes : List UInt8
  createdAtMillis : UInt64
  material : WireMaterial
  deriving DecidableEq

inductive WireRootSeedKind
  | rawDevelopment
  | bip39
  deriving DecidableEq

/-- Older backups have the bare bytes of a development seed. -/
inductive WireRootSeed
  | typed (kind : WireRootSeedKind) (bytes : List UInt8)
  | legacy (root : Vector UInt8 32)
  deriving DecidableEq

structure WireVault where
  profileId : String
  exportedAtMillis : UInt64
  rootSeed : WireRootSeed
  keys : List WireKey
  deriving DecidableEq

namespace WireRootSeed

def fromRoot (root : WalletRootSeed) : WireRootSeed :=
  let kind : WireRootSeedKind :=
    match root.kind with
    | .rawDevelopment => .rawDevelopment
    | .bip39 => .bip39
  .typed kind root.exposeForProtectedUse

/-- The kind of a seed fixes its length. -/
def toRoot : WireRootSeed → Except PortableBackupPortError WalletRootSeed
  | .legacy root => .ok (.rawDevelopment root)
  | .typed .rawDevelopment bytes => okOr ((toVector? 32 bytes).map .rawDevelopment) .invalidPackage
  | .typed .bip39 bytes => okOr ((toVector? 64 bytes).map .bip39) .invalidPackage

theorem toRoot_fromRoot (root : WalletRootSeed) : (fromRoot root).toRoot = .ok root := by
  cases root with
  | rawDevelopment bytes =>
    have h : toVector? 32 bytes.toList = some bytes := toVector?_eq_some_iff.mpr rfl
    simp [fromRoot, toRoot, WalletRootSeed.kind, WalletRootSeed.exposeForProtectedUse, h]
  | bip39 bytes =>
    have h : toVector? 64 bytes.toList = some bytes := toVector?_eq_some_iff.mpr rfl
    simp [fromRoot, toRoot, WalletRootSeed.kind, WalletRootSeed.exposeForProtectedUse, h]

end WireRootSeed

def maxPublicKeyBytes : ℕ := 128

namespace WireKey

def fromKey (key : PortableCustodyKey) : WireKey where
  reference := key.descriptor.reference.id.asStr
  label := key.descriptor.label.value
  algorithm := .ofAlgorithm key.descriptor.algorithm
  purpose := .ofPurpose key.descriptor.purpose
  publicKeyEncoding := .ofEncoding key.descriptor.publicKey.encoding
  publicKeyBytes := key.descriptor.publicKey.bytes
  createdAtMillis := key.descriptor.createdAt
  material :=
    match key.material with
    | .generated secret => .generated secret
    | .derived path => .derived (path.components.map fun c => ⟨c.index, c.hardened⟩)

def toPath (path : List WirePathComponent) : Except WalletHdPathError WalletHdPath := do
  let components ← path.mapM fun c => WalletHdPathComponent.new c.index c.hardened
  WalletHdPath.new components

def toMaterial : WireMaterial → Except PortableBackupPortError PortableKeyMaterial
  | .generated secret => .ok (.generated secret)
  | .derived path => do
      let path ← (toPath path).mapError fun _ => .invalidPackage
      return .derived path

def toKey (wire : WireKey) : Except PortableBackupPortError PortableCustodyKey := do
  rejectIf (wire.publicKeyBytes.isEmpty || maxPublicKeyBytes < wire.publicKeyBytes.length)
    .invalidPackage
  let reference ← (WalletKeyReference.parse wire.reference).mapError fun _ => .invalidPackage
  let label ← (WalletKeyLabel.parse wire.label).mapError fun _ => .invalidPackage
  let descriptor : WalletKeyDescriptor :=
    { reference
      label
      algorithm := wire.algorithm.toAlgorithm
      purpose := wire.purpose.toPurpose
      publicKey := ⟨wire.publicKeyEncoding.toEncoding, wire.publicKeyBytes⟩
      createdAt := wire.createdAtMillis }
  let material ← toMaterial wire.material
  return { descriptor, material }

theorem toPath_components (path : WalletHdPath) :
    toPath (path.components.map fun c => ⟨c.index, c.hardened⟩) = .ok path := by
  have hcomponents : (path.components.map fun c => (⟨c.index, c.hardened⟩ : WirePathComponent)).mapM
      (fun c => WalletHdPathComponent.new c.index c.hardened) = .ok path.components := by
    rw [List.mapM_map, list_mapM_ok_iff_forall₂, List.forall₂_same]
    intro c _
    exact c.new_index
  simp only [toPath, hcomponents, ok_bind, WalletHdPath.new_components]

theorem toMaterial_fromKey (key : PortableCustodyKey) :
    toMaterial (fromKey key).material = .ok key.material := by
  cases hmaterial : key.material with
  | generated => simp [fromKey, hmaterial, toMaterial]
  | derived =>
    simp only [fromKey, hmaterial, toMaterial, toPath_components]
    rfl

end WireKey

/-- The length of a public key is checked by the reader only. -/
def PortableCustodyKey.Fits (key : PortableCustodyKey) : Prop :=
  0 < key.descriptor.publicKey.bytes.length ∧
    key.descriptor.publicKey.bytes.length ≤ maxPublicKeyBytes

theorem WireKey.toKey_fromKey {key key'} :
    (fromKey key).toKey = .ok key' ↔ key.Fits ∧ key = key' := by
  have hreference : WalletKeyReference.parse (fromKey key).reference =
      .ok key.descriptor.reference := WalletKeyReference.parse_ok_iff.mpr rfl
  have hlabel : WalletKeyLabel.parse (fromKey key).label = .ok key.descriptor.label :=
    key.descriptor.label.parse_value
  have hfits : ((fromKey key).publicKeyBytes.isEmpty ||
      maxPublicKeyBytes < (fromKey key).publicKeyBytes.length) = false ↔ key.Fits := by
    rw [Bool.or_eq_false_iff, decide_eq_false_iff_not, Nat.not_lt, List.isEmpty_eq_false_iff,
      ← List.length_pos_iff]
    rfl
  have hkey : ({
      descriptor := {
        reference := key.descriptor.reference
        label := key.descriptor.label
        algorithm := (fromKey key).algorithm.toAlgorithm
        purpose := (fromKey key).purpose.toPurpose
        publicKey := ⟨(fromKey key).publicKeyEncoding.toEncoding, (fromKey key).publicKeyBytes⟩
        createdAt := (fromKey key).createdAtMillis }
      material := key.material } : PortableCustodyKey) = key := by
    simp [fromKey]
  simp only [toKey, bind_ok_iff, rejectIf_ok_iff, exists_const, hfits, hreference, hlabel,
    toMaterial_fromKey, Except.mapError, Except.ok.injEq, exists_eq_left']
  constructor
  · intro h
    obtain ⟨hfits, hpure⟩ := h
    cases hpure
    exact ⟨hfits, hkey.symm⟩
  · intro h
    obtain ⟨hfits, rfl⟩ := h
    exact ⟨hfits, congrArg Except.ok hkey⟩

namespace WireVault

def fromVault (vault : PortableCustodyVault) : WireVault where
  profileId := vault.profileId.id.asStr
  exportedAtMillis := vault.exportedAtMillis
  rootSeed := .fromRoot vault.rootSeed
  keys := vault.keys.map .fromKey

def toVault (wire : WireVault) : Except PortableBackupPortError PortableCustodyVault := do
  let profileId ← (WalletProfileId.parse wire.profileId).mapError fun _ => .invalidPackage
  let keys ← wire.keys.mapM (·.toKey)
  let rootSeed ← wire.rootSeed.toRoot
  (PortableCustodyVault.newWithRoot profileId wire.exportedAtMillis rootSeed keys).mapError
    fun error =>
      match error with
      | .conflict => .invalidPackage
      | other => other

theorem toVault_fromVault {vault vault'} :
    (fromVault vault).toVault = .ok vault' ↔ (∀ key ∈ vault.keys, key.Fits) ∧ vault' = vault := by
  have hprofile : WalletProfileId.parse (fromVault vault).profileId = .ok vault.profileId :=
    WalletProfileId.parse_ok_iff.mpr rfl
  have hroot : (fromVault vault).rootSeed.toRoot = .ok vault.rootSeed :=
    WireRootSeed.toRoot_fromRoot vault.rootSeed
  have hkeys (keys : List PortableCustodyKey) : (fromVault vault).keys.mapM (·.toKey) = .ok keys ↔
        (∀ key ∈ vault.keys, key.Fits) ∧ keys = vault.keys := by
    rw [fromVault, List.mapM_map, list_mapM_ok_iff_forall₂]
    simp only [Function.comp_apply, WireKey.toKey_fromKey]
    rw [List.forall₂_and_left, List.forall₂_eq_eq_eq, eq_comm (a := keys)]
  simp only [toVault, bind_ok_iff, mapError_ok_iff, hprofile, hroot, Except.ok.injEq,
    exists_eq_left', hkeys]
  constructor
  · intro h
    obtain ⟨keys, ⟨hfits, rfl⟩, hnew⟩ := h
    refine ⟨hfits, ?_⟩
    have hparts := vault.newWithRoot_parts
    exact Except.ok.inj (hnew.symm.trans hparts)
  · intro h
    obtain ⟨hfits, rfl⟩ := h
    exact ⟨vault'.keys, ⟨hfits, rfl⟩, vault'.newWithRoot_parts⟩

end WireVault

/-! ## Reading and writing -/

/-- `serde_json`, of which round trips are assumed where they are needed. -/
structure VaultJson where
  toVec : WireVault → Option (List UInt8)
  fromSlice : List UInt8 → Option WireVault

def VaultJson.RoundTrips (json : VaultJson) : Prop :=
  ∀ wire bytes, json.toVec wire = some bytes → json.fromSlice bytes = some wire

def SectionFits (maximum : ℕ) (bytes : List UInt8) : Prop :=
  bytes ≠ [] ∧ bytes.length ≤ maximum

def validateSection (bytes : List UInt8) (maximum : ℕ) : Except PortableBackupPortError Unit :=
  rejectIf (bytes.isEmpty || maximum < bytes.length) .invalidPackage

theorem validateSection_ok_iff {bytes maximum u} :
    validateSection bytes maximum = .ok u ↔ SectionFits maximum bytes := by
  simp [validateSection, SectionFits]

def maxCustodySnapshotBytes : ℕ := 1024 * 1024

def encodeCustody (json : VaultJson) (vault : PortableCustodyVault) :
    Except PortableBackupPortError (List UInt8) := do
  let bytes ← okOr (json.toVec (.fromVault vault)) .invalidOperation
  validateSection bytes maxCustodySnapshotBytes
  return bytes

def decodeCustody (json : VaultJson) (bytes : List UInt8) :
    Except PortableBackupPortError PortableCustodyVault := do
  validateSection bytes maxCustodySnapshotBytes
  let wire ← okOr (json.fromSlice bytes) .invalidPackage
  wire.toVault

theorem encodeCustody_ok_iff {json vault bytes} : encodeCustody json vault = .ok bytes ↔
      json.toVec (.fromVault vault) = some bytes ∧ SectionFits maxCustodySnapshotBytes bytes := by
  simp only [encodeCustody, bind_ok_iff, okOr_ok_iff, validateSection_ok_iff]
  constructor
  · intro h
    obtain ⟨bytes', hwire, -, hfits, hpure⟩ := h
    cases hpure
    exact ⟨hwire, hfits⟩
  · intro h
    exact ⟨bytes, h.1, (), h.2, rfl⟩

theorem decodeCustody_encodeCustody {json} (hjson : json.RoundTrips) {vault vault' bytes}
    (hbytes : encodeCustody json vault = .ok bytes) : decodeCustody json bytes = .ok vault' ↔
      (∀ key ∈ vault.keys, key.Fits) ∧ vault' = vault := by
  obtain ⟨hwire, hfits⟩ := encodeCustody_ok_iff.mp hbytes
  rw [← WireVault.toVault_fromVault]
  simp only [decodeCustody, bind_ok_iff, validateSection_ok_iff, okOr_ok_iff,
    hjson _ _ hwire, some.injEq, exists_eq_left']
  constructor
  · intro h
    obtain ⟨-, -, hvault⟩ := h
    exact hvault
  · intro h
    exact ⟨(), hfits, h⟩

end Oxid.Backup
