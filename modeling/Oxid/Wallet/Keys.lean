import Oxid.Wallet.Amounts
import Oxid.Wallet.Domain

/-!
# Protected keys

The public part of a key that is generated, or derived from the root seed along a path.
Parsing what a label or a path shows gives it back.
-/

namespace Oxid.Wallet
open Foundation Result

structure WalletKeyReference where
  id : OpaqueId
  deriving DecidableEq

def WalletKeyReference.parse (value : String) : Except OpaqueIdError WalletKeyReference :=
  (OpaqueId.parse value).map .mk

theorem WalletKeyReference.parse_ok_iff {value i} :
    WalletKeyReference.parse value = .ok i ↔ i.id.asStr = value :=
  map_parse_ok_iff (fun _ => rfl) fun _ => rfl

inductive WalletKeyLabelError
  | empty | tooLong | containsControlCharacter

/-- Labels are trimmed when they are parsed, so a shown label parses to itself. -/
structure WalletKeyLabel where
  value : String
  trimmed : trim value.toList = value.toList
  nonempty : value.toList ≠ []
  short : value.toList.length ≤ 96
  printable : value.toList.any isControl = false

instance WalletKeyLabel.decidableEq : DecidableEq WalletKeyLabel := fun a b =>
  decidable_of_iff (a.value = b.value) ⟨fun h => by cases a; cases b; cases h; rfl, congrArg _⟩

theorem dropWhile_rdropWhile_dropWhile (cs : List Char) :
    ((cs.dropWhile isWhitespace).rdropWhile isWhitespace).dropWhile isWhitespace =
      (cs.dropWhile isWhitespace).rdropWhile isWhitespace := by
  rw [List.dropWhile_eq_self_iff]
  intro hlength
  have hfront := List.rdropWhile_prefix isWhitespace (cs.dropWhile isWhitespace)
  have hpos : 0 < (cs.dropWhile isWhitespace).length :=
    Nat.lt_of_lt_of_le hlength hfront.length_le
  have hhead := List.dropWhile_get_zero_not isWhitespace cs hpos
  rw [hfront.getElem hlength]
  simpa using hhead

theorem trim_trim (cs : List Char) : trim (trim cs) = trim cs := by
  rw [trim, trim, dropWhile_rdropWhile_dropWhile, List.rdropWhile_idempotent]

def WalletKeyLabel.parse (value : String) : Except WalletKeyLabelError WalletKeyLabel :=
  let normalized := trim value.toList
  if h₁ : normalized = [] then .error .empty
  else if h₂ : 96 < normalized.length then .error .tooLong
  else if h₃ : normalized.any isControl then .error .containsControlCharacter
  else
    .ok ⟨String.ofList normalized, by rw [String.toList_ofList]; exact trim_trim _,
      by rw [String.toList_ofList]; exact h₁, by rw [String.toList_ofList]; omega,
      by rw [String.toList_ofList]; simpa using h₃⟩

theorem WalletKeyLabel.parse_value (label : WalletKeyLabel) :
    WalletKeyLabel.parse label.value = .ok label := by
  obtain ⟨value, htrimmed, hnonempty, hshort, hprintable⟩ := label
  have hcontrol : ¬ value.toList.any isControl := by simp [hprintable]
  simp only [parse, htrimmed, dif_neg hnonempty, dif_neg (Nat.not_lt.mpr hshort),
    dif_neg hcontrol, String.ofList_toList]

inductive WalletKeyAlgorithm
  | ed25519 | p256 | secp256k1Schnorr | jubjub
  deriving DecidableEq

inductive WalletKeyPurpose
  | transaction | authentication | assertion | keyAgreement | recovery
  deriving DecidableEq

inductive PublicKeyEncoding
  | ed25519Compressed | sec1Compressed | secp256k1XOnly | jubjubCompressed
  deriving DecidableEq

structure WalletPublicKey where
  encoding : PublicKeyEncoding
  bytes : List UInt8
  deriving DecidableEq

structure WalletKeyDescriptor where
  reference : WalletKeyReference
  label : WalletKeyLabel
  algorithm : WalletKeyAlgorithm
  purpose : WalletKeyPurpose
  publicKey : WalletPublicKey
  createdAt : UInt64
  deriving DecidableEq

inductive WalletHdPathError
  | empty | tooDeep | indexOutOfBounds

def maxPathIndex : UInt32 := 2147483647

structure WalletHdPathComponent where
  index : UInt32
  hardened : Bool
  bounded : index ≤ maxPathIndex
  deriving DecidableEq

def WalletHdPathComponent.new (index : UInt32) (hardened : Bool) :
    Except WalletHdPathError WalletHdPathComponent :=
  if h : index ≤ maxPathIndex then .ok ⟨index, hardened, h⟩ else .error .indexOutOfBounds

theorem WalletHdPathComponent.new_index (component : WalletHdPathComponent) :
    WalletHdPathComponent.new component.index component.hardened = .ok component := by
  rw [new, dif_pos component.bounded]

structure WalletHdPath where
  components : List WalletHdPathComponent
  nonempty : components ≠ []
  shallow : components.length ≤ 10
  deriving DecidableEq

def WalletHdPath.new (components : List WalletHdPathComponent) :
    Except WalletHdPathError WalletHdPath :=
  if h₁ : components = [] then .error .empty
  else if h₂ : 10 < components.length then .error .tooDeep
  else .ok ⟨components, h₁, Nat.not_lt.mp h₂⟩

theorem WalletHdPath.new_components (path : WalletHdPath) :
    WalletHdPath.new path.components = .ok path := by
  rw [new, dif_neg path.nonempty, dif_neg (Nat.not_lt.mpr path.shallow)]

inductive WalletRootSeed
  | rawDevelopment (root : Vector UInt8 32)
  | bip39 (seed : Vector UInt8 64)
  deriving DecidableEq

inductive WalletRootSeedKind
  | rawDevelopment | bip39

namespace WalletRootSeed

def kind : WalletRootSeed → WalletRootSeedKind
  | .rawDevelopment _ => .rawDevelopment
  | .bip39 _ => .bip39

def exposeForProtectedUse : WalletRootSeed → List UInt8
  | .rawDevelopment root => root.toList
  | .bip39 seed => seed.toList

end WalletRootSeed

end Oxid.Wallet
