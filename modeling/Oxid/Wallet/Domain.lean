import Oxid.Foundation

/-!
# Identifiers of the wallet domain

The macro `opaque_id_type!` makes one newtype over `OpaqueId` per kind of identifier, so that
one kind cannot stand for another.
-/

namespace Oxid.Wallet
open Foundation

structure WalletProfileId where
  id : OpaqueId
  deriving DecidableEq

structure ChainNetworkId where
  id : OpaqueId
  deriving DecidableEq

structure ChainTransactionId where
  id : OpaqueId
  deriving DecidableEq

/-- Handed around by the modelled code, but never parsed there. -/
structure ChainAccountId where
  id : OpaqueId
  deriving DecidableEq

structure WalletTransactionDraftId where
  id : OpaqueId
  deriving DecidableEq

def WalletProfileId.parse (value : String) : Except OpaqueIdError WalletProfileId :=
  (OpaqueId.parse value).map .mk

def ChainNetworkId.parse (value : String) : Except OpaqueIdError ChainNetworkId :=
  (OpaqueId.parse value).map .mk

def ChainTransactionId.parse (value : String) : Except OpaqueIdError ChainTransactionId :=
  (OpaqueId.parse value).map .mk

def WalletTransactionDraftId.parse (value : String) :
    Except OpaqueIdError WalletTransactionDraftId :=
  (OpaqueId.parse value).map .mk

theorem map_parse_ok_iff {α : Type} {mk} {id : α → OpaqueId} (hmk : ∀ a, mk (id a) = a)
    (hid : ∀ i, id (mk i) = i) {value} {a : α} :
    (OpaqueId.parse value).map mk = .ok a ↔ (id a).asStr = value := by
  rw [← OpaqueId.parse_ok_iff]
  cases OpaqueId.parse value with
  | error => simp [Except.map]
  | ok i =>
    simp only [Except.map, Except.ok.injEq]
    constructor
    · rintro rfl
      exact (hid i).symm
    · rintro rfl
      exact hmk a

variable {value : String}

theorem WalletProfileId.parse_ok_iff {i : WalletProfileId} :
    WalletProfileId.parse value = .ok i ↔ i.id.asStr = value :=
  map_parse_ok_iff (fun _ => rfl) fun _ => rfl

theorem ChainNetworkId.parse_ok_iff {i : ChainNetworkId} :
    ChainNetworkId.parse value = .ok i ↔ i.id.asStr = value :=
  map_parse_ok_iff (fun _ => rfl) fun _ => rfl

theorem ChainTransactionId.parse_ok_iff {i : ChainTransactionId} :
    ChainTransactionId.parse value = .ok i ↔ i.id.asStr = value :=
  map_parse_ok_iff (fun _ => rfl) fun _ => rfl

theorem WalletTransactionDraftId.parse_ok_iff {i : WalletTransactionDraftId} :
    WalletTransactionDraftId.parse value = .ok i ↔ i.id.asStr = value :=
  map_parse_ok_iff (fun _ => rfl) fun _ => rfl

end Oxid.Wallet
