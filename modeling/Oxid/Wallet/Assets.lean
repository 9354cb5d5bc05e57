import Oxid.Wallet.Amounts
import Oxid.Wallet.Domain

/-!
# Assets, balances and the history of an account

The public side of an account: what an asset is called, how much of it there is, and what
the transactions of the chain changed.
-/

namespace Oxid.Wallet
open Foundation Result

inductive PublicChainTextError
  | empty | tooLong | containsControlCharacter

/-- Text is trimmed before its length is looked at. -/
def parsePublicText (value : String) (maximum : ℕ) : Except PublicChainTextError String := do
  let value := trim value.toList
  rejectIf value.isEmpty .empty
  rejectIf (maximum < value.length) .tooLong
  rejectIf (value.any isControl) .containsControlCharacter
  return String.ofList value

theorem parsePublicText_ok {value maximum} (hne : value.toList ≠ [])
    (hlength : value.toList.length ≤ maximum) (hspace : ∀ c ∈ value.toList, isWhitespace c = false)
    (hcontrol : ∀ c ∈ value.toList, isControl c = false) :
    parsePublicText value maximum = .ok value := by
  have hempty : value.toList.isEmpty = false := List.isEmpty_eq_false_iff.mpr hne
  have hany : value.toList.any isControl = false := by simpa using hcontrol
  have hlimit : ¬ maximum < value.toList.length := not_lt.mpr hlength
  simp [parsePublicText, trim_eq_self hspace, hempty, hany, hlimit, ok_bind]

structure ChainAssetId where
  id : OpaqueId
  deriving DecidableEq

def ChainAssetId.parse (value : String) : Except OpaqueIdError ChainAssetId :=
  (OpaqueId.parse value).map .mk

theorem ChainAssetId.parse_ok_iff {value i} :
    ChainAssetId.parse value = .ok i ↔ i.id.asStr = value :=
  map_parse_ok_iff (fun _ => rfl) fun _ => rfl

structure AssetSymbol where
  text : String
  deriving DecidableEq

def AssetSymbol.parse (value : String) : Except PublicChainTextError AssetSymbol :=
  (parsePublicText value 24).map .mk

structure ChainAsset where
  id : ChainAssetId
  symbol : AssetSymbol
  decimals : UInt8
  deriving DecidableEq

structure AssetBalance where
  asset : ChainAsset
  atomicUnits : U128

inductive BalanceChangeDirection
  | credit | debit

structure AssetBalanceChange where
  direction : BalanceChangeDirection
  balance : AssetBalance

inductive WalletTransactionDirection
  | incoming | outgoing | selfTransfer | unknown

inductive WalletTransactionStatus
  | pending | confirmed | partiallyApplied | failed

structure WalletTransaction where
  id : ChainTransactionId
  direction : WalletTransactionDirection
  status : WalletTransactionStatus
  (blockHeight observedAt : Option UInt64)
  changes : List AssetBalanceChange
  fee : Option AssetBalance

/-- The loop of `decimal_places`; a `u128` has at most 39 digits. -/
def decimalPlacesLoop : ℕ → ℕ → UInt8 → Option UInt8
  | 0, _, _ => none
  | rounds + 1, units, decimals =>
    if units ≤ 1 then some decimals
    else if units % 10 ≠ 0 then none
    else if decimals.toNat + 1 < 2 ^ 8 then
      decimalPlacesLoop rounds (units / 10) (decimals + 1)
    else none

def decimalPlaces (units : U128) : Option UInt8 :=
  if units.val = 0 then none else decimalPlacesLoop 39 units.val 0

end Oxid.Wallet
