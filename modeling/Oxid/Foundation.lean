import Mathlib.Data.List.DropRight
import Mathlib.Algebra.GroupWithZero.Nat
import Mathlib.Order.Lattice

/-!
# Identifiers and machine words

`oxid_foundation::OpaqueId` is a string that has passed `parse`; the facts `parse` checks are
fields.  Revisions, generations and counters are `u64`, amounts `u128`: the numbers below
2¹²⁸, whose subtraction wraps.
-/

namespace Oxid.Foundation
open UInt64

instance instLinearOrderUInt64 : LinearOrder UInt64 where
  le_refl := UInt64.le_refl
  le_trans := fun _ _ _ => UInt64.le_trans
  le_antisymm := fun _ _ => UInt64.le_antisymm
  lt_iff_le_not_ge := fun a b => by
    rw [UInt64.lt_iff_toNat_lt, UInt64.le_iff_toNat_le, UInt64.le_iff_toNat_le]
    omega
  le_total := fun a b => by
    rw [UInt64.le_iff_toNat_le, UInt64.le_iff_toNat_le]
    omega
  toDecidableLE := UInt64.decLe
  toDecidableLT := UInt64.decLt

/-! ## Checked arithmetic -/

abbrev U128 := Fin (2 ^ 128)

instance instNeZeroU128 : NeZero (2 ^ 128) := ⟨by decide⟩

def U128.checkedAdd (a b : U128) : Option U128 :=
  if h : a.val + b.val < 2 ^ 128 then some ⟨a.val + b.val, h⟩ else none

theorem U128.checkedAdd_eq_some_iff {a b c : U128} :
    a.checkedAdd b = some c ↔ c.val = a.val + b.val := by
  rw [U128.checkedAdd]
  split_ifs with h
  · rw [Option.some.injEq, Fin.ext_iff]
    exact eq_comm
  · have := c.isLt
    simp only [false_iff]
    omega

def U128.checkedSub (a b : U128) : Option U128 := if b ≤ a then some (a - b) else none

theorem U128.val_sub {a b : U128} (h : b ≤ a) : (a - b).val = a.val - b.val :=
  Fin.sub_val_of_le h

def U128.saturatingMul (a b : U128) : U128 :=
  if h : a.val * b.val < 2 ^ 128 then ⟨a.val * b.val, h⟩ else ⟨2 ^ 128 - 1, by decide⟩

def U128.ofUInt64 (n : UInt64) : U128 := ⟨n.toNat, by have := n.toNat_lt; omega⟩

def checkedAdd64 (a b : UInt64) : Option UInt64 :=
  if a.toNat + b.toNat < 2 ^ 64 then some (a + b) else none

variable {a b c : UInt64}

theorem checkedAdd64_eq_some_iff : checkedAdd64 a b = some c ↔ c.toNat = a.toNat + b.toNat := by
  rw [checkedAdd64]
  split_ifs with h
  · rw [Option.some.injEq, ← UInt64.toNat_inj, UInt64.toNat_add, Nat.mod_eq_of_lt h]
    exact eq_comm
  · have := c.toNat_lt
    simp only [false_iff]
    omega

def u64Max : UInt64 := UInt64.ofNat (2 ^ 64 - 1)

theorem toNat_u64Max : u64Max.toNat = 2 ^ 64 - 1 := by decide

def saturatingAdd64 (a b : UInt64) : UInt64 :=
  if a.toNat + b.toNat < 2 ^ 64 then a + b else u64Max

theorem toNat_saturatingAdd64 (a b : UInt64) :
    (saturatingAdd64 a b).toNat = min (a.toNat + b.toNat) (2 ^ 64 - 1) := by
  rw [saturatingAdd64]
  split_ifs with h
  · rw [UInt64.toNat_add, Nat.mod_eq_of_lt h]
    omega
  · rw [toNat_u64Max]
    omega

theorem le_saturatingAdd64 (a b : UInt64) : a ≤ saturatingAdd64 a b := by
  have := a.toNat_lt
  rw [le_iff_toNat_le, toNat_saturatingAdd64]
  omega

theorem saturatingAdd64_le (h : a.toNat + b.toNat ≤ c.toNat) : saturatingAdd64 a b ≤ c := by
  rw [le_iff_toNat_le, toNat_saturatingAdd64]
  omega

theorem add_le_of_saturatingAdd64_le (hfit : a.toNat + b.toNat < u64Max.toNat)
    (h : saturatingAdd64 a b ≤ c) : a.toNat + b.toNat ≤ c.toNat := by
  rw [le_iff_toNat_le, toNat_saturatingAdd64] at h
  rw [toNat_u64Max] at hfit
  omega

theorem lt_saturatingAdd64_one (h : a ≠ u64Max) : a < saturatingAdd64 a 1 := by
  have hlt := a.toNat_lt
  have hne : a.toNat ≠ 2 ^ 64 - 1 := by
    rw [← toNat_u64Max]
    exact fun heq => h (UInt64.toNat_inj.mp heq)
  rw [lt_iff_toNat_lt, toNat_saturatingAdd64, toNat_one]
  omega

def saturatingSub64 (a b : UInt64) : UInt64 := if b ≤ a then a - b else 0

theorem le_saturatingSub64_iff (hc : c ≠ 0) :
    c ≤ saturatingSub64 a b ↔ b.toNat + c.toNat ≤ a.toNat := by
  have hpos : c.toNat ≠ 0 := fun h => hc (UInt64.toNat_inj.mp h)
  rw [saturatingSub64, le_iff_toNat_le]
  split_ifs with h
  · have hle := le_iff_toNat_le.mp h
    rw [UInt64.toNat_sub_of_le a b h]
    omega
  · have hlt := le_iff_toNat_le.not.mp h
    rw [UInt64.toNat_zero]
    omega

def saturatingMul64 (a b : UInt64) : UInt64 :=
  if a.toNat * b.toNat < 2 ^ 64 then a * b else u64Max

theorem toNat_saturatingMul64 (a b : UInt64) :
    (saturatingMul64 a b).toNat = min (a.toNat * b.toNat) (2 ^ 64 - 1) := by
  rw [saturatingMul64]
  split_ifs with h
  · rw [UInt64.toNat_mul, Nat.mod_eq_of_lt h]
    omega
  · rw [toNat_u64Max]
    omega

/-! ## Identifiers -/

inductive OpaqueIdError
  | empty | tooLong | containsWhitespace | containsControlCharacter
  deriving DecidableEq

/-- `char::is_whitespace`: the Unicode `White_Space` property. -/
def isWhitespace (c : Char) : Bool :=
  let n := c.toNat
  (9 ≤ n && n ≤ 13) || n == 0x20 || n == 0x85 || n == 0xA0 || n == 0x1680 ||
    (0x2000 ≤ n && n ≤ 0x200A) || n == 0x2028 || n == 0x2029 || n == 0x202F ||
    n == 0x205F || n == 0x3000

/-- `str::trim`. -/
def trim (cs : List Char) : List Char := (cs.dropWhile isWhitespace).rdropWhile isWhitespace

/-- `char::is_control`: the Unicode general category `Cc`. -/
def isControl (c : Char) : Bool :=
  let n := c.toNat
  n ≤ 0x1F || (0x7F ≤ n && n ≤ 0x9F)

structure OpaqueId where
  value : String
  nonempty : value.toList ≠ []
  short : value.toList.length ≤ 128
  unspaced : value.toList.any isWhitespace = false
  printable : value.toList.any isControl = false
  deriving DecidableEq

namespace OpaqueId

/-- Check a string in the order the source does, and wrap it. -/
def parse (value : String) : Except OpaqueIdError OpaqueId :=
  if h₁ : value.toList = [] then .error .empty
  else if h₂ : 128 < value.toList.length then .error .tooLong
  else if h₃ : value.toList.any isWhitespace then .error .containsWhitespace
  else if h₄ : value.toList.any isControl then .error .containsControlCharacter
  else .ok ⟨value, h₁, by omega, by simpa using h₃, by simpa using h₄⟩

def asStr (i : OpaqueId) : String := i.value

/-- An identifier is parsed from its own string and from no other. -/
theorem parse_ok_iff {value i} : parse value = .ok i ↔ i.asStr = value := by
  constructor
  · intro h
    simp only [parse] at h
    split_ifs at h
    cases h
    rfl
  · rintro rfl
    have hshort : ¬ 128 < i.value.toList.length := Nat.not_lt.mpr i.short
    simp [parse, asStr, i.nonempty, hshort, i.unspaced, i.printable]

end OpaqueId
end Oxid.Foundation
