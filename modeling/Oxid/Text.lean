import Mathlib.Data.List.Induction
import Mathlib.Data.Nat.Notation
import Mathlib.Tactic.IntervalCases

/-!
# Numbers and bytes as text

A number is written in decimal without a leading zero, and a byte as two lower-case
hexadecimal digits.  Each lemma is an equivalence, so it serves both directions of a format.
-/

namespace Oxid.Text
open Option List Nat

/-! ## Decimal numbers -/

structure CanonicalDecimal (cs : List Char) : Prop where
  nonempty : cs ≠ []
  leading : ¬ (1 < cs.length ∧ cs.head? = some '0')
  digits : ∀ c ∈ cs, c.isDigit

variable {cs : List Char} {c : Char}

theorem digitChar_of_isDigit (h : c.isDigit) :
    c.toNat - '0'.toNat < 10 ∧ digitChar (c.toNat - '0'.toNat) = c := by
  rw [Char.isDigit_iff_toNat] at h
  change 48 ≤ c.toNat ∧ c.toNat ≤ 57 at h
  have hlt : c.toNat - '0'.toNat < 10 := by
    show c.toNat - 48 < 10
    omega
  refine ⟨hlt, Char.toNat_inj.mp ?_⟩
  rw [toNat_digitChar_of_lt_ten hlt]
  show 48 + (c.toNat - 48) = c.toNat
  omega

theorem head?_append_of_ne_nil {ds} (h : cs ≠ []) : (cs ++ ds).head? = cs.head? := by
  cases cs with
  | nil => exact absurd rfl h
  | cons => rfl

theorem toDigits_concat {n} (hn : 0 < n) (h : c.isDigit) :
    toDigits 10 (10 * n + (c.toNat - '0'.toNat)) = toDigits 10 n ++ [c] := by
  obtain ⟨hlt, hchar⟩ := digitChar_of_isDigit h
  rw [← toDigits_append_toDigits (by decide) hn hlt, toDigits_of_lt_base hlt, hchar]

theorem ofDigitChars_concat (cs : List Char) (c : Char) :
    ofDigitChars 10 (cs ++ [c]) 0 = 10 * ofDigitChars 10 cs 0 + (c.toNat - '0'.toNat) := by
  simp [ofDigitChars_eq_foldl]

theorem toDigits_ofDigitChars (hne : cs ≠ []) (hhead : cs.head? ≠ some '0')
    (hdigits : ∀ c ∈ cs, c.isDigit) :
    0 < ofDigitChars 10 cs 0 ∧ toDigits 10 (ofDigitChars 10 cs 0) = cs := by
  induction cs using reverseRecOn with
  | nil => exact absurd rfl hne
  | append_singleton cs c ih =>
    have hc : c.isDigit := hdigits c (by simp)
    rw [ofDigitChars_concat]
    by_cases hcs : cs = []
    · subst hcs
      obtain ⟨hlt, hchar⟩ := digitChar_of_isDigit hc
      have hpos : c.toNat - '0'.toNat ≠ 0 := by
        intro hzero
        rw [hzero] at hchar
        exact hhead (by rw [← hchar]; rfl)
      rw [show ofDigitChars 10 [] 0 = 0 from rfl, mul_zero, zero_add,
        toDigits_of_lt_base hlt, hchar]
      exact ⟨pos_of_ne_zero hpos, rfl⟩
    · have hhead' : cs.head? ≠ some '0' := by
        rwa [head?_append_of_ne_nil hcs] at hhead
      obtain ⟨hpos, heq⟩ := ih hcs hhead' fun d hd => hdigits d (by simp [hd])
      rw [toDigits_concat hpos hc, heq]
      exact ⟨by omega, rfl⟩

theorem head?_toDigits {n} (hn : 0 < n) : (toDigits 10 n).head? ≠ some '0' := by
  induction n using Nat.strongRecOn with
  | ind n ih =>
    by_cases hlt : n < 10
    · rw [toDigits_of_lt_base hlt]
      interval_cases n <;> decide
    · rw [toDigits_of_base_le (by decide) (by omega),
        head?_append_of_ne_nil toDigits_ne_nil]
      exact ih (n / 10) (by omega) (by omega)

theorem canonicalDecimal_toDigits (n : ℕ) : CanonicalDecimal (toDigits 10 n) where
  nonempty := toDigits_ne_nil
  leading := by
    rintro ⟨hlength, hhead⟩
    by_cases hn : n = 0
    · subst hn
      simp [toDigits_zero] at hlength
    · exact head?_toDigits (pos_of_ne_zero hn) hhead
  digits := fun _ => isDigit_of_mem_toDigits (by decide) (by decide)

/-- **Decimal numbers.**  A text in this form is the one that denotes its number. -/
theorem canonicalDecimal_iff {n} :
    CanonicalDecimal cs ∧ ofDigitChars 10 cs 0 = n ↔ cs = toDigits 10 n := by
  constructor
  · rintro ⟨h, rfl⟩
    by_cases hhead : cs.head? = some '0'
    · -- A leading zero stands alone.
      have hlength : ¬ 1 < cs.length := fun hlength => h.leading ⟨hlength, hhead⟩
      cases cs with
      | nil => cases hhead
      | cons d ds =>
        obtain rfl : ds = [] := by
          rw [length_cons] at hlength
          exact eq_nil_of_length_eq_zero (by omega)
        obtain rfl : d = '0' := by simpa using hhead
        decide
    · exact (toDigits_ofDigitChars h.nonempty hhead h.digits).2.symm
  · rintro rfl
    exact ⟨canonicalDecimal_toDigits n, ofDigitChars_ten_toDigits⟩

/-! ## Bytes in hexadecimal -/

/-- The two digits of each byte, the high half first. -/
def hexEncode (bs : List UInt8) : List Char :=
  bs.flatMap fun b => [Nat.digitChar (b.toNat / 16), Nat.digitChar (b.toNat % 16)]

def hexValue (c : Char) : Option ℕ :=
  if c.isDigit then some (c.toNat - 48)
  else if 'a' ≤ c ∧ c ≤ 'f' then some (c.toNat - 87)
  else if 'A' ≤ c ∧ c ≤ 'F' then some (c.toNat - 55)
  else none

def hexDecode : List Char → Option (List UInt8)
  | [] => some []
  | [_] => none
  | hi :: lo :: rest => do
    let hi ← hexValue hi
    let lo ← hexValue lo
    let rest ← hexDecode rest
    return UInt8.ofNat (16 * hi + lo) :: rest

def isLowerHex (c : Char) : Bool := c.isDigit || ('a' ≤ c && c ≤ 'f')

theorem digitChar_lowerHex {v} (h : v < 16) :
    isLowerHex (digitChar v) ∧ hexValue (digitChar v) = some v := by
  interval_cases v <;> decide

theorem hexValue_eq_some_iff {v} (h : isLowerHex c) :
    hexValue c = some v ↔ v < 16 ∧ c = digitChar v := by
  constructor
  · intro hv
    rw [isLowerHex, Bool.or_eq_true, Bool.and_eq_true, decide_eq_true_eq, decide_eq_true_eq] at h
    rw [hexValue] at hv
    by_cases hdigit : c.isDigit
    · obtain ⟨hlt, hchar⟩ := digitChar_of_isDigit hdigit
      rw [if_pos hdigit, some.injEq] at hv
      subst hv
      exact ⟨lt_trans hlt (by decide), hchar.symm⟩
    · have hletter : 'a' ≤ c ∧ c ≤ 'f' := h.resolve_left hdigit
      rw [if_neg hdigit, if_pos hletter, some.injEq] at hv
      have hrange : 97 ≤ c.toNat ∧ c.toNat ≤ 102 := hletter
      refine ⟨by omega, Char.toNat_inj.mp ?_⟩
      have hbound : v < 16 ∧ 10 ≤ v := by omega
      have hchar : (digitChar v).toNat = v + 87 := by
        obtain ⟨hlt, hge⟩ := hbound
        interval_cases v <;> rfl
      omega
  · rintro ⟨hlt, rfl⟩
    exact (digitChar_lowerHex hlt).2

@[simp] theorem hexEncode_nil : hexEncode [] = [] := rfl

@[simp] theorem hexEncode_cons (b : UInt8) (bs : List UInt8) : hexEncode (b :: bs) =
      digitChar (b.toNat / 16) :: digitChar (b.toNat % 16) :: hexEncode bs := rfl

theorem length_hexEncode (bs : List UInt8) : (hexEncode bs).length = 2 * bs.length := by
  induction bs with
  | nil => rfl
  | cons b _ ih =>
    rw [hexEncode_cons, length_cons, length_cons, ih, length_cons]
    omega

theorem isLowerHex_of_mem_hexEncode {bs} (h : c ∈ hexEncode bs) : isLowerHex c := by
  obtain ⟨b, -, hc⟩ := mem_flatMap.mp h
  have hb := b.toNat_lt
  rw [mem_cons, mem_singleton] at hc
  rcases hc with rfl | rfl
  · exact (digitChar_lowerHex (by omega)).1
  · exact (digitChar_lowerHex (by omega)).1

/-- **Bytes in hexadecimal.**  Lower-case digits denote exactly the bytes they encode. -/
theorem hexDecode_eq_some_iff {bs} (h : ∀ c ∈ cs, isLowerHex c) :
    hexDecode cs = some bs ↔ cs = hexEncode bs := by
  induction cs using hexDecode.induct generalizing bs with
  | case1 => cases bs <;> simp [hexDecode]
  | case2 c =>
    have hlength : [c] ≠ hexEncode bs := by
      intro heq
      have := congrArg length heq
      rw [length_hexEncode, length_singleton] at this
      omega
    simp [hexDecode, hlength]
  | case3 hi lo rest ih =>
    have hhi := h hi (by simp)
    have hlo := h lo (by simp)
    have hrest : ∀ c ∈ rest, isLowerHex c := fun c hc => h c (by simp [hc])
    simp only [hexDecode, bind_eq_bind, bind_eq_some_iff, Option.pure_def,
      some.injEq, hexValue_eq_some_iff hhi, hexValue_eq_some_iff hlo, ih hrest]
    constructor
    · rintro ⟨high, ⟨hhigh, rfl⟩, low, ⟨hlow, rfl⟩, bytes, rfl, rfl⟩
      have hbyte : (UInt8.ofNat (16 * high + low)).toNat = 16 * high + low := by
        rw [UInt8.toNat_ofNat']
        omega
      rw [hexEncode_cons, hbyte, show (16 * high + low) / 16 = high by omega,
        show (16 * high + low) % 16 = low by omega]
    · intro heq
      cases bs with
      | nil => cases heq
      | cons b bytes =>
        rw [hexEncode_cons] at heq
        cases heq
        have hb := b.toNat_lt
        refine ⟨b.toNat / 16, ⟨by omega, rfl⟩, b.toNat % 16, ⟨by omega, rfl⟩, bytes, rfl, ?_⟩
        rw [show 16 * (b.toNat / 16) + b.toNat % 16 = b.toNat by omega, UInt8.ofNat_toNat]

theorem hexEncode_injective : Function.Injective hexEncode := by
  intro a b h
  have ha := (hexDecode_eq_some_iff fun _ => isLowerHex_of_mem_hexEncode).mpr
    (Eq.refl (hexEncode a))
  have hb := (hexDecode_eq_some_iff fun _ => isLowerHex_of_mem_hexEncode).mpr h
  rw [ha, some.injEq] at hb
  exact hb

theorem toDigits_injective : Function.Injective (toDigits 10) := by
  intro m n h
  have hm := ofDigitChars_ten_toDigits (n := m)
  rw [h, ofDigitChars_ten_toDigits] at hm
  exact hm.symm

end Oxid.Text
