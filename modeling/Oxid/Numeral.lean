import Mathlib.Algebra.Order.Field.Rat
import Mathlib.Data.List.DropRight
import Mathlib.Tactic.FieldSimp
import Mathlib.Tactic.Positivity
import Oxid.Foundation
import Oxid.Text

/-!
# Decimal numerals with a point

A numeral denotes a rational number.  Without superfluous zeros at either end it is
determined by that number, so an exact formatter that leaves none has no other choice.
-/

namespace Oxid.Text
open Foundation List Nat

section Digits
variable {cs ds : List Char}

theorem ofDigitChars_append_zero (cs ds : List Char) : ofDigitChars 10 (cs ++ ds) 0 =
      ofDigitChars 10 cs 0 * 10 ^ ds.length + ofDigitChars 10 ds 0 := by
  rw [ofDigitChars_append, ofDigitChars_eq_ofDigitChars_zero, mul_comm]

theorem ofDigitChars_lt_pow (h : ∀ c ∈ cs, c.isDigit) : ofDigitChars 10 cs 0 < 10 ^ cs.length := by
  induction cs using reverseRecOn with
  | nil => simp
  | append_singleton _ c ih =>
    have hlt := (digitChar_of_isDigit (h c (by simp))).1
    have hrest := ih fun d hd => h d (by simp [hd])
    rw [ofDigitChars_concat, length_append, length_singleton, pow_succ]
    omega

theorem eq_of_ofDigitChars_eq (hc : ∀ c ∈ cs, c.isDigit) (hd : ∀ d ∈ ds, d.isDigit)
    (hlength : cs.length = ds.length)
    (h : ofDigitChars 10 cs 0 = ofDigitChars 10 ds 0) : cs = ds := by
  induction cs using reverseRecOn generalizing ds with
  | nil => exact (eq_nil_of_length_eq_zero hlength.symm).symm
  | append_singleton cs c ih =>
    rcases eq_nil_or_concat ds with rfl | ⟨ds, d, rfl⟩
    · simp at hlength
    · rw [concat_eq_append] at hd hlength h ⊢
      obtain ⟨hclt, hchar⟩ := digitChar_of_isDigit (hc c (by simp))
      obtain ⟨hdlt, hdhar⟩ := digitChar_of_isDigit (hd d (by simp))
      rw [ofDigitChars_concat, ofDigitChars_concat] at h
      have hlast : c.toNat - '0'.toNat = d.toNat - '0'.toNat := by omega
      have hrest : cs = ds := by
        refine ih (fun e he => hc e (by simp [he])) (fun e he => hd e (by simp [he])) ?_ ?_
        · simpa using hlength
        · omega
      rw [hrest, ← hchar, ← hdhar, hlast]

theorem not_ten_dvd (hne : cs ≠ []) (hlast : cs.getLast? ≠ some '0')
    (h : ∀ c ∈ cs, c.isDigit) : ¬ 10 ∣ ofDigitChars 10 cs 0 := by
  induction cs using reverseRecOn with
  | nil => exact absurd rfl hne
  | append_singleton _ c =>
    obtain ⟨hlt, hchar⟩ := digitChar_of_isDigit (h c (by simp))
    have hne : c.toNat - '0'.toNat ≠ 0 := by
      intro hzero
      rw [hzero] at hchar
      exact hlast (by rw [getLast?_append, ← hchar]; rfl)
    rw [ofDigitChars_concat]
    omega

end Digits

/-- At least one digit, only digits, and a number below 2¹²⁸. -/
def digitsU128 (digits : List Char) : Option U128 :=
  if digits = [] ∨ ¬ digits.all Char.isDigit then none
  else if h : Nat.ofDigitChars 10 digits 0 < 2 ^ 128 then some ⟨_, h⟩
  else none

/-- `str::parse::<u128>`: digits, after an optional plus sign. -/
def parseU128 (cs : List Char) : Option U128 :=
  digitsU128 (if cs.head? = some '+' then cs.tail else cs)

theorem parseU128_eq_some_iff {cs n} (hne : cs ≠ []) (h : ∀ c ∈ cs, c.isDigit) :
    parseU128 cs = some n ↔ ofDigitChars 10 cs 0 = n.val := by
  have hsign : cs.head? ≠ some '+' := by
    intro hhead
    have hdigit := h '+' (mem_of_mem_head? (by simp [hhead]))
    exact absurd hdigit (by decide)
  have hform : ¬ (cs = [] ∨ ¬ cs.all Char.isDigit) := by
    simp only [all_eq_true, hne, false_or, not_not]
    exact h
  have hlt := n.isLt
  rw [parseU128, if_neg hsign, digitsU128, if_neg hform]
  split_ifs with hfit
  · rw [Option.some.injEq, Fin.ext_iff]
  · simp only [false_iff]
    omega

/-! ## Numerals -/

/-- The digits of a numeral, in front of the point and behind it. -/
structure Numeral where
  (whole fraction : List Char)

namespace Numeral

def value (x : Numeral) : ℚ :=
  Nat.ofDigitChars 10 x.whole 0 + Nat.ofDigitChars 10 x.fraction 0 / 10 ^ x.fraction.length

def text (x : Numeral) : List Char :=
  if x.fraction = [] then x.whole else x.whole ++ '.' :: x.fraction

/-- No superfluous zero in front of the whole part, none behind the fraction. -/
structure Canonical (x : Numeral) : Prop where
  whole : CanonicalDecimal x.whole
  digits : ∀ c ∈ x.fraction, c.isDigit
  trailing : x.fraction.getLast? ≠ some '0'

/-- One or more digits, optionally followed by a point and at most `places` digits. -/
structure Written (places : ℕ) (cs : List Char) (x : Numeral) : Prop where
  nonempty : x.whole ≠ []
  whole : ∀ c ∈ x.whole, c.isDigit
  fraction : ∀ c ∈ x.fraction, c.isDigit
  short : x.fraction.length ≤ places
  text : cs = x.whole ++ '.' :: x.fraction ∨ x.fraction = [] ∧ cs = x.whole

variable {x y : Numeral} {d k : ℕ}

theorem value_mul_pow (x : Numeral) (h : x.fraction.length + k = d) : x.value * 10 ^ d =
      (ofDigitChars 10 (x.whole ++ (x.fraction ++ replicate k '0')) 0 : ℕ) := by
  have hfraction : ofDigitChars 10 (x.fraction ++ replicate k '0') 0 =
      ofDigitChars 10 x.fraction 0 * 10 ^ k := by
    rw [ofDigitChars_append_zero, length_replicate, ofDigitChars_replicate_zero]
    simp
  rw [ofDigitChars_append_zero, hfraction, length_append, length_replicate, h, value, ← h]
  push_cast
  rw [pow_add]
  field_simp

theorem lt_pow_of_digits (h : ∀ c ∈ x.fraction, c.isDigit) :
    ofDigitChars 10 (x.fraction ++ replicate k '0') 0 < 10 ^ (x.fraction.length + k) := by
  have hlt : ofDigitChars 10 (x.fraction ++ replicate k '0') 0 <
      10 ^ (x.fraction ++ replicate k '0').length := by
    refine ofDigitChars_lt_pow fun c hc => ?_
    rcases mem_append.mp hc with hc | hc
    · exact h c hc
    · rw [(mem_replicate.mp hc).2]
      rfl
  rwa [length_append, length_replicate] at hlt

theorem Canonical.eq_of_value_eq_of_le (hx : x.Canonical) (hy : y.Canonical)
    (h : x.value = y.value) (hle : x.fraction.length ≤ y.fraction.length) : x = y := by
  obtain ⟨k, hk⟩ := Nat.exists_eq_add_of_le hle
  have hdigits : ofDigitChars 10 (x.whole ++ (x.fraction ++ replicate k '0')) 0 =
      ofDigitChars 10 (y.whole ++ (y.fraction ++ replicate 0 '0')) 0 := by
    have hscaled := value_mul_pow x hk.symm
    rw [h, value_mul_pow y (add_zero _)] at hscaled
    exact_mod_cast hscaled.symm
  have hxlt := lt_pow_of_digits (x := x) (k := k) hx.digits
  have hylt := lt_pow_of_digits (x := y) (k := 0) hy.digits
  rw [ofDigitChars_append_zero x.whole, ofDigitChars_append_zero y.whole, length_append,
    length_append, length_replicate, length_replicate, add_zero, ← hk,
    replicate_zero, append_nil] at hdigits
  rw [← hk] at hxlt
  rw [add_zero, replicate_zero, append_nil] at hylt
  -- The whole parts are the quotients by the power of ten, the fractions the remainders.
  have hwhole : ofDigitChars 10 x.whole 0 = ofDigitChars 10 y.whole 0 := by
    have hpos : 0 < 10 ^ y.fraction.length := by positivity
    have hquotient := congrArg (· / 10 ^ y.fraction.length) hdigits
    simpa only [mul_comm _ (10 ^ y.fraction.length), mul_add_div hpos,
      div_eq_of_lt hxlt, div_eq_of_lt hylt, add_zero] using hquotient
  have hrest : ofDigitChars 10 x.fraction 0 * 10 ^ k = ofDigitChars 10 y.fraction 0 := by
    rw [hwhole, add_left_cancel_iff, ofDigitChars_append_zero x.fraction,
      length_replicate, ofDigitChars_replicate_zero] at hdigits
    simpa using hdigits
  have hk0 : k = 0 := by
    by_contra hpos
    have hne : y.fraction ≠ [] := by
      intro hnil
      rw [hnil, length_nil] at hk
      omega
    refine not_ten_dvd hne hy.trailing hy.digits ?_
    rw [← hrest]
    exact Dvd.dvd.mul_left (dvd_pow_self 10 hpos) _
  subst hk0
  have hfraction : x.fraction = y.fraction := by
    refine eq_of_ofDigitChars_eq hx.digits hy.digits (by omega) ?_
    simpa using hrest
  have hx' := canonicalDecimal_iff.mp ⟨hx.whole, hwhole⟩
  have hy' := canonicalDecimal_iff.mp ⟨hy.whole, rfl⟩
  cases x
  cases y
  simp only [mk.injEq]
  exact ⟨hx'.trans hy'.symm, hfraction⟩

/-- **A canonical numeral is determined by the number it denotes.** -/
theorem Canonical.eq_of_value_eq (hx : x.Canonical) (hy : y.Canonical) (h : x.value = y.value) :
    x = y := by
  rcases le_total x.fraction.length y.fraction.length with hle | hle
  · exact hx.eq_of_value_eq_of_le hy h hle
  · exact (hy.eq_of_value_eq_of_le hx h.symm hle).symm

end Numeral
end Oxid.Text
